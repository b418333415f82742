import Larder.Pantry
import Larder.Tree

/-!
# Larder — discovery

How pantries are found in a directory tree. A pantry is a directory of its name in one of the
search paths. Each directory below it that holds the marker file `ingredient.md` is an ingredient;
its entry points are the files with conventional names beside the marker.

The scan goes from the top down and visits the directories of one directory in the order of their
names. It skips hidden directories and dependency folders, and it lists linked directories without
entering them.

## Results

* `sortNames_perm`: sorting keeps the names.
-/

namespace Larder

/-- Puts a name at its place in a list sorted by text. -/
def insertName (c : Component) : List Component → List Component
  | [] => [c]
  | d :: rest => if c.text ≤ d.text then c :: d :: rest else d :: insertName c rest

/-- Names in the order of their texts, code point by code point. -/
def sortNames : List Component → List Component
  | [] => []
  | c :: rest => insertName c (sortNames rest)

theorem insertName_perm (c : Component) (cs : List Component) :
    (insertName c cs).Perm (c :: cs) := by
  induction cs with
  | nil => exact List.Perm.refl _
  | cons d rest ih =>
    unfold insertName
    split
    · exact List.Perm.refl _
    · exact (List.Perm.cons d ih).trans (List.Perm.swap c d rest)

/-- Sorting keeps the names. -/
theorem sortNames_perm (cs : List Component) : (sortNames cs).Perm cs := by
  induction cs with
  | nil => exact List.Perm.refl _
  | cons c rest ih => exact (insertName_perm c _).trans (List.Perm.cons c ih)

/-- Something a discovery has to tell while it looks. -/
inductive Note where
  /-- A directory of the pantry's name was found. -/
  | found (pantry : String) (path : Path)
  /-- A pantry was loaded with so many ingredients. -/
  | loaded (pantry : String) (ingredients : Nat)
  deriving DecidableEq, Repr

/-- What a discovery has to tell, and what it came to. -/
structure Finding where
  /-- What was told on the way. -/
  notes : List Note
  /-- The pantry, or why there is none. -/
  result : Except Fault Pantry

/-- A directory tree as discovery sees it. -/
structure Discovery where
  /-- The directories, files and links. -/
  tree : Tree
  cwd : Path
  /-- The file name that marks each kind of entry point. -/
  fileNames : Registry String String

namespace Discovery

/-- The file that makes a directory an ingredient. -/
def marker : String := "ingredient.md"

/-- The conventional file names. -/
def defaultFileNames : Registry String String :=
  Registry.ofList [("sass", "index.scss"), ("javascript", "index.js"),
    ("handlebars", "index.hbs"), ("model", "model.js")]

/-- The file names to go by: the given ones, or the conventional ones if none are given. -/
def fileNamesOrDefault (given : Registry String String) : Registry String String :=
  if given.entries = [] then defaultFileNames else given

/-- Whether the scan passes a directory by: it is hidden or a dependency folder. -/
def isSkipped (c : Component) : Bool :=
  c.text = "node_modules" || c.text.toList.head? = some '.'

/-- Whether a path is a directory; a name that is too long for one is a fault. -/
def isDirectory (d : Discovery) (p : Path) : Except Fault Bool :=
  match d.tree.arrive d.cwd p with
  | .directory _ => .ok true
  | .tooLong => .error (.nameTooLong p)
  | _ => .ok false

/-- The path of a directory so far below a pantry. -/
def pathBelow (root : Path) (below : List Component) : Path := ⟨root.root, root.parts ++ below⟩

/-- Whether what a directory holds under a name counts as a directory. Of a link the whole path is
asked for, so the links on the way to the pantry count too. -/
def holdsDirectory (d : Discovery) (root : Path) (place : Place) (below : List Component)
    (c : Component) : Bool :=
  match d.tree.get? place c with
  | some .directory => true
  | some (.link _) => d.tree.leadsToDirectory d.cwd (pathBelow root (below ++ [c]))
  | _ => false

/-- The names in a directory that do not count as directories. -/
def filesIn (d : Discovery) (root : Path) (place : Place) (below : List Component) : List String :=
  ((d.tree.children place).filter fun c => !d.holdsDirectory root place below c).map Component.text

/-- The directories that the scan enters from a directory, in order. One whose path is too long to
be asked for cannot be read. -/
def entered (d : Discovery) (root : Path) (place : Place) (below : List Component) :
    List Component :=
  sortNames ((d.tree.children place).filter fun c =>
    !isSkipped c && decide (d.tree.get? place c = some .directory)
      && !Tree.isOverlong (pathBelow root (below ++ [c])))

/-- The name of an ingredient that lies so far below its pantry. -/
def nameBelow (below : List Component) : String := "/".intercalate (below.map Component.text)

/-- The ingredient in a directory with these files. -/
def ingredientAt (fileNames : Registry String String) (root : Path) (below : List Component)
    (files : List String) : Ingredient where
  name := some (nameBelow below)
  path := pathBelow root below
  entryPoints := Registry.ofList (fileNames.entries.filter fun e => files.contains e.2)

/-- The ingredient that a directory strictly below the pantry is, if it holds the marker. -/
def ingredientIn (d : Discovery) (root : Path) (place : Place) (below : List Component) :
    List Ingredient :=
  let files := d.filesIn root place below
  if below ≠ [] ∧ files.contains marker then [ingredientAt d.fileNames root below files] else []

/-- The ingredients in a directory and those below it, so many levels deep. -/
def scanFrom (d : Discovery) (root : Path) : Nat → Place → List Component → List Ingredient
  | 0, place, below => d.ingredientIn root place below
  | depth + 1, place, below =>
    d.ingredientIn root place below ++
      (d.entered root place below).flatMap fun c =>
        d.scanFrom root depth (place ++ [c]) (below ++ [c])

/-- The ingredients of the pantry in a directory. No way down is longer than the tree has
entries. -/
def scan (d : Discovery) (root : Path) (place : Place) : List Ingredient :=
  d.scanFrom root d.tree.nodes.entries.length place []

/-- The pantry at a path, under a name. -/
def load (d : Discovery) (name : String) (path : Path) : Finding :=
  let root := d.cwd.absolute path
  match d.tree.arrive d.cwd root with
  | .directory place =>
    let found := Registry.ofList
      ((d.scan root place).filterMap fun i => i.name.map fun n => (n, i))
    ⟨[.loaded name found.entries.length], .ok ⟨some name, some root, found⟩⟩
  | .tooLong => ⟨[], .error (.nameTooLong root)⟩
  | _ => ⟨[], .error (.pantryNotFound name [root])⟩

/-- Where a pantry of some name would be in a search path. -/
def candidate (name : String) (searchPath : Path) : Path :=
  ⟨searchPath.root,
    searchPath.parts ++ (Text.splitOn '/' name.toList).filterMap Component.ofChars?⟩

/-- The pantry in the first of some search paths that has a directory of its name; `all` are the
search paths that a failure reports. -/
def discoverIn (d : Discovery) (name : String) (all : List Path) : List Path → Finding
  | [] => ⟨[], .error (.pantryNotFound name all)⟩
  | searchPath :: rest =>
    let path := candidate name searchPath
    match d.isDirectory path with
    | .error fault => ⟨[], .error fault⟩
    | .ok true =>
      let loaded := d.load name path
      ⟨.found name path :: loaded.notes, loaded.result⟩
    | .ok false => d.discoverIn name all rest

/-- The pantry of a name, looked for in the search paths in order. -/
def discover (d : Discovery) (name : String) (searchPaths : List Path) : Finding :=
  d.discoverIn name searchPaths searchPaths

end Discovery

end Larder
