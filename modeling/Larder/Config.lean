import Larder.Pantry
import Larder.Text.Blank

/-!
# Larder — configuration

What an importer is told at the start: pantries known beforehand, each a descriptor or the place to
load it from, and the search paths for all others. The configuration is a host value that is
checked against a schema; every place that does not fit is reported.

## Results

* `seedOf_str`: a text is always a place to load from.
-/

namespace Larder

open Checked

/-! ## Descriptors -/

/-- A path. -/
def Checked.path : Value → Checked Path
  | .str s => .ok (Path.ofString s)
  | _ => Checked.fail .pathType

/-- A path or nothing. -/
def Checked.path? : Value → Checked (Option Path)
  | .null => .ok none
  | .str s => .ok (some (Path.ofString s))
  | _ => Checked.fail .pathType

/-- An entry point: an object with a file name. -/
def entryPointOf : Value → Checked String
  | .object members => required members "filename" string
  | _ => Checked.fail .modelType

/-- The entry points of an ingredient by kind. -/
def entryPointsOf (v : Value) : Checked (Registry String String) :=
  seq (.ok Registry.ofList) (mapping entryPointOf v)

/-- The spelling under which an ingredient lists its entry points. -/
def entryPointsKey (members : List (String × Value)) : String :=
  if (members.lookup "entryPoints").isSome then "entryPoints" else "entry_points"

/-- An ingredient. -/
def ingredientOf : Value → Checked Ingredient
  | .object members =>
    seq (seq (seq (.ok Ingredient.mk)
      (optional members "name" none string?))
      (required members "path" Checked.path))
      (optional members (entryPointsKey members) Registry.empty entryPointsOf)
  | _ => Checked.fail .modelType

/-- The ingredients of a pantry by name. -/
def ingredientsOf (v : Value) : Checked (Registry String Ingredient) :=
  seq (.ok Registry.ofList) (mapping ingredientOf v)

/-- A pantry descriptor. -/
def pantryOf : Value → Checked Pantry
  | .object members =>
    seq (seq (seq (.ok Pantry.mk)
      (optional members "name" none string?))
      (optional members "path" none Checked.path?))
      (optional members "ingredients" Registry.empty ingredientsOf)
  | _ => Checked.fail .modelType

/-! ## Seeds and search paths -/

/-- A pantry known beforehand. -/
inductive Seed where
  | descriptor (pantry : Pantry)
  | location (path : Path)
  deriving DecidableEq, Repr

/-- A seed: a text is a place, and an object that fits is a descriptor. Anything else reports both
readings. -/
def seedOf : Value → Checked Seed
  | .str s => .ok (.location (Path.ofString s))
  | v =>
    match under (.key "Pantry") (pantryOf v) with
    | .ok pantry => .ok (.descriptor pantry)
    | .error errors => .error (errors ++ [⟨[.key "Path"], .pathType⟩])

/-- A text is always a place to load from. -/
theorem seedOf_str (s : String) : seedOf (.str s) = .ok (.location (Path.ofString s)) := rfl

/-- Seeds by pantry name; a blank name is refused. -/
def seedsOf (v : Value) : Checked (Registry String Seed) :=
  match mapping seedOf v with
  | .error errors => .error errors
  | .ok seeds =>
    if seeds.any fun s => Text.isBlankText s.1 then Checked.fail .valueError
    else .ok (Registry.ofList seeds)

/-- Search paths, anchored at the working directory. -/
def searchPathsOf (cwd : Path) (v : Value) : Checked (List Path) :=
  seq (.ok (List.map cwd.anchor)) (sequence Checked.path v)

/-- What an importer is told at the start. -/
structure Config where
  /-- The pantries known beforehand, by name. -/
  pantries : Registry String Seed
  /-- Where all other pantries are looked for, in order. -/
  searchPaths : List Path
  deriving DecidableEq, Repr

namespace Config

/-- The dependency folder. -/
def dependencyFolder : Component := ⟨"node_modules", by decide +kernel⟩

/-- The search paths that hold without configuration. -/
def defaultSearchPaths (cwd : Path) : List Path := [cwd.child dependencyFolder]

/-- The spellings of the member that lists search paths; the first that is present is read. -/
def searchPathKeys : List String := ["search_paths", "pantrySearchPaths", "searchPaths"]

/-- The spelling under which the search paths are given. -/
def searchPathKey? (members : List (String × Value)) : Option String :=
  searchPathKeys.find? fun key => (members.lookup key).isSome

/-- The search paths of a configuration. -/
def searchPathsIn (cwd : Path) (members : List (String × Value)) : Checked (List Path) :=
  match searchPathKey? members with
  | none => .ok (defaultSearchPaths cwd)
  | some key => optional members key (defaultSearchPaths cwd) (searchPathsOf cwd)

/-- The members that a configuration does not know. -/
def unknownKeys (members : List (String × Value)) : List String :=
  (members.map Prod.fst).filter fun key =>
    key ≠ "pantries" && decide (searchPathKey? members ≠ some key)

/-- Refuses members that are not known. -/
def noUnknown (members : List (String × Value)) : Checked Unit :=
  match unknownKeys members with
  | [] => .ok ()
  | keys => .error (keys.map fun key => ⟨[.key key], .extraForbidden⟩)

/-- A configuration with the given members. -/
def ofMembers (cwd : Path) (members : List (String × Value)) : Checked Config :=
  seq (seq (seq (.ok fun pantries searchPaths (_ : Unit) => ⟨pantries, searchPaths⟩)
    (optional members "pantries" Registry.empty seedsOf))
    (searchPathsIn cwd members))
    (noUnknown members)

/-- The configuration that a host value gives. -/
def load (cwd : Path) : Value → Except Fault Config
  | .null => .ok ⟨Registry.empty, defaultSearchPaths cwd⟩
  | .object members =>
    match ofMembers cwd members with
    | .ok config => .ok config
    | .error errors => .error (.configInvalid errors)
  | v => .error (.configNotMapping v.typeName)

end Config

end Larder
