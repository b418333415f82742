import Larder.Path.Basic
import Larder.Registry

/-!
# Larder — directory trees

A tree of directories, files and symbolic links, and how a path leads through it. The tree is flat:
it says of each directory and name what is there. The root is always a directory.

Following a path walks its components one by one. `..` leads to the real parent of the directory
reached so far, a link is replaced by its target, and at most forty links are followed. A tree is
built the same way: what is entered at a path stands in the directory that its parent leads to.

## Results

* `mem_children`: the names in a directory are those something is kept under.
-/

namespace Larder

/-- A directory, by the names that lead to it from the root without any link. -/
abbrev Place : Type := List Component

/-- What a directory can hold under a name. -/
inductive Node where
  | file
  | directory
  | link (target : Path)
  deriving DecidableEq, Repr

/-- A tree: what each directory holds under each name. -/
structure Tree where
  /-- What is held, by directory and name. -/
  nodes : Registry (Place × Component) Node := {}
  deriving DecidableEq, Repr

/-- Where a path leads. -/
inductive Arrival where
  /-- To a directory. -/
  | directory (place : Place)
  /-- To something that is no directory. -/
  | other
  /-- Nowhere: a name is not there, leads through a file, or goes round in links. -/
  | absent
  /-- Nowhere: the path is longer than can be asked for, or an existing directory was asked for a
  name longer than it can hold. -/
  | tooLong
  deriving DecidableEq, Repr

namespace Tree

/-- The tree that has the root alone. -/
def empty : Tree := {}

/-- What a directory holds under a name. -/
def get? (t : Tree) (place : Place) (name : Component) : Option Node := t.nodes.get? (place, name)

/-- The names in a directory. -/
def children (t : Tree) (place : Place) : List Component :=
  t.nodes.keys.filterMap fun key => if key.1 = place then some key.2 else none

/-- The names in a directory are those something is kept under. -/
theorem mem_children {t : Tree} {place : Place} {name : Component} :
    name ∈ t.children place ↔ (place, name) ∈ t.nodes.keys := by
  unfold children
  rw [List.mem_filterMap]
  constructor
  · rintro ⟨⟨p, n⟩, hMem, hEq⟩
    split at hEq
    · rename_i h
      simp only at h
      simp only [Option.some.injEq] at hEq
      subst h hEq
      exact hMem
    · exact absurd hEq (by simp)
  · intro h
    exact ⟨(place, name), h, by simp⟩

/-! ## Following paths -/

/-- The longest name, in bytes, that a directory can hold. -/
def nameLimit : Nat := 255

/-- The longest path, in bytes, that can be asked for. -/
def pathLimit : Nat := 4095

/-- Whether a path is too long to be asked for. -/
def isOverlong (p : Path) : Bool := pathLimit < p.toString.utf8ByteSize

/-- The number of links that are followed before a path counts as going round. -/
def linkLimit : Nat := 40

/-- Walks the components of a path; at a link it hands its base and the rest of the way to
`jump`. -/
def walk (t : Tree) (jump : Place → List Component → Arrival) (place : Place) :
    List Component → Arrival
  | [] => .directory place
  | c :: rest =>
    if c = Component.up then walk t jump place.dropLast rest
    else if nameLimit < c.text.utf8ByteSize then .tooLong
    else
      match t.get? place c with
      | none => .absent
      | some .directory => walk t jump (place ++ [c]) rest
      | some .file => if rest = [] then .other else .absent
      | some (.link target) =>
        jump (if target.isAbsolute then [] else place) (target.parts ++ rest)

/-- Where a way leads from a directory when so many links may be followed. -/
def follow (t : Tree) : Nat → Place → List Component → Arrival
  | 0 => walk t fun _ _ => .absent
  | links + 1 => walk t (follow t links)

/-- Whether a path has a NUL in it. -/
def hasNul (p : Path) : Bool := p.parts.any fun c => c.text.toList.contains '\x00'

/-- Where a path leads, seen from the working directory. A path with a NUL leads nowhere, and one
that is too long is refused before anything is looked up. -/
def arrive (t : Tree) (cwd p : Path) : Arrival :=
  if hasNul p then .absent
  else if isOverlong (cwd.join p) then .tooLong
  else t.follow linkLimit [] (cwd.join p).parts

/-- Whether a path leads to a directory. -/
def leadsToDirectory (t : Tree) (cwd p : Path) : Bool :=
  match t.arrive cwd p with
  | .directory _ => true
  | _ => false

/-! ## Building a tree -/

/-- The tree with a node entered, unless something is there already. -/
def enter (t : Tree) (place : Place) (name : Component) (node : Node) : Tree :=
  match t.get? place name with
  | some _ => t
  | none => ⟨t.nodes.insert (place, name) node⟩

/-- The directory that a way leads to, with every directory entered that is missing on it. There is
none if the way leads through something else. -/
def reach (t : Tree) (place : Place) : List Component → Option (Tree × Place)
  | [] => some (t, place)
  | c :: rest =>
    if c = Component.up then t.reach place.dropLast rest
    else
      match t.get? place c with
      | none => (t.enter place c .directory).reach (place ++ [c]) rest
      | some .directory => t.reach (place ++ [c]) rest
      | some .file => none
      | some (.link _) =>
        match t.follow linkLimit place [c] with
        | .directory next => t.reach next rest
        | _ => none

/-- The tree with a node under the last name of a path, in the directory that the path before it
leads to. -/
def enterAt (t : Tree) (node : Node) (p : Path) : Tree :=
  match p.parts.getLast?, t.reach [] p.parts.dropLast with
  | some c, some (t, place) => if c = Component.up then t else t.enter place c node
  | _, _ => t

/-- The tree with the given directories, files and links, entered in this order. -/
def ofPaths (directories files : List Path) (links : List (Path × Path)) : Tree :=
  let t := directories.foldl (enterAt · .directory ·) empty
  let t := files.foldl (enterAt · .file ·) t
  links.foldl (fun t l => t.enterAt (.link l.2) l.1) t

end Tree

end Larder
