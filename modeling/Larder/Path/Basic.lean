import Larder.Text.Split

/-!
# Larder — paths

A path is a root and the components below it. Reading a text drops empty components and `.`, so
two spellings that differ only in repeated slashes, `./` or a trailing slash are one path; `..` is
kept, because only a look at the file system, or a decision to reason lexically, can remove it.
Exactly two leading slashes are a root of their own; three or more count as one.

Lexical reasoning is the stack machine `normalize`: a component is pushed, `..` pops, and at the
root `..` does nothing.

## Results

* `isAbsolute_join`: a path joined to an absolute one is absolute.
-/

namespace Larder

/-- A name that can stand between two slashes: not empty, not `.`, without a slash. -/
structure Component where
  text : String
  /-- The name can stand between two slashes. -/
  valid : text ≠ "" ∧ text ≠ "." ∧ '/' ∉ text.toList
  deriving DecidableEq, Repr

namespace Component

/-- The component with the given characters, if they can be one. -/
def ofChars? (cs : List Char) : Option Component :=
  if h : String.ofList cs ≠ "" ∧ String.ofList cs ≠ "." ∧ '/' ∉ (String.ofList cs).toList then
    some ⟨String.ofList cs, h⟩
  else none

/-- The component `..`, which names the parent. -/
def up : Component := ⟨"..", by decide +kernel⟩

end Component

namespace Path

/-- Where a path starts. -/
inductive Root where
  /-- At the working directory. -/
  | relative
  /-- At `/`. -/
  | single
  /-- At `//`, which stays apart from `/`. -/
  | double
  deriving DecidableEq, Repr

/-- The root that leading slashes name. -/
def Root.ofChars : List Char → Root
  | '/' :: '/' :: '/' :: _ => .single
  | '/' :: '/' :: _ => .double
  | '/' :: _ => .single
  | _ => .relative

/-- The slashes of a root. -/
def Root.toChars : Root → List Char
  | .relative => []
  | .single => ['/']
  | .double => ['/', '/']

end Path

/-- A path: a root and the components below it. -/
structure Path where
  /-- Where the path starts. -/
  root : Path.Root
  /-- The components, from the root downwards. -/
  parts : List Component
  deriving DecidableEq, Repr

namespace Path

/-- The path that the characters spell. -/
def ofChars (cs : List Char) : Path :=
  ⟨Root.ofChars cs, (Text.splitOn '/' cs).filterMap Component.ofChars?⟩

/-- The path that a text spells. -/
def ofString (s : String) : Path := ofChars s.toList

/-- The shortest spelling of a path; the working directory is `.`. -/
def toChars (p : Path) : List Char :=
  if p.root = .relative ∧ p.parts = [] then ['.']
  else p.root.toChars ++ Text.joinWith '/' (p.parts.map fun c => c.text.toList)

/-- The shortest spelling of a path, as a text. -/
def toString (p : Path) : String := String.ofList p.toChars

/-- Whether the path starts at a root. -/
def isAbsolute (p : Path) : Bool := p.root ≠ .relative

/-- The path `q` as seen from `p`: an absolute `q` is itself. -/
def join (p q : Path) : Path := if q.isAbsolute then q else ⟨p.root, p.parts ++ q.parts⟩

/-- The path one component further down. -/
def child (p : Path) (c : Component) : Path := ⟨p.root, p.parts ++ [c]⟩

/-- The path with its last component removed; a root is its own parent. -/
def parent (p : Path) : Path := ⟨p.root, p.parts.dropLast⟩

/-- One component met by the stack machine, whose stack has its top first: `..` pops, and on an
empty stack it is dropped at a root and kept elsewhere. -/
def push (absolute : Bool) (stack : List Component) (c : Component) : List Component :=
  if c = Component.up then
    match stack with
    | [] => if absolute then [] else [c]
    | top :: rest => if top = Component.up then c :: stack else rest
  else c :: stack

/-- The path with every `..` resolved lexically, as far as that is possible. -/
def normalize (p : Path) : Path :=
  ⟨p.root, (p.parts.foldl (push p.isAbsolute) []).reverse⟩

/-- The path anchored at the working directory, its `..` kept. -/
def anchor (cwd p : Path) : Path := cwd.join p

/-- The path anchored at the working directory and normalised. -/
def absolute (cwd p : Path) : Path := (cwd.join p).normalize

/-- The path that a relative specifier names in the document `file`: lexical, seen from the
directory of the document. -/
def resolveFrom (cwd file specifier : Path) : Path :=
  ((cwd.absolute file).parent.join specifier).normalize

/-! ## What written paths have in common -/

/-- The names in a written path: what stands between its slashes, except nothing and `.`. -/
def pieces (text : List Char) : List (List Char) :=
  (Text.splitOn '/' text).filter fun piece => piece ≠ [] && piece ≠ ['.']

/-- Whether a written path starts at a root. -/
def isRooted (text : List Char) : Bool := text.head? = some '/'

/-- Why written paths have no common path. -/
inductive Discord where
  | noPaths
  /-- Some start at a root and some do not. -/
  | mixed
  deriving DecidableEq, Repr

/-- The first of some values in an order; of values that come together the one that is met first. -/
def foremost (before : α → α → Bool) (first : α) (others : List α) : α :=
  others.foldl (fun found other => if before other found then other else found) first

/-- The names with which both lists begin. -/
def sharedNames : List (List Char) → List (List Char) → List (List Char)
  | name :: names, name' :: names' =>
    if name = name' then name :: sharedNames names names' else []
  | _, _ => []

/-- The longest path that written paths have in common, with one slash if they start at a root. Only
the least and the greatest list of names are looked at, by code points: what these share all share. -/
def commonPath : List (List Char) → Except Discord (List Char)
  | [] => .error .noPaths
  | text :: rest =>
    if rest.all fun other => isRooted other = isRooted text then
      let least := foremost (fun a b => a < b) (pieces text) (rest.map pieces)
      let greatest := foremost (fun a b => b < a) (pieces text) (rest.map pieces)
      .ok ((if isRooted text then ['/'] else []) ++
        Text.joinWith '/' (sharedNames least greatest))
    else .error .mixed

/-- Whether `p` is `root` or lies below it: whether the common path of their absolute forms is that
of `root`. -/
def isWithin (cwd p root : Path) : Bool :=
  let candidate := (cwd.absolute p).normalize.toChars
  let base := (cwd.absolute root).normalize.toChars
  match commonPath [candidate, base] with
  | .ok common => common = base
  | .error _ => false

/-! ## First facts -/

/-- An absolute path stays itself when joined to another. -/
theorem join_of_isAbsolute {p q : Path} (h : q.isAbsolute = true) : p.join q = q := by
  simp [join, h]

/-- What is joined to an absolute path is absolute. -/
theorem isAbsolute_join {p q : Path} (h : p.isAbsolute = true) : (p.join q).isAbsolute = true := by
  unfold join
  split
  · assumption
  · exact h

/-- Normalising keeps the root. -/
@[simp] theorem root_normalize (p : Path) : p.normalize.root = p.root := rfl

end Path

end Larder
