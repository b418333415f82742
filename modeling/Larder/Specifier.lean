import Larder.Path.Basic
import Larder.Value

/-!
# Larder — import specifiers

What an import names. A specifier is a path from a root, a path relative to the importing
document, the citation of an ingredient in a pantry, or something the host alone understands.
Classification is total: whatever is handed over gets a reading.

A citation is written `[@scope/]pantry/ingredient`, where the ingredient may be several segments
deep. One line break at the very end of a citation is not part of it.
-/

namespace Larder

/-! ## Segments -/

/-- A character that can start a segment. -/
def isSegmentHead (c : Char) : Bool := c.isAlphanum || c = '_' || c = '~' || c = '-'

/-- A character that can follow in a segment. -/
def isSegmentTail (c : Char) : Bool := isSegmentHead c || c = '.'

/-- Whether the characters form a segment: at least one, the first of them not a dot. -/
def isSegment : List Char → Bool
  | [] => false
  | c :: rest => isSegmentHead c && rest.all isSegmentTail

/-- One piece of a citation. -/
structure Segment where
  /-- The characters of the segment. -/
  text : String
  /-- They form a segment. -/
  valid : isSegment text.toList = true
  deriving DecidableEq, Repr

/-- The segment with the given characters, if they form one. -/
def Segment.ofChars? (cs : List Char) : Option Segment :=
  if h : isSegment (String.ofList cs).toList = true then some ⟨String.ofList cs, h⟩ else none

/-! ## Citations -/

/-- An ingredient of a pantry, as an import cites it. -/
structure Citation where
  /-- The scope of the pantry, if it has one. -/
  scope : Option Segment
  /-- The pantry within its scope. -/
  pantry : Segment
  /-- The first segment of the ingredient. -/
  ingredient : Segment
  /-- The segments below the first. -/
  deeper : List Segment
  deriving DecidableEq, Repr

namespace Citation

/-- The name that the pantry is registered under, scope included. -/
def pantryName (r : Citation) : String :=
  match r.scope with
  | none => r.pantry.text
  | some scope => "@" ++ scope.text ++ "/" ++ r.pantry.text

/-- The name of the ingredient within its pantry. -/
def ingredientName (r : Citation) : String :=
  "/".intercalate ((r.ingredient :: r.deeper).map Segment.text)

/-- The citation as it is written. -/
def render (r : Citation) : String := r.pantryName ++ "/" ++ r.ingredientName

/-- A text without the one line break that may end it. -/
def chopNewline (cs : List Char) : List Char :=
  if cs.getLast? = some '\n' then cs.dropLast else cs

/-- The citation made of pieces, the scope already taken off. -/
def ofPieces? (scope : Option Segment) : List (List Char) → Option Citation
  | pantry :: first :: more => do
    let pantry ← Segment.ofChars? pantry
    let first ← Segment.ofChars? first
    let more ← more.mapM Segment.ofChars?
    some ⟨scope, pantry, first, more⟩
  | _ => none

/-- The citation that the characters spell, if they spell one. -/
def ofChars? (cs : List Char) : Option Citation :=
  match Text.splitOn '/' (chopNewline cs) with
  | ('@' :: scope) :: pieces => do ofPieces? (some (← Segment.ofChars? scope)) pieces
  | pieces => ofPieces? none pieces

/-- The citation that a text spells, if it spells one. -/
def ofString? (s : String) : Option Citation := ofChars? s.toList

end Citation

/-! ## Classification -/

/-- Whether nothing, a slash, a backslash, or one last line break follows. -/
def endsDots : List Char → Bool
  | [] => true
  | '/' :: _ => true
  | '\\' :: _ => true
  | ['\n'] => true
  | _ => false

/-- Whether a text starts like a relative path: one or two dots, then an end or a slash of either
kind. -/
def startsRelative : List Char → Bool
  | '.' :: '.' :: rest => endsDots rest
  | '.' :: rest => endsDots rest
  | _ => false

/-- What an import names. -/
inductive Reference where
  /-- A path from a root, as written. -/
  | absolute (path : String)
  /-- The path that a relative specifier leads to. -/
  | relative (path : Path)
  | ingredient (citation : Citation)
  /-- Something that only the host understands. -/
  | unrecognized (text : String)
  deriving DecidableEq, Repr

/-- The document that an import stands in, if it has a name. -/
def documentName? : Value → Option String
  | .str file => if file = "" then none else some file
  | _ => none

/-- The reading of a specifier that is a text with at least one character. -/
def classifyText (cwd : Path) (specifier : String) (file : Value) : Reference :=
  let cs := specifier.toList
  if cs.head? = some '/' then .absolute specifier
  else if startsRelative cs then
    match documentName? file with
    | some name => .relative (cwd.resolveFrom (Path.ofString name) (Path.ofString specifier))
    | none => .unrecognized specifier
  else
    match Citation.ofChars? cs with
    | some citation => .ingredient citation
    | none => .unrecognized specifier

/-- The reading of a specifier found in a document. -/
def classify (cwd : Path) (specifier file : Value) : Reference :=
  match specifier with
  | .str s => if s = "" then .unrecognized "" else classifyText cwd s file
  | v => .unrecognized v.text

end Larder
