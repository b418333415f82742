import Larder.Text.CaseTable
import Larder.Text.Ranges

/-!
# Larder — capitalised text

A text is capitalised by title-casing its first character and lower-casing all others. A capital
sigma becomes the final form `ς` when a cased character stands before it and none follows, both
looked for past the characters that case ignores; otherwise it becomes `σ`.
-/

namespace Larder.Text

/-- A character with case that is not skipped when case is looked for. -/
def isCased (c : Char) : Bool := inRanges casedRanges c

/-- A character that is skipped when case is looked for. -/
def isCaseIgnorable (c : Char) : Bool := inRanges caseIgnorableRanges c

/-- The image of a character: its expansion if it has one, else the shifted character. -/
def caseImage (expansions : List (Nat × List Nat)) (runs : List CaseRun) (c : Char) : List Char :=
  match expansions.lookup c.toNat with
  | some image => image.map Char.ofNat
  | none => [Char.ofNat (shifted runs c.toNat)]

/-- The title-case form of a character. -/
def titleForm (c : Char) : List Char := caseImage titleExpansions titleRuns c

/-- The lower-case form of a character that stands alone. -/
def lowerForm (c : Char) : List Char := caseImage lowerExpansions lowerRuns c

/-- Whether the first character that case does not ignore has case. -/
def meetsCased (cs : List Char) : Bool :=
  (cs.dropWhile isCaseIgnorable).head?.any isCased

/-- A sigma between `before` (nearest character first) and `after` ends a word. -/
def isFinalSigma (before after : List Char) : Bool :=
  meetsCased before && !meetsCased after

/-- Lower-cases a text that follows `before` (nearest character first). -/
def lowerAfter (before : List Char) : List Char → List Char
  | [] => []
  | c :: rest =>
    (if c = 'Σ' then [if isFinalSigma before rest then 'ς' else 'σ'] else lowerForm c)
      ++ lowerAfter (c :: before) rest

/-- Title-cases the first character and lower-cases the others. -/
def capitalize (s : String) : String :=
  match s.toList with
  | [] => ""
  | c :: rest => String.ofList (titleForm c ++ lowerAfter [c] rest)

end Larder.Text
