import Larder.Outcome
import Larder.Text.JsonString

/-!
# Larder — reports

How the outcome of an import is shown: as a row with the specifier, a label and a detail, and the
row as one JSON object on one line.
-/

namespace Larder

/-- An outcome as it is shown. -/
structure Row where
  /-- What was imported. -/
  specifier : String
  /-- What kind of outcome it was. -/
  label : String
  /-- The file, the quoted contents, or what went wrong. -/
  detail : String
  deriving DecidableEq, Repr

namespace Row

/-- The label of an import that failed. -/
def errorLabel : String := "error"

/-- The row of an outcome. -/
def ofOutcome (specifier : String) : Outcome → Row
  | .file path => ⟨specifier, "file", path⟩
  | .contents text => ⟨specifier, "contents", Text.quote text⟩
  | .failure _ fault => ⟨specifier, errorLabel, fault.message⟩
  | .passThrough => ⟨specifier, "pass-through", ""⟩

/-- Whether the import of a row failed. -/
def isError (r : Row) : Bool := r.label = errorLabel

/-- The row as a JSON object on one line. -/
def toJson (r : Row) : String :=
  "\x7b\"specifier\": " ++ Text.jsonString r.specifier ++ ", \"outcome\": "
    ++ Text.jsonString r.label ++ ", \"detail\": " ++ Text.jsonString r.detail ++ "\x7d"

end Row

end Larder
