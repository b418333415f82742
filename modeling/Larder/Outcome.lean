import Larder.Emission
import Larder.Pantry

/-!
# Larder — outcomes

What a single import comes to: the file to read instead, contents to put in its place, a failure,
or nothing at all because the host is to resolve the import itself.

## Results

* `Emission.answer_of_contains`: a path that was given before is answered by empty contents.
* `Emission.answer_of_not_contains`: any other path is recorded and answered by the fresh outcome.
-/

namespace Larder

/-- What an import comes to. -/
inductive Outcome where
  /-- Read the file of this path. -/
  | file (path : String)
  /-- Take these contents. -/
  | contents (text : String)
  /-- The import cannot be resolved. -/
  | failure (specifier : String) (fault : Fault)
  /-- The host resolves the import itself. -/
  | passThrough
  deriving DecidableEq, Repr

namespace Outcome

/-- The contents that stand for a file given before. -/
def suppressed : Outcome := .contents ""

/-- The wording of a failed import, where the fault has one. -/
def failureMessage? (specifier : String) (fault : Fault) : Option String :=
  fault.message?.map fun reason => "Failed to resolve \"" ++ specifier ++ "\": " ++ reason

end Outcome

/-- Records a path and answers for it: with the fresh outcome the first time, with empty contents
afterwards. -/
def Emission.answer (e : Emission) (path : Path) (fresh : Outcome) : Emission × Outcome :=
  let r := e.record path
  (r.1, if r.2 then fresh else Outcome.suppressed)

/-- A path that was given before is answered by empty contents, and nothing is recorded. -/
theorem Emission.answer_of_contains {e : Emission} {path : Path} {fresh : Outcome}
    (h : e.contains path = true) : e.answer path fresh = (e, Outcome.suppressed) := by
  simp [answer, record, h]

/-- A path that was not given before is recorded and answered by the fresh outcome. -/
theorem Emission.answer_of_not_contains {e : Emission} {path : Path} {fresh : Outcome}
    (h : e.contains path = false) : e.answer path fresh = (e.insert path, fresh) := by
  simp [answer, record, h]

end Larder
