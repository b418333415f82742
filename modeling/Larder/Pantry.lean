import Larder.Fault
import Larder.Registry

/-!
# Larder — pantries

A pantry publishes ingredients; an ingredient is a directory with entry points, one file for each
kind of asset. The entry point of an ingredient is found by name alone: whether the file is there
is for the host to see.

## Results

* `name_named`: a registered pantry has a name that is not empty, if the registered name is not.
* `entryPointFor_eq_ok_iff`: when an entry point is found.
-/

namespace Larder

/-- A component that a pantry publishes. -/
structure Ingredient where
  /-- The name within the pantry, if the descriptor gives one. -/
  name : Option String
  path : Path
  /-- The file of each kind of asset. -/
  entryPoints : Registry String String
  deriving DecidableEq, Repr

/-- A loaded pantry. -/
structure Pantry where
  /-- The name, if the descriptor gives one. -/
  name : Option String
  /-- The directory of the pantry, if it has one. -/
  path : Option Path
  /-- The ingredients by name. -/
  ingredients : Registry String Ingredient
  deriving DecidableEq, Repr

namespace Pantry

/-- The kind of entry point that a style import asks for. -/
def styleKind : String := "sass"

/-- The name a pantry goes by, if it has one of its own. -/
def ownName? (p : Pantry) : Option String := p.name.filter fun n => n ≠ ""

/-- The pantry under a registered name: its own name wins. -/
def named (p : Pantry) (name : String) : Pantry :=
  match p.ownName? with
  | some _ => p
  | none => ⟨some name, p.path, p.ingredients⟩

/-- The name that messages use. -/
def displayName (p : Pantry) : String := p.ownName?.getD "<unnamed>"

/-- The file of an ingredient's entry point of some kind. -/
def entryPointFor (cwd : Path) (p : Pantry) (ingredient kind : String) : Except Fault Path :=
  match p.ingredients.get? ingredient with
  | none => .error (.noIngredient p.displayName ingredient)
  | some found =>
    match found.entryPoints.get? kind with
    | none => .error (.noEntryPoint p.displayName ingredient kind)
    | some file => .ok (cwd.absolute (found.path.join (Path.ofString file)))

/-- A registered pantry keeps its ingredients. -/
@[simp] theorem ingredients_named (p : Pantry) (name : String) :
    (p.named name).ingredients = p.ingredients := by
  unfold named; split <;> rfl

/-- A registered pantry keeps its directory. -/
@[simp] theorem path_named (p : Pantry) (name : String) : (p.named name).path = p.path := by
  unfold named; split <;> rfl

/-- A registered pantry goes by its own name, or else by the registered one. -/
theorem name_named (p : Pantry) (name : String) :
    (p.named name).name = some (p.ownName?.getD name) := by
  unfold named
  split
  · rename_i own h
    simp only [h, Option.getD_some]
    exact (Option.filter_eq_some_iff.mp h).1
  · rename_i h
    simp [h]

/-- An entry point is found exactly when the ingredient and its file of that kind are there. -/
theorem entryPointFor_eq_ok_iff {cwd : Path} {p : Pantry} {ingredient kind : String}
    {path : Path} :
    p.entryPointFor cwd ingredient kind = .ok path ↔
      ∃ found file, p.ingredients.get? ingredient = some found ∧
        found.entryPoints.get? kind = some file ∧
        cwd.absolute (found.path.join (Path.ofString file)) = path := by
  unfold entryPointFor
  split
  · simp_all
  · split <;> simp_all

end Pantry

end Larder
