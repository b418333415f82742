import Larder.Value

/-!
# Larder — checked values

Host values are checked against a schema. A check either yields what it was looking for or lists
every place that does not fit; it does not stop at the first one.

## Results

* `seq_eq_ok_iff`: two checks in sequence succeed exactly when both do.
-/

namespace Larder

/-- Why a value does not fit. -/
inductive SchemaError.Reason where
  | stringType
  | pathType
  | dictType
  | listType
  /-- An object with declared members was needed. -/
  | modelType
  | missing
  | extraForbidden
  /-- The value fits its type but is not acceptable. -/
  | valueError
  deriving DecidableEq, Repr

/-- One step into a value. -/
inductive SchemaError.Step where
  /-- The member under a key, or a reading that was tried. -/
  | key (name : String)
  /-- The item at a position. -/
  | index (position : Nat)
  deriving DecidableEq, Repr

/-- A place that does not fit. -/
structure SchemaError where
  /-- The way from the checked value to the place. -/
  loc : List SchemaError.Step
  /-- Why it does not fit. -/
  reason : SchemaError.Reason
  deriving DecidableEq, Repr

/-- The result of a check: a value, or all places that do not fit. -/
abbrev Checked (α : Type) : Type := Except (List SchemaError) α

namespace Checked

/-- A check that fails at the value itself. -/
def fail (reason : SchemaError.Reason) : Checked α := .error [⟨[], reason⟩]

/-- The same result, with its places seen from one step further out. -/
def under (step : SchemaError.Step) : Checked α → Checked α
  | .ok a => .ok a
  | .error errors => .error (errors.map fun e => ⟨step :: e.loc, e.reason⟩)

/-- Two checks in sequence; the places of both are listed. -/
def seq (f : Checked (α → β)) (a : Checked α) : Checked β :=
  match f, a with
  | .ok f, .ok a => .ok (f a)
  | .ok _, .error errors => .error errors
  | .error errors, .ok _ => .error errors
  | .error first, .error second => .error (first ++ second)

/-- Checks of all items of a sequence; the places of all are listed. -/
def all : List (Checked α) → Checked (List α)
  | [] => .ok []
  | c :: rest => seq (seq (.ok List.cons) c) (all rest)

/-- Two checks in sequence succeed exactly when both do. -/
theorem seq_eq_ok_iff {f : Checked (α → β)} {a : Checked α} {b : β} :
    seq f a = .ok b ↔ ∃ g x, f = .ok g ∧ a = .ok x ∧ g x = b := by
  cases f <;> cases a <;> simp [seq]

/-! ## Checks of atoms and containers -/

/-- A text. -/
def string : Value → Checked String
  | .str s => .ok s
  | _ => fail .stringType

/-- A text or nothing. -/
def string? : Value → Checked (Option String)
  | .null => .ok none
  | .str s => .ok (some s)
  | _ => fail .stringType

/-- The check of every member of a mapping, in the mapping's order. -/
def mapping (check : Value → Checked α) : Value → Checked (List (String × α))
  | .object members =>
    all (members.map fun m => under (.key m.1) (seq (.ok fun a => (m.1, a)) (check m.2)))
  | _ => fail .dictType

/-- The check of every item of a sequence, numbered from `start`. -/
def itemsFrom (check : Value → Checked α) (start : Nat) : List Value → List (Checked α)
  | [] => []
  | v :: rest => under (.index start) (check v) :: itemsFrom check (start + 1) rest

/-- The check of every item of a sequence. -/
def sequence (check : Value → Checked α) : Value → Checked (List α)
  | .list items => all (itemsFrom check 0 items)
  | _ => fail .listType

/-- The check of a member that has a default. -/
def optional (members : List (String × Value)) (key : String) (default : α)
    (check : Value → Checked α) : Checked α :=
  match members.lookup key with
  | none => .ok default
  | some v => under (.key key) (check v)

/-- The check of a member that has to be there. -/
def required (members : List (String × Value)) (key : String) (check : Value → Checked α) :
    Checked α :=
  match members.lookup key with
  | none => under (.key key) (fail .missing)
  | some v => under (.key key) (check v)

end Checked

end Larder
