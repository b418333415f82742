import Larder.Schema

/-!
# Larder — which values fit a schema

A check is put together from smaller ones. What it accepts can be said without it: a text, an object
whose members are of some form, an object that has a member of some form or has none under that key.
Each way to put checks together has its own lemma here, and each says two things at once: when the
check succeeds, and that a check that fails names a place that does not fit.

## Results

* `Decides.seq`: two checks in sequence accept what both accept.
* `Decides.mapping`, `Decides.sequence`: every member, every item has to fit.
* `Decides.optional`, `Decides.required`: a member that may be left out, and one that may not.
-/

namespace Larder

-- ---------------------------------------------------------------------------
-- Forms of values
-- ---------------------------------------------------------------------------

namespace Value

/-- A text. -/
def IsText (v : Value) : Prop := ∃ s, v = .str s

/-- A text or nothing. -/
def IsTextOrNull (v : Value) : Prop := v = .null ∨ v.IsText

/-- An object whose members, taken together, are of some form. -/
def IsObjectWith (Form : List (String × Value) → Prop) (v : Value) : Prop :=
  ∃ members, v = .object members ∧ Form members

/-- An object whose members are all of some form, with whatever keys. -/
def IsObjectOf (Form : Value → Prop) : Value → Prop :=
  IsObjectWith fun members => ∀ m ∈ members, Form m.2

/-- A sequence whose items are all of some form. -/
def IsListOf (Form : Value → Prop) (v : Value) : Prop :=
  ∃ items, v = .list items ∧ ∀ item ∈ items, Form item

theorem isObjectWith_object {Form : List (String × Value) → Prop}
    {members : List (String × Value)} : (object members).IsObjectWith Form ↔ Form members := by
  constructor
  · rintro ⟨_, hSame, h⟩
    cases hSame
    exact h
  · exact fun h => ⟨members, rfl, h⟩

end Value

/-- There is a member under a key, and it is of some form. -/
def Has (members : List (String × Value)) (key : String) (Form : Value → Prop) : Prop :=
  ∃ v, members.lookup key = some v ∧ Form v

/-- A member under a key is of some form, if there is one. -/
def MayHave (members : List (String × Value)) (key : String) (Form : Value → Prop) : Prop :=
  ∀ v, members.lookup key = some v → Form v

-- ---------------------------------------------------------------------------
-- Checks
-- ---------------------------------------------------------------------------

namespace Checked

variable {α β : Type}

@[simp] theorem under_eq_ok_iff {step : SchemaError.Step} {c : Checked α} {a : α} :
    under step c = .ok a ↔ c = .ok a := by
  cases c <;> simp [under]

/-- A check succeeds exactly under some condition, and names a place if it fails. -/
structure Decides (c : Checked α) (Fits : Prop) : Prop where
  ok_iff : (∃ a, c = .ok a) ↔ Fits
  listed : c ≠ .error []

namespace Decides

variable {c : Checked α} {P Q : Prop} {Form : Value → Prop} {check : Value → Checked α}

theorem congr (h : Decides c P) (hIff : P ↔ Q) : Decides c Q := ⟨h.ok_iff.trans hIff, h.listed⟩

/-- A check that does not succeed lists places. -/
theorem exists_errors (h : Decides c P) (hNot : ¬ P) :
    ∃ errors, errors ≠ [] ∧ c = .error errors := by
  cases c with
  | ok a => exact absurd (h.ok_iff.mp ⟨a, rfl⟩) hNot
  | error errors => exact ⟨errors, fun hEmpty => h.listed (hEmpty ▸ rfl), rfl⟩

theorem ok (a : α) : Decides (.ok a) True := ⟨iff_of_true ⟨a, rfl⟩ trivial, nofun⟩

theorem fail (reason : SchemaError.Reason) : Decides (fail reason : Checked α) False :=
  ⟨iff_of_false nofun id, nofun⟩

theorem under (h : Decides c P) (step : SchemaError.Step) : Decides (under step c) P := by
  refine ⟨by simpa using h.ok_iff, fun hNone => ?_⟩
  cases c with
  | ok a => cases hNone
  | error errors =>
    exact h.listed (congrArg Except.error (List.map_eq_nil_iff.mp (Except.error.inj hNone)))

theorem seq {f : Checked (α → β)} (hf : Decides f P) (hc : Decides c Q) :
    Decides (seq f c) (P ∧ Q) := by
  constructor
  · rw [← hf.ok_iff, ← hc.ok_iff]
    constructor
    · rintro ⟨_, h⟩
      obtain ⟨g, x, rfl, rfl, -⟩ := seq_eq_ok_iff.mp h
      exact ⟨⟨g, rfl⟩, x, rfl⟩
    · rintro ⟨⟨g, rfl⟩, x, rfl⟩
      exact ⟨g x, rfl⟩
  · cases f with
    | ok g =>
      cases c with
      | ok a => nofun
      | error errors => exact fun h => hc.listed (congrArg Except.error (Except.error.inj h))
    | error first =>
      cases c with
      | ok a => exact fun h => hf.listed (congrArg Except.error (Except.error.inj h))
      | error second =>
        -- the places of the first check alone make a list that is not empty
        exact fun h => hf.listed
          (congrArg Except.error (List.append_eq_nil_iff.mp (Except.error.inj h)).1)

/-- A function that is applied to what was found accepts nothing less. -/
theorem map (h : Decides c P) (g : α → β) : Decides (Checked.seq (.ok g) c) P :=
  ((ok g).seq h).congr (true_and P).to_iff

theorem all_cons {rest : List (Checked α)} (h : Decides c P) (hRest : Decides (all rest) Q) :
    Decides (all (c :: rest)) (P ∧ Q) :=
  (h.map List.cons).seq hRest

theorem string (v : Value) : Decides (string v) v.IsText := by
  cases v with
  | str s => exact (ok s).congr (iff_of_true trivial ⟨s, rfl⟩)
  | _ => exact (fail _).congr (iff_of_false id nofun)

theorem string? (v : Value) : Decides (string? v) v.IsTextOrNull := by
  cases v with
  | null => exact (ok none).congr (iff_of_true trivial (.inl rfl))
  | str s => exact (ok (some s)).congr (iff_of_true trivial (.inr ⟨s, rfl⟩))
  | _ => exact (fail _).congr (iff_of_false id (Or.rec nofun nofun))

theorem object {Form : List (String × Value) → Prop} {members : List (String × Value)}
    (h : Decides c (Form members)) : Decides c ((Value.object members).IsObjectWith Form) :=
  h.congr Value.isObjectWith_object.symm

theorem members (h : ∀ v, Decides (check v) (Form v)) (members : List (String × Value)) :
    Decides (all (members.map fun m =>
        Checked.under (.key m.1) (Checked.seq (.ok fun a => (m.1, a)) (check m.2))))
      (∀ m ∈ members, Form m.2) := by
  induction members with
  | nil => exact (ok []).congr (iff_of_true trivial nofun)
  | cons m rest ih =>
    rw [List.forall_mem_cons]
    exact (((h m.2).map _).under _).all_cons ih

theorem mapping (h : ∀ v, Decides (check v) (Form v)) (v : Value) :
    Decides (mapping check v) (v.IsObjectOf Form) := by
  cases v with
  | object ms => exact (members h ms).object
  | _ => exact (fail _).congr (iff_of_false id nofun)

theorem itemsFrom (h : ∀ v, Decides (check v) (Form v)) (start : Nat) (items : List Value) :
    Decides (all (itemsFrom check start items)) (∀ item ∈ items, Form item) := by
  induction items generalizing start with
  | nil => exact (ok []).congr (iff_of_true trivial nofun)
  | cons item rest ih =>
    rw [List.forall_mem_cons]
    exact ((h item).under _).all_cons (ih (start + 1))

theorem sequence (h : ∀ v, Decides (check v) (Form v)) (v : Value) :
    Decides (sequence check v) (v.IsListOf Form) := by
  cases v with
  | list items =>
    refine (itemsFrom h 0 items).congr ⟨fun hAll => ⟨items, rfl, hAll⟩, ?_⟩
    rintro ⟨_, hSame, hAll⟩
    cases hSame
    exact hAll
  | _ => exact (fail _).congr (iff_of_false id nofun)

theorem optional (h : ∀ v, Decides (check v) (Form v)) (members : List (String × Value))
    (key : String) (default : α) :
    Decides (optional members key default check) (MayHave members key Form) := by
  unfold Checked.optional MayHave
  split
  · rename_i hNone
    exact (ok default).congr (iff_of_true trivial fun v hSome => by simp [hNone] at hSome)
  · rename_i v hSome
    refine ((h v).under _).congr ⟨fun hForm v' hSome' => ?_, fun hAll => hAll v hSome⟩
    rwa [← Option.some.inj (hSome.symm.trans hSome')]

theorem required (h : ∀ v, Decides (check v) (Form v)) (members : List (String × Value))
    (key : String) : Decides (required members key check) (Has members key Form) := by
  unfold Checked.required Has
  split
  · rename_i hNone
    refine ((fail _).under _).congr (iff_of_false id ?_)
    rintro ⟨_, hSome, -⟩
    rw [hNone] at hSome
    cases hSome
  · rename_i v hSome
    refine ((h v).under _).congr ⟨fun hForm => ⟨v, hSome, hForm⟩, ?_⟩
    rintro ⟨v', hSome', hForm⟩
    rwa [Option.some.inj (hSome.symm.trans hSome')]

end Decides

end Checked

end Larder
