/-!
# Larder — registries

A finite map that remembers the order in which its keys were first entered. Entering a key again
replaces its value and keeps its place; a key that was struck out and is entered again goes to the
end. No key occurs twice: the type says so.

## Results

* `get?_insert_self`, `get?_insert_of_ne`: what is read after an entry.
* `get?_erase_self`, `get?_erase_of_ne`: what is read after a key was struck out.
* `keys_insert`: an entry appends a new key and keeps the order of the others.
-/

namespace Larder

variable {κ α : Type} [DecidableEq κ]

/-- The value paired with `key` first. -/
def lookupPair (key : κ) : List (κ × α) → Option α
  | [] => none
  | (k, v) :: rest => if k = key then some v else lookupPair key rest

/-- Enters `value` under `key`: in place if the key is there, else at the end. -/
def insertPair (key : κ) (value : α) : List (κ × α) → List (κ × α)
  | [] => [(key, value)]
  | (k, v) :: rest => if k = key then (k, value) :: rest else (k, v) :: insertPair key value rest

theorem mem_keys_insertPair {key : κ} {value : α} {ps : List (κ × α)} {k : κ} :
    k ∈ (insertPair key value ps).map Prod.fst ↔ k = key ∨ k ∈ ps.map Prod.fst := by
  induction ps with
  | nil => simp [insertPair]
  | cons p rest ih =>
    obtain ⟨k', v'⟩ := p
    unfold insertPair
    split
    · rename_i h
      subst h
      simp
    · simp only [List.map_cons, List.mem_cons, ih]
      constructor
      · rintro (h | h | h) <;> simp [h]
      · rintro (h | h | h) <;> simp [h]

theorem nodup_insertPair {key : κ} {value : α} {ps : List (κ × α)}
    (h : (ps.map Prod.fst).Nodup) : ((insertPair key value ps).map Prod.fst).Nodup := by
  induction ps with
  | nil => simp [insertPair]
  | cons p rest ih =>
    obtain ⟨k', v'⟩ := p
    rw [List.map_cons, List.nodup_cons] at h
    unfold insertPair
    split
    · rw [List.map_cons, List.nodup_cons]
      exact h
    · rename_i hne
      rw [List.map_cons, List.nodup_cons]
      refine ⟨fun hmem => ?_, ih h.2⟩
      rcases mem_keys_insertPair.mp hmem with heq | hmem
      · exact hne heq
      · exact h.1 hmem

omit [DecidableEq κ] in
theorem nodup_filter_keys {p : κ × α → Bool} {ps : List (κ × α)}
    (h : (ps.map Prod.fst).Nodup) : ((ps.filter p).map Prod.fst).Nodup :=
  h.sublist (List.filter_sublist.map _)

/-- A finite map with its keys in the order of their first entry. -/
structure Registry (κ α : Type) where
  /-- The keys with their values. -/
  entries : List (κ × α) := []
  /-- No key occurs twice. -/
  nodup : (entries.map Prod.fst).Nodup := by simp
  deriving DecidableEq, Repr

namespace Registry

/-- The registry without entries. -/
def empty : Registry κ α := {}

instance : Inhabited (Registry κ α) := ⟨empty⟩

/-- The value under a key. -/
def get? (r : Registry κ α) (key : κ) : Option α := lookupPair key r.entries

/-- Whether the key is there. -/
def contains (r : Registry κ α) (key : κ) : Bool := (r.get? key).isSome

/-- The keys, in the order of their first entry. -/
def keys (r : Registry κ α) : List κ := r.entries.map Prod.fst

/-- The values, in the order of their keys. -/
def values (r : Registry κ α) : List α := r.entries.map Prod.snd

/-- Enters a value: in place if the key is there, else at the end. -/
def insert (r : Registry κ α) (key : κ) (value : α) : Registry κ α where
  entries := insertPair key value r.entries
  nodup := nodup_insertPair r.nodup

/-- Strikes a key out. -/
def erase (r : Registry κ α) (key : κ) : Registry κ α where
  entries := r.entries.filter fun p => p.1 ≠ key
  nodup := nodup_filter_keys r.nodup

/-- Enters the pairs of a list one after another. -/
def ofList (ps : List (κ × α)) : Registry κ α :=
  ps.foldl (fun r p => r.insert p.1 p.2) empty

/-! ## Reading after a change -/

theorem lookupPair_insertPair (key : κ) (value : α) (ps : List (κ × α)) (k : κ) :
    lookupPair k (insertPair key value ps) = if k = key then some value else lookupPair k ps := by
  induction ps with
  | nil => simp [insertPair, lookupPair, eq_comm]
  | cons p rest ih =>
    obtain ⟨k', v'⟩ := p
    unfold insertPair
    by_cases hk : k' = key
    · subst hk
      by_cases h : k' = k
      · simp [lookupPair, h]
      · simp [lookupPair, h, Ne.symm h]
    · by_cases h : k' = k
      · subst h
        simp [lookupPair, hk]
      · simp [lookupPair, hk, h, ih]

theorem lookupPair_filter_ne (key : κ) (ps : List (κ × α)) (k : κ) :
    lookupPair k (ps.filter fun p => p.1 ≠ key) = if k = key then none else lookupPair k ps := by
  induction ps with
  | nil => simp [lookupPair]
  | cons p rest ih =>
    obtain ⟨k', v'⟩ := p
    by_cases hk : k' = key
    · subst hk
      by_cases h : k' = k
      · subst h
        simpa using ih
      · simpa [lookupPair, h, Ne.symm h] using ih
    · by_cases h : k' = k
      · subst h
        simp [lookupPair, hk]
      · simpa [lookupPair, hk, h] using ih

theorem get?_insert (r : Registry κ α) (key : κ) (value : α) (k : κ) :
    (r.insert key value).get? k = if k = key then some value else r.get? k :=
  lookupPair_insertPair key value r.entries k

/-- The value entered last is read. -/
@[simp] theorem get?_insert_self (r : Registry κ α) (key : κ) (value : α) :
    (r.insert key value).get? key = some value := by simp [get?_insert]

/-- An entry leaves the other keys alone. -/
theorem get?_insert_of_ne (r : Registry κ α) {key k : κ} (value : α) (h : k ≠ key) :
    (r.insert key value).get? k = r.get? k := by simp [get?_insert, h]

theorem get?_erase (r : Registry κ α) (key k : κ) :
    (r.erase key).get? k = if k = key then none else r.get? k :=
  lookupPair_filter_ne key r.entries k

/-- A key that was struck out is not there. -/
@[simp] theorem get?_erase_self (r : Registry κ α) (key : κ) : (r.erase key).get? key = none := by
  simp [get?_erase]

/-- Striking a key out leaves the other keys alone. -/
theorem get?_erase_of_ne (r : Registry κ α) {key k : κ} (h : k ≠ key) :
    (r.erase key).get? k = r.get? k := by simp [get?_erase, h]

@[simp] theorem get?_empty (k : κ) : (empty : Registry κ α).get? k = none := rfl

theorem keys_insertPair (key : κ) (value : α) (ps : List (κ × α)) :
    (insertPair key value ps).map Prod.fst =
      if key ∈ ps.map Prod.fst then ps.map Prod.fst else ps.map Prod.fst ++ [key] := by
  induction ps with
  | nil => simp [insertPair]
  | cons p rest ih =>
    obtain ⟨k', v'⟩ := p
    unfold insertPair
    by_cases hk : k' = key
    · subst hk
      simp
    · rw [if_neg hk, List.map_cons, ih]
      by_cases hmem : key ∈ rest.map Prod.fst
      · simp [hmem]
      · simp [hmem, Ne.symm hk]

/-- An entry appends a new key and keeps the order of the others. -/
theorem keys_insert (r : Registry κ α) (key : κ) (value : α) :
    (r.insert key value).keys = if key ∈ r.keys then r.keys else r.keys ++ [key] :=
  keys_insertPair key value r.entries

end Registry

end Larder
