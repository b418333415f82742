import Larder.Registry

/-!
# Larder — what is read from a registry

A registry holds each key once, so what is read under a key is the one value that is entered with
it. A registry that is filled from a list holds for each key the value that the list names last; it
is enough that the list names only one.

## Results

* `get?_eq_some_iff`: what is read is what is entered.
* `get?_ofList`: the last value of a key counts.
* `entries_ofList`: a list that names no key twice is entered as it stands.
* `keys_ofList`: the keys come in the order in which the list names them first.
* `get?_ofList_filter`: what is read after some entries were left out.
-/

namespace Larder

variable {κ α : Type} [DecidableEq κ] {key : κ} {value : α} {ps : List (κ × α)}

theorem lookupPair_of_not_mem (h : key ∉ ps.map Prod.fst) : lookupPair key ps = none := by
  induction ps with
  | nil => rfl
  | cons p rest ih =>
    obtain ⟨k, v⟩ := p
    rw [List.map_cons, List.mem_cons, not_or] at h
    rw [lookupPair, if_neg (Ne.symm h.1)]
    exact ih h.2

theorem mem_of_lookupPair (h : lookupPair key ps = some value) : (key, value) ∈ ps := by
  induction ps with
  | nil => simp [lookupPair] at h
  | cons p rest ih =>
    obtain ⟨k, v⟩ := p
    rw [lookupPair] at h
    split at h
    · rename_i hKey
      obtain rfl := Option.some.inj h
      rw [hKey]
      exact List.mem_cons_self
    · exact List.mem_cons_of_mem _ (ih h)

/-- A new key goes to the end. -/
theorem insertPair_of_not_mem (h : key ∉ ps.map Prod.fst) :
    insertPair key value ps = ps ++ [(key, value)] := by
  induction ps with
  | nil => rfl
  | cons p rest ih =>
    obtain ⟨k, v⟩ := p
    rw [List.map_cons, List.mem_cons, not_or] at h
    rw [insertPair, if_neg (Ne.symm h.1), ih h.2, List.cons_append]

/-- Of two entries for one key the later stays. -/
theorem insertPair_insertPair (key : κ) (value value' : α) (ps : List (κ × α)) :
    insertPair key value' (insertPair key value ps) = insertPair key value' ps := by
  induction ps with
  | nil => simp [insertPair]
  | cons p rest ih =>
    obtain ⟨k, v⟩ := p
    by_cases hKey : k = key
    · simp [insertPair, hKey]
    · simp [insertPair, hKey, ih]

theorem lookupPair_append (key : κ) (ps qs : List (κ × α)) :
    lookupPair key (ps ++ qs) = (lookupPair key ps).or (lookupPair key qs) := by
  induction ps with
  | nil => rfl
  | cons p rest ih =>
    obtain ⟨k, v⟩ := p
    rw [List.cons_append, lookupPair, lookupPair]
    split
    · rfl
    · exact ih

/-- A key of a list is found in it. -/
theorem exists_lookupPair (h : key ∈ ps.map Prod.fst) : ∃ v, lookupPair key ps = some v := by
  induction ps with
  | nil => simp at h
  | cons p rest ih =>
    obtain ⟨k, v⟩ := p
    rw [lookupPair]
    split
    · exact ⟨v, rfl⟩
    · rename_i hKey
      rw [List.map_cons, List.mem_cons] at h
      exact ih (h.resolve_left (Ne.symm hKey))

namespace Registry

theorem insert_insert (r : Registry κ α) (key : κ) (value value' : α) :
    (r.insert key value).insert key value' = r.insert key value' := by
  simp only [insert, insertPair_insertPair]

theorem mem_keys_iff {r : Registry κ α} : key ∈ r.keys ↔ ∃ v, r.get? key = some v :=
  ⟨exists_lookupPair, fun ⟨_, h⟩ => List.mem_map_of_mem (mem_of_lookupPair h)⟩

/-- What is read is what is entered. -/
theorem get?_eq_some_iff {r : Registry κ α} :
    r.get? key = some value ↔ (key, value) ∈ r.entries := by
  refine ⟨mem_of_lookupPair, fun hMem => ?_⟩
  show lookupPair key r.entries = some value
  obtain ⟨before, after, hSplit⟩ := List.append_of_mem hMem
  have hNodup := r.nodup
  rw [hSplit, List.map_append, List.nodup_append] at hNodup
  -- the key is not there before
  have hNot : key ∉ before.map Prod.fst :=
    fun hBefore => hNodup.2.2 key hBefore key List.mem_cons_self rfl
  rw [hSplit, lookupPair_append, lookupPair_of_not_mem hNot, lookupPair, if_pos rfl]
  rfl

theorem mem_values_iff {r : Registry κ α} : value ∈ r.values ↔ ∃ k, r.get? k = some value := by
  rw [values, List.mem_map]
  constructor
  · rintro ⟨⟨k, _⟩, hMem, rfl⟩
    exact ⟨k, get?_eq_some_iff.mpr hMem⟩
  · rintro ⟨k, hRead⟩
    exact ⟨(k, value), get?_eq_some_iff.mp hRead, rfl⟩

/-- Of the values that a list names for a key, the last one counts. -/
theorem get?_ofList (ps : List (κ × α)) (key : κ) :
    (ofList ps).get? key = lookupPair key ps.reverse := by
  have hInto : ∀ r : Registry κ α, (ps.foldl (fun r p => r.insert p.1 p.2) r).get? key =
      (lookupPair key ps.reverse).or (r.get? key) := by
    induction ps with
    | nil => exact fun r => rfl
    | cons p rest ih =>
      intro r
      rw [List.foldl_cons, ih, get?_insert, List.reverse_cons, lookupPair_append, Option.or_assoc]
      congr 1
      by_cases hKey : key = p.1
      · simp [lookupPair, hKey]
      · simp [lookupPair, hKey, Ne.symm hKey]
  rw [ofList, hInto empty, get?_empty, Option.or_none]

/-- A list that names no key twice is entered as it stands. -/
theorem entries_ofList (h : (ps.map Prod.fst).Nodup) : (ofList ps).entries = ps := by
  have hInto : ∀ r : Registry κ α, (∀ k ∈ ps.map Prod.fst, k ∉ r.keys) →
      (ps.foldl (fun r p => r.insert p.1 p.2) r).entries = r.entries ++ ps := by
    induction ps with
    | nil => exact fun r _ => (List.append_nil _).symm
    | cons p rest ih =>
      intro r hFree
      rw [List.map_cons, List.nodup_cons] at h
      rw [List.map_cons, List.forall_mem_cons] at hFree
      have hEntered : (r.insert p.1 p.2).entries = r.entries ++ [p] :=
        insertPair_of_not_mem hFree.1
      rw [List.foldl_cons, ih h.2, hEntered, List.append_assoc, List.singleton_append]
      intro k hMem hKnown
      rw [keys, hEntered, List.map_append, List.mem_append] at hKnown
      rcases hKnown with hOld | hNew
      · exact hFree.2 k hMem hOld
      · exact h.1 (List.mem_singleton.mp hNew ▸ hMem)
  exact (hInto empty fun _ _ => List.not_mem_nil).trans (List.nil_append _)

/-- The entries of a registry make the registry again. -/
theorem ofList_entries (r : Registry κ α) : ofList r.entries = r := by
  cases r with
  | mk entries nodup =>
    have hSame := entries_ofList nodup
    cases hList : ofList entries with
    | mk entries' nodup' =>
      rw [hList] at hSame
      subst hSame
      rfl

/-- A registry that is filled from a list has the keys of the list, each where it is named first. -/
theorem keys_ofList (ps : List (κ × α)) : (ofList ps).keys = (ps.map Prod.fst).eraseDups := by
  have hInto : ∀ r : Registry κ α, (ps.foldl (fun r p => r.insert p.1 p.2) r).keys =
      r.keys ++ ((ps.map Prod.fst).filter fun k => k ∉ r.keys).eraseDups := by
    induction ps with
    | nil => exact fun r => (List.append_nil _).symm
    | cons p rest ih =>
      intro r
      rw [List.foldl_cons, ih, keys_insert, List.map_cons]
      by_cases hKnown : p.1 ∈ r.keys
      · rw [if_pos hKnown, List.filter_cons_of_neg (by simpa using hKnown)]
      · rw [if_neg hKnown, List.filter_cons_of_pos (by simpa using hKnown), List.eraseDups_cons,
          List.filter_filter, List.append_assoc, List.singleton_append]
        -- what comes later is new if it was not there before and is not this key
        have hNew : ∀ k, decide (k ∉ r.keys ++ [p.1]) = (!(k == p.1) && decide (k ∉ r.keys)) := by
          intro k
          show _ = (!decide (k = p.1) && decide (k ∉ r.keys))
          simp [Bool.and_comm]
        simp only [hNew]
  have hAll : (ps.map Prod.fst).filter (fun k => k ∉ (empty : Registry κ α).keys) =
      ps.map Prod.fst := List.filter_eq_self.mpr fun _ _ => decide_eq_true List.not_mem_nil
  exact (hInto empty).trans (by rw [hAll]; rfl)

theorem mem_of_mem_keys_ofList (h : key ∈ (ofList ps).keys) : key ∈ ps.map Prod.fst := by
  rwa [keys_ofList, List.mem_eraseDups] at h

/-- A list that names one value for a key enters it. -/
theorem get?_ofList_of_mem (hMem : (key, value) ∈ ps)
    (hOnly : ∀ v, (key, v) ∈ ps → v = value) : (ofList ps).get? key = some value := by
  have hKey : key ∈ ps.reverse.map Prod.fst :=
    List.mem_map_of_mem (List.mem_reverse.mpr hMem)
  obtain ⟨v, hRead⟩ := exists_lookupPair hKey
  rw [get?_ofList, hRead, hOnly v (List.mem_reverse.mp (mem_of_lookupPair hRead))]

/-- A list that names no value for a key leaves it out. -/
theorem get?_ofList_of_not_mem (hNone : ∀ v, (key, v) ∉ ps) : (ofList ps).get? key = none := by
  rw [get?_ofList]
  refine lookupPair_of_not_mem fun hKey => ?_
  obtain ⟨⟨k, v⟩, hMem, rfl⟩ := List.mem_map.mp hKey
  exact hNone v (List.mem_reverse.mp hMem)

/-- When some entries are left out, the others are read as before. -/
theorem get?_ofList_filter (r : Registry κ α) (keep : κ × α → Bool) (key : κ) :
    (ofList (r.entries.filter keep)).get? key =
      (r.get? key).filter fun v => keep (key, v) := by
  cases hRead : r.get? key with
  | none =>
    refine get?_ofList_of_not_mem fun v hMem => ?_
    rw [get?_eq_some_iff.mpr (List.mem_filter.mp hMem).1] at hRead
    exact absurd hRead (by simp)
  | some value =>
    have hOnly : ∀ v, (key, v) ∈ r.entries.filter keep → v = value := fun v hMem =>
      Option.some.inj ((get?_eq_some_iff.mpr (List.mem_filter.mp hMem).1).symm.trans hRead)
    have hMem : (key, value) ∈ r.entries := get?_eq_some_iff.mp hRead
    by_cases hKeep : keep (key, value) = true
    · rw [get?_ofList_of_mem (List.mem_filter.mpr ⟨hMem, hKeep⟩) hOnly, Option.filter_some,
        if_pos hKeep]
    · rw [Option.filter_some, if_neg hKeep]
      refine get?_ofList_of_not_mem fun v hLeft => hKeep ?_
      rw [← hOnly v hLeft]
      exact (List.mem_filter.mp hLeft).2

omit [DecidableEq κ] in
theorem nodup_entries (r : Registry κ α) : r.entries.Nodup :=
  List.Pairwise.of_map Prod.fst (fun _ _ hNe hEq => hNe (congrArg Prod.fst hEq)) r.nodup

/-- Registries that read alike have the same entries, perhaps in another order. -/
theorem entries_perm_of_get?_eq {r r' : Registry κ α} (h : ∀ k, r.get? k = r'.get? k) :
    r.entries.Perm r'.entries := by
  refine (List.perm_ext_iff_of_nodup r.nodup_entries r'.nodup_entries).mpr fun entry => ?_
  rw [← get?_eq_some_iff, ← get?_eq_some_iff, h]

end Registry

end Larder
