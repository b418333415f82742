import Larder.Proofs.Path.Lexical
import Mathlib.Data.Finset.Card

/-!
# Larder — emission as a set of texts

A compilation is handed files by their paths, and these reach it as texts in any spelling. What it
takes note of is a set: the normal forms of the texts it was handed. To record a text is to insert
its normal form, and the answer says whether that was new.

The set is kept as a list in the order of the texts. As the order is strict, the list is determined
by the set, and so by what was recorded: neither the order of the calls nor how often a path was
named leaves a trace.

## Results

* `keys_record`, `record_answer`: a recording inserts a normal form and says whether it was new.
* `keys_recordAll`: so a run of recordings collects the normal forms of its texts.
* `getElem?_recordAll`: the answer to each call is that of the emission before it.
* `eq_of_keys_eq`: emissions that stand for the same set are equal.
* `refines_normal_texts`: recording refines inserting into a set of normal texts.
-/

namespace Larder

namespace Emission

variable {e e' : Emission} {text : String}

-- ---------------------------------------------------------------------------
-- The set of an emission
-- ---------------------------------------------------------------------------

/-- The recorded paths as texts, in order. -/
def listed (e : Emission) : List String := e.paths.map Path.toString

/-- The set that an emission stands for. -/
def keys (e : Emission) : Finset String := e.listed.toFinset

theorem pairwise_listed (e : Emission) : e.listed.Pairwise (· < ·) :=
  List.pairwise_map.mpr e.ordered

theorem nodup_listed (e : Emission) : e.listed.Nodup :=
  e.pairwise_listed.imp fun hLess => String.ne_of_lt hLess

theorem size_eq_card (e : Emission) : e.size = e.keys.card := by
  rw [keys, List.toFinset_card_of_nodup e.nodup_listed, listed, List.length_map, size]

theorem mem_keys {t : String} : t ∈ e.keys ↔ t ∈ e.listed := List.mem_toFinset

/-- A path is in the set if its text is. -/
theorem toString_mem_keys {p : Path} : p.toString ∈ e.keys ↔ p ∈ e.paths := by
  rw [mem_keys, listed, List.mem_map_of_injective fun _ _ => Path.toString_inj.mp]

/-- A text is known in any spelling. -/
theorem contains_iff : e.contains (Path.ofString text) = true ↔ Lexical.normal text ∈ e.keys := by
  rw [contains, List.contains_iff_mem, ← Path.toString_normalize, toString_mem_keys]

/-- Emissions that stand for the same set are equal. -/
theorem eq_of_keys_eq (h : e.keys = e'.keys) : e = e' := by
  have hNodup (e : Emission) : e.paths.Nodup := e.nodup_listed.of_map
  refine eq_of_perm ((List.perm_ext_iff_of_nodup (hNodup e) (hNodup e')).mpr fun p => ?_)
  rw [← toString_mem_keys, h, toString_mem_keys]

-- ---------------------------------------------------------------------------
-- Recordings
-- ---------------------------------------------------------------------------

/-- A recording inserts the normal form of its text. -/
theorem keys_record (e : Emission) (text : String) :
    (e.record (Path.ofString text)).1.keys = Insert.insert (Lexical.normal text) e.keys := by
  ext t
  rw [mem_keys, listed, List.mem_map, Finset.mem_insert, mem_keys, listed, List.mem_map]
  simp only [mem_record, ← Path.toString_normalize]
  constructor
  · rintro ⟨p, rfl | hMem, rfl⟩
    · exact .inl rfl
    · exact .inr ⟨p, hMem, rfl⟩
  · rintro (rfl | ⟨p, hMem, rfl⟩)
    · exact ⟨_, .inl rfl, rfl⟩
    · exact ⟨p, .inr hMem, rfl⟩

/-- The answer says whether the normal form was new. -/
theorem record_answer (e : Emission) (text : String) :
    (e.record (Path.ofString text)).2 = decide (Lexical.normal text ∉ e.keys) := by
  rw [record_snd, Bool.eq_iff_iff, Bool.not_eq_true', Bool.eq_false_iff, ne_eq, contains_iff,
    decide_eq_true_iff]

/-- Records texts one after another and keeps the answers. -/
def recordAll : Emission → List String → Emission × List Bool
  | e, [] => (e, [])
  | e, text :: rest =>
    let here := e.record (Path.ofString text)
    let later := here.1.recordAll rest
    (later.1, here.2 :: later.2)

theorem recordAll_cons (e : Emission) (text : String) (rest : List String) :
    e.recordAll (text :: rest) =
      (((e.record (Path.ofString text)).1.recordAll rest).1,
        (e.record (Path.ofString text)).2 ::
          ((e.record (Path.ofString text)).1.recordAll rest).2) := rfl

theorem length_recordAll (e : Emission) (texts : List String) :
    (e.recordAll texts).2.length = texts.length := by
  induction texts generalizing e with
  | nil => rfl
  | cons text rest ih => rw [recordAll_cons, List.length_cons, ih, List.length_cons]

/-- A run of recordings collects the normal forms of its texts. -/
theorem keys_recordAll (e : Emission) (texts : List String) :
    (e.recordAll texts).1.keys = e.keys ∪ (texts.map Lexical.normal).toFinset := by
  induction texts generalizing e with
  | nil => exact (Finset.union_empty _).symm
  | cons text rest ih =>
    rw [recordAll_cons, ih, keys_record, List.map_cons, List.toFinset_cons, Finset.insert_union,
      Finset.union_insert]

/-- The answer to each call is that of the emission before it. -/
theorem getElem?_recordAll (e : Emission) (earlier : List String) (text : String)
    (later : List String) :
    (e.recordAll (earlier ++ text :: later)).2[earlier.length]? =
      some ((e.recordAll earlier).1.record (Path.ofString text)).2 := by
  induction earlier generalizing e with
  | nil => rfl
  | cons first earlier ih =>
    rw [List.cons_append, recordAll_cons, recordAll_cons, List.length_cons,
      List.getElem?_cons_succ, ih]

-- ---------------------------------------------------------------------------
-- From the beginning
-- ---------------------------------------------------------------------------

/-- What a compilation has taken note of. -/
theorem keys_recordAll_empty (texts : List String) :
    (empty.recordAll texts).1.keys = (texts.map Lexical.normal).toFinset := by
  rw [keys_recordAll]
  exact Finset.empty_union _

/-- What is recorded already leaves an emission as it is. -/
theorem record_of_contains {p : Path} (h : e.contains p = true) : e.record p = (e, false) := by
  rw [record, if_pos h]

/--
**Recording refines inserting into a set of normal texts.** A text is given to a compilation that
has just begun, and then another, and so on, each in any spelling. A call is answered "new" exactly
if no earlier text has the same normal form. After any number of calls the emission stands for the
set of the normal forms so far: their number is its size, they are listed in strictly increasing
order, and a text is contained if its normal form is among them. Whatever is listed is normal, is
contained itself, and to record it again does nothing. A normal form is its own normal form. And two
runs end alike exactly if they recorded the same set of normal forms.
-/
theorem refines_normal_texts (texts : List String) :
    let run (calls : List String) : Emission × List Bool := empty.recordAll calls
    -- the answers
    ((run texts).2.length = texts.length ∧
      ∀ earlier text later, texts = earlier ++ text :: later →
        (run texts).2[earlier.length]? =
          some (decide (∀ other ∈ earlier, Lexical.normal other ≠ Lexical.normal text))) ∧
    -- the emission after any number of calls
    (∀ n,
      let e := (run (texts.take n)).1
      let known := (texts.take n).map Lexical.normal
      e.size = known.toFinset.card ∧
      e.listed.Pairwise (· < ·) ∧ (∀ t, t ∈ e.listed ↔ t ∈ known) ∧
      (∀ text, e.contains (Path.ofString text) = true ↔ Lexical.normal text ∈ known) ∧
      ∀ t ∈ e.listed, Lexical.normal t = t ∧ e.contains (Path.ofString t) = true ∧
        e.record (Path.ofString t) = (e, false)) ∧
    -- normal forms
    (∀ text, Lexical.normal (Lexical.normal text) = Lexical.normal text) ∧
    -- other runs
    ∀ others, (run texts).1 = (run others).1 ↔
      ∀ t, t ∈ texts.map Lexical.normal ↔ t ∈ others.map Lexical.normal := by
  intro run
  refine ⟨⟨length_recordAll _ _, fun earlier text later hSplit => ?_⟩, fun n => ?_,
    Path.normal_normal, fun others => ?_⟩
  · -- the emission before the call stands for the earlier texts
    rw [hSplit, getElem?_recordAll, record_answer, keys_recordAll_empty]
    simp only [List.mem_toFinset, List.mem_map, not_exists, not_and, ne_eq]
  · intro e known
    have hKeys : e.keys = known.toFinset := keys_recordAll_empty _
    have hListed : ∀ t, t ∈ e.listed ↔ t ∈ known := fun t => by
      rw [← mem_keys, hKeys, List.mem_toFinset]
    have hContains : ∀ text, e.contains (Path.ofString text) = true ↔
        Lexical.normal text ∈ known := fun text => by
      rw [contains_iff, hKeys, List.mem_toFinset]
    refine ⟨hKeys ▸ e.size_eq_card, e.pairwise_listed, hListed, hContains, fun t hMem => ?_⟩
    have hKnown : t ∈ known := (hListed t).mp hMem
    obtain ⟨text, _, rfl⟩ := List.mem_map.mp hKnown
    have hNormal := Path.normal_normal text
    have hIn := (hContains (Lexical.normal text)).mpr (hNormal.symm ▸ hKnown)
    exact ⟨hNormal, hIn, record_of_contains hIn⟩
  · constructor
    · intro hSame t
      have hKeys := congrArg keys hSame
      rw [keys_recordAll_empty, keys_recordAll_empty] at hKeys
      rw [← List.mem_toFinset, hKeys, List.mem_toFinset]
    · intro hSame
      refine eq_of_keys_eq ?_
      rw [keys_recordAll_empty, keys_recordAll_empty]
      ext t
      rw [List.mem_toFinset, List.mem_toFinset, hSame]

/-- The empty text is the working directory, two slashes are a root of their own and three are not,
and above the working directory `..` stays. -/
theorem refines_normal_texts_spelled :
    let texts := ["", "a/..", "//r/../", "///", "../x//../../b"]
    let run := empty.recordAll texts
    run.2[1]? = some false ∧ run.2[3]? = some true ∧ run.1.size = 4 ∧
      "../../b" ∈ run.1.listed ∧ run.1.record (Path.ofString "../../b") = (run.1, false) ∧
      run.1 = (empty.recordAll texts.reverse).1 := by
  intro texts run
  obtain ⟨⟨-, hAnswers⟩, hEach, -, hOthers⟩ := refines_normal_texts texts
  obtain ⟨hSize, -, hListed, -, hAgain⟩ := hEach texts.length
  have hMem : "../../b" ∈ run.1.listed := (hListed _).mpr (by decide +kernel)
  refine ⟨(hAnswers [""] _ _ rfl).trans (by decide +kernel),
    (hAnswers ["", "a/..", "//r/../"] _ _ rfl).trans (by decide +kernel),
    hSize.trans (by decide +kernel), hMem, (hAgain _ hMem).2.2, (hOthers _).mpr fun t => ?_⟩
  rw [List.map_reverse, List.mem_reverse]

end Emission

end Larder
