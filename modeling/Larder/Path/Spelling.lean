import Larder.Path.Basic

/-!
# Larder — spellings of paths

Each path has one shortest spelling, and reading that spelling gives the path back. So two paths
are equal exactly when they are written alike, and a set of paths may be kept by its texts.

## Results

* `ofString_toString`: reading the shortest spelling of a path gives the path back.
* `toString_inj`: paths that are written alike are equal.
-/

namespace Larder

namespace Component

theorem ofChars?_text (c : Component) : ofChars? c.text.toList = some c := by
  have h := c.valid
  unfold ofChars?
  simp only [String.ofList_toList]
  rw [dif_pos h]

theorem ofChars?_nil : ofChars? [] = none := by
  unfold ofChars?
  rw [dif_neg]
  simp

theorem text_toList_ne_nil (c : Component) : c.text.toList ≠ [] := by
  intro h
  exact c.valid.1 (String.toList_eq_nil_iff.mp h)

theorem filterMap_ofChars? (parts : List Component) :
    (parts.map fun c => c.text.toList).filterMap ofChars? = parts := by
  induction parts with
  | nil => rfl
  | cons c rest ih => simp [ofChars?_text, ih]

end Component

namespace Path

/-- What the components of a path spell when joined. -/
def spellParts (parts : List Component) : List Char :=
  Text.joinWith '/' (parts.map fun c => c.text.toList)

theorem splitOn_spellParts {parts : List Component} (h : parts ≠ []) :
    Text.splitOn '/' (spellParts parts) = parts.map fun c => c.text.toList := by
  refine Text.splitOn_joinWith (by simpa using h) ?_
  intro piece hpiece
  obtain ⟨c, _, rfl⟩ := List.mem_map.mp hpiece
  exact c.valid.2.2

/-- Joined components do not start with a slash. -/
theorem spellParts_head {parts : List Component} (h : parts ≠ []) :
    ∃ c rest, spellParts parts = c :: rest ∧ c ≠ '/' := by
  obtain ⟨first, more, rfl⟩ := List.exists_cons_of_ne_nil h
  have hSlash := first.valid.2.2
  cases hText : first.text.toList with
  | nil => exact absurd hText first.text_toList_ne_nil
  | cons c rest =>
    rw [hText] at hSlash
    have hc : c ≠ '/' := fun e => hSlash (by simp [e])
    unfold spellParts
    rw [List.map_cons, hText, Text.joinWith_cons_cons]
    exact ⟨c, _, rfl, hc⟩

theorem filterMap_splitOn_spellParts (parts : List Component) :
    (Text.splitOn '/' (spellParts parts)).filterMap Component.ofChars? = parts := by
  by_cases h : parts = []
  · subst h
    simp [spellParts, Text.joinWith, Text.splitOn, Component.ofChars?_nil]
  · rw [splitOn_spellParts h, Component.filterMap_ofChars?]

theorem filterMap_splitOn_slash (cs : List Char) :
    (Text.splitOn '/' ('/' :: cs)).filterMap Component.ofChars? =
      (Text.splitOn '/' cs).filterMap Component.ofChars? := by
  simp [Text.splitOn, Component.ofChars?_nil]

/-- The slashes of a root are read as that root, if no slash follows. -/
theorem rootOfChars_append {root : Root} {cs : List Char} (h : cs.head? ≠ some '/') :
    Root.ofChars (root.toChars ++ cs) = root := by
  cases cs with
  | nil => cases root <;> rfl
  | cons c rest =>
    have hc : c ≠ '/' := fun e => h (by simp [e])
    cases root with
    | relative => simp [Root.toChars, Root.ofChars, hc]
    | single => simp [Root.toChars, Root.ofChars, hc]
    | double => simp [Root.toChars, Root.ofChars, hc]

theorem head?_spellParts (parts : List Component) : (spellParts parts).head? ≠ some '/' := by
  by_cases h : parts = []
  · subst h
    simp [spellParts, Text.joinWith]
  · obtain ⟨c, rest, hEq, hc⟩ := spellParts_head h
    simp [hEq, hc]

theorem filterMap_splitOn_root (root : Root) (cs : List Char) :
    (Text.splitOn '/' (root.toChars ++ cs)).filterMap Component.ofChars? =
      (Text.splitOn '/' cs).filterMap Component.ofChars? := by
  cases root <;> simp [Root.toChars, filterMap_splitOn_slash]

theorem ofChars_toChars (p : Path) : ofChars p.toChars = p := by
  obtain ⟨root, parts⟩ := p
  unfold toChars
  split
  · rename_i h
    obtain ⟨rfl, rfl⟩ := h
    decide +kernel
  · unfold ofChars
    rw [show Text.joinWith '/' (parts.map fun c => c.text.toList) = spellParts parts from rfl]
    rw [rootOfChars_append (head?_spellParts parts), filterMap_splitOn_root,
      filterMap_splitOn_spellParts]

/-- Reading the shortest spelling of a path gives the path back. -/
theorem ofString_toString (p : Path) : ofString p.toString = p := by
  simp [ofString, toString, ofChars_toChars]

/-- Paths that are written alike are equal. -/
theorem toString_inj {p q : Path} : p.toString = q.toString ↔ p = q :=
  ⟨fun h => by rw [← ofString_toString p, h, ofString_toString], fun h => by rw [h]⟩

end Path

end Larder
