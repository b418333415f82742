/-!
# Larder — pieces of text

Cutting a text at every occurrence of a character, and joining pieces with that character between
them.

## Results

* `joinWith_splitOn`: joining the pieces of a text gives it back.
* `splitOn_joinWith`: cutting joined pieces gives them back, if there is one and none holds the
  separator.
-/

namespace Larder.Text

/-- The pieces of a text between the occurrences of `sep`; a text without any is one piece. -/
def splitOn (sep : Char) : List Char → List (List Char)
  | [] => [[]]
  | c :: rest =>
    if c = sep then [] :: splitOn sep rest
    else match splitOn sep rest with
      | [] => [[c]]
      | piece :: pieces => (c :: piece) :: pieces

/-- The pieces with `sep` between neighbours. -/
def joinWith (sep : Char) : List (List Char) → List Char
  | [] => []
  | [piece] => piece
  | piece :: pieces => piece ++ sep :: joinWith sep pieces

theorem splitOn_ne_nil (sep : Char) (cs : List Char) : splitOn sep cs ≠ [] := by
  cases cs with
  | nil => simp [splitOn]
  | cons c rest =>
    unfold splitOn
    split
    · simp
    · split <;> simp

theorem joinWith_cons_of_ne_nil (sep : Char) (piece : List Char) {pieces : List (List Char)}
    (h : pieces ≠ []) : joinWith sep (piece :: pieces) = piece ++ sep :: joinWith sep pieces := by
  cases pieces with
  | nil => exact absurd rfl h
  | cons next more => rfl

theorem joinWith_cons_cons (sep c : Char) (piece : List Char) (pieces : List (List Char)) :
    joinWith sep ((c :: piece) :: pieces) = c :: joinWith sep (piece :: pieces) := by
  cases pieces <;> rfl

/-- Joining the pieces of a text gives it back. -/
theorem joinWith_splitOn (sep : Char) (cs : List Char) : joinWith sep (splitOn sep cs) = cs := by
  induction cs with
  | nil => rfl
  | cons c rest ih =>
    unfold splitOn
    split
    · rename_i h
      rw [joinWith_cons_of_ne_nil sep _ (splitOn_ne_nil sep rest), ih, h]
      rfl
    · split
      · rename_i h
        exact absurd h (splitOn_ne_nil sep rest)
      · rename_i piece pieces h
        rw [h] at ih
        rw [joinWith_cons_cons, ih]

/-- A text without the separator is one piece. -/
theorem splitOn_of_not_mem {sep : Char} {cs : List Char} (h : sep ∉ cs) :
    splitOn sep cs = [cs] := by
  induction cs with
  | nil => rfl
  | cons c rest ih =>
    have hc : c ≠ sep := fun e => h (by simp [e])
    have hr : sep ∉ rest := fun m => h (List.mem_cons_of_mem _ m)
    simp [splitOn, hc, ih hr]

/-- A piece without the separator is cut off at the first separator. -/
theorem splitOn_append_cons {sep : Char} {piece : List Char} (h : sep ∉ piece)
    (rest : List Char) : splitOn sep (piece ++ sep :: rest) = piece :: splitOn sep rest := by
  induction piece with
  | nil => simp [splitOn]
  | cons c more ih =>
    have hc : c ≠ sep := fun e => h (by simp [e])
    have hm : sep ∉ more := fun m => h (List.mem_cons_of_mem _ m)
    simp [splitOn, hc, ih hm]

/-- Cutting joined pieces gives them back. -/
theorem splitOn_joinWith {sep : Char} {pieces : List (List Char)} (hne : pieces ≠ [])
    (h : ∀ piece ∈ pieces, sep ∉ piece) : splitOn sep (joinWith sep pieces) = pieces := by
  induction pieces with
  | nil => exact absurd rfl hne
  | cons piece more ih =>
    have hp : sep ∉ piece := h piece (by simp)
    by_cases hm : more = []
    · subst hm
      exact splitOn_of_not_mem hp
    · rw [joinWith_cons_of_ne_nil sep piece hm, splitOn_append_cons hp,
        ih hm fun p hpm => h p (List.mem_cons_of_mem _ hpm)]

/-- No piece holds the separator. -/
theorem not_mem_of_mem_splitOn {sep : Char} {cs piece : List Char} (h : piece ∈ splitOn sep cs) :
    sep ∉ piece := by
  induction cs generalizing piece with
  | nil => simp_all [splitOn]
  | cons c rest ih =>
    unfold splitOn at h
    split at h
    · rcases List.mem_cons.mp h with rfl | h
      · simp
      · exact ih h
    · rename_i hc
      split at h
      · simp only [List.mem_singleton] at h
        subst h
        simpa using Ne.symm hc
      · rename_i first pieces hEq
        rcases List.mem_cons.mp h with rfl | h
        · have : sep ∉ first := ih (by simp [hEq])
          simp [this, Ne.symm hc]
        · exact ih (by simp [hEq, h])

/-- A character of joined pieces is the separator or one of a piece. -/
theorem mem_joinWith {sep c : Char} {pieces : List (List Char)} (h : c ∈ joinWith sep pieces) :
    c = sep ∨ ∃ piece ∈ pieces, c ∈ piece := by
  fun_induction joinWith sep pieces with
  | case1 => simp at h
  | case2 piece => exact .inr ⟨piece, by simp, h⟩
  | case3 piece pieces _ ih =>
    rcases List.mem_append.mp h with h | h
    · exact .inr ⟨piece, by simp, h⟩
    · rcases List.mem_cons.mp h with h | h
      · exact .inl h
      · rcases ih h with h | ⟨other, hOther, hMem⟩
        · exact .inl h
        · exact .inr ⟨other, List.mem_cons_of_mem _ hOther, hMem⟩

end Larder.Text
