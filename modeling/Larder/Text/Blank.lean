/-!
# Larder — blank characters

White space as names and locations are trimmed by it: the separators and the control characters
that the character database counts as space. Zero-width characters and the byte order mark are
not blank.

## Results

* `trim_eq_nil_iff`: trimming leaves nothing exactly when every character is blank.
-/

namespace Larder.Text

/-- A character that trimming removes. -/
def isBlank (c : Char) : Bool :=
  let n := c.toNat
  (9 ≤ n && n ≤ 13) || (28 ≤ n && n ≤ 32) || n == 0x85 || n == 0xA0 || n == 0x1680
    || (0x2000 ≤ n && n ≤ 0x200A) || n == 0x2028 || n == 0x2029 || n == 0x202F || n == 0x205F
    || n == 0x3000

/-- Removes blank characters from both ends. -/
def trim (cs : List Char) : List Char :=
  ((cs.dropWhile isBlank).reverse.dropWhile isBlank).reverse

/-- A text without blank characters at its ends. -/
def strip (s : String) : String := String.ofList (trim s.toList)

/-- Whether a text has nothing but blank characters. -/
def isBlankText (s : String) : Bool := s.toList.all isBlank

theorem dropWhile_isBlank_eq_nil {cs : List Char} :
    cs.dropWhile isBlank = [] ↔ ∀ c ∈ cs, isBlank c = true := by
  induction cs with
  | nil => simp
  | cons c rest ih => by_cases h : isBlank c = true <;> simp [h, ih]

/-- Trimming leaves nothing exactly when every character is blank. -/
theorem trim_eq_nil_iff {cs : List Char} : trim cs = [] ↔ ∀ c ∈ cs, isBlank c = true := by
  rw [trim, List.reverse_eq_nil_iff, dropWhile_isBlank_eq_nil]
  constructor
  · intro h
    -- the first character kept by the front trim is not blank, so nothing is kept
    cases hKept : cs.dropWhile isBlank with
    | nil => exact dropWhile_isBlank_eq_nil.mp hKept
    | cons c rest =>
      have hBlank : isBlank c = true := h c (by simp [hKept])
      have hHead := List.head_dropWhile_not isBlank (l := cs) (by simp [hKept])
      simp [hKept, hBlank] at hHead
  · intro h c hc
    rw [dropWhile_isBlank_eq_nil.mpr h] at hc
    simp at hc

/-- What trimming leaves is not blank. -/
theorem trim_eq_nil_of_isBlank {cs : List Char} (h : ∀ c ∈ trim cs, isBlank c = true) :
    trim cs = [] := by
  rw [trim, List.reverse_eq_nil_iff]
  cases hKept : (cs.dropWhile isBlank).reverse.dropWhile isBlank with
  | nil => rfl
  | cons c rest =>
    have hBlank : isBlank c = true := h c (by simp [trim, hKept])
    have hHead := List.head_dropWhile_not isBlank (l := (cs.dropWhile isBlank).reverse)
      (by simp [hKept])
    simp [hKept, hBlank] at hHead

end Larder.Text
