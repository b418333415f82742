import Larder.Text.Hex

/-!
# Larder — JSON strings in ASCII

A text as a JSON string that holds printable ASCII characters alone. Quotes and backslashes are
escaped by a backslash, the five common controls by a letter, the other controls and all characters
above `~` by four hexadecimal digits; a character above U+FFFF is written as a surrogate pair.

## Results

* `escaped_jsonEscape`: what is written for a character.
* `isPlain_jsonString`: a JSON string is written in printable characters of ASCII, so a record never
  spans two lines.
-/

namespace Larder.Text

/-- A code unit as `\uXXXX`. -/
def jsonUnit (n : Nat) : List Char := '\\' :: 'u' :: hex 4 n

/-- A character as it stands inside a JSON string. -/
def jsonEscape (c : Char) : List Char :=
  if c = '"' then ['\\', '"']
  else if c = '\\' then ['\\', '\\']
  else if c = '\n' then ['\\', 'n']
  else if c = '\r' then ['\\', 'r']
  else if c = '\t' then ['\\', 't']
  else if c = '\x08' then ['\\', 'b']
  else if c = '\x0c' then ['\\', 'f']
  else if c.toNat < 0x20 then jsonUnit c.toNat
  else if c.toNat < 0x7F then [c]
  else if c.toNat < 0x10000 then jsonUnit c.toNat
  else
    let n := c.toNat - 0x10000
    jsonUnit (0xD800 + n / 0x400) ++ jsonUnit (0xDC00 + n % 0x400)

/-- A text as a JSON string, quotes included. -/
def jsonString (s : String) : String :=
  String.ofList ('"' :: s.toList.flatMap jsonEscape ++ ['"'])

/-- The characters that are written by a backslash and a letter or sign, with this one. -/
def jsonLetters : List (Char × Char) :=
  [('"', '"'), ('\\', '\\'), ('\n', 'n'), ('\r', 'r'), ('\t', 't'), ('\x08', 'b'), ('\x0c', 'f')]

/-- What may be written for a character. -/
inductive Escaped (c : Char) : List Char → Prop where
  | letter {e : Char} (hLetter : (c, e) ∈ jsonLetters) : Escaped c ['\\', e]
  | unit (hUnit : c.toNat < 0x10000) : Escaped c (jsonUnit c.toNat)
  /-- The character stands for itself. -/
  | self (hQuote : c ≠ '"') (hBackslash : c ≠ '\\') (hControl : 0x20 ≤ c.toNat)
      (hAscii : c.toNat ≤ 0x7E) : Escaped c [c]
  | pair (hPair : 0x10000 ≤ c.toNat) :
      Escaped c (jsonUnit (0xD800 + (c.toNat - 0x10000) / 0x400) ++
        jsonUnit (0xDC00 + (c.toNat - 0x10000) % 0x400))

/-- A character that is a given one is written by a letter if that one is. -/
theorem Escaped.of_eq {c d e : Char} (h : c = d) (hLetter : (d, e) ∈ jsonLetters) :
    Escaped c ['\\', e] := .letter (h ▸ hLetter)

theorem escaped_jsonEscape (c : Char) : Escaped c (jsonEscape c) := by
  refine iteInduction (fun h => .of_eq h (by decide)) fun hQuote => ?_
  refine iteInduction (fun h => .of_eq h (by decide)) fun hBackslash => ?_
  -- five letters
  iterate 5 refine iteInduction (fun h => .of_eq h (by decide)) fun _ => ?_
  refine iteInduction (fun h => .unit (by omega)) fun hControl => ?_
  refine iteInduction (fun h => .self hQuote hBackslash (by omega) (by omega)) fun _ => ?_
  exact iteInduction .unit fun hUnit => .pair (by omega)

/-- A printable character of ASCII. -/
def isPlain (c : Char) : Bool := 0x20 ≤ c.toNat && c.toNat ≤ 0x7E

theorem isPlain_hexDigit {n : Nat} (h : n < 16) : isPlain (hexDigit n) = true := by
  have hAll : ∀ k : Fin 16, isPlain (hexDigit k) = true := by decide
  exact hAll ⟨n, h⟩

theorem isPlain_hex (width n : Nat) : ∀ c ∈ hex width n, isPlain c = true := by
  induction width generalizing n with
  | zero => exact fun _ h => absurd h List.not_mem_nil
  | succ width ih =>
    rw [hex, List.forall_mem_append, List.forall_mem_singleton]
    exact ⟨ih _, isPlain_hexDigit (Nat.mod_lt n (by decide))⟩

theorem isPlain_jsonUnit (n : Nat) : ∀ c ∈ jsonUnit n, isPlain c = true := by
  rw [jsonUnit, List.forall_mem_cons, List.forall_mem_cons]
  exact ⟨rfl, rfl, isPlain_hex 4 n⟩

/-- Whatever a character is, it is written in plain ones. -/
theorem isPlain_jsonEscape (c : Char) : ∀ d ∈ jsonEscape c, isPlain d = true := by
  have hWritten := escaped_jsonEscape c
  generalize jsonEscape c = written at hWritten
  cases hWritten with
  | letter hLetter =>
    have hAll : ∀ p ∈ jsonLetters, isPlain p.2 = true := by decide
    rw [List.forall_mem_cons, List.forall_mem_singleton]
    exact ⟨rfl, hAll _ hLetter⟩
  | unit => exact isPlain_jsonUnit _
  | self _ _ hControl hAscii =>
    rw [List.forall_mem_singleton, isPlain, decide_eq_true hControl, decide_eq_true hAscii]
    rfl
  | pair =>
    rw [List.forall_mem_append]
    exact ⟨isPlain_jsonUnit _, isPlain_jsonUnit _⟩

theorem isPlain_jsonString (s : String) : ∀ c ∈ (jsonString s).toList, isPlain c = true := by
  rw [jsonString, String.toList_ofList, List.forall_mem_append, List.forall_mem_cons,
    List.forall_mem_flatMap, List.forall_mem_singleton]
  exact ⟨⟨rfl, fun c _ => isPlain_jsonEscape c⟩, rfl⟩

end Larder.Text
