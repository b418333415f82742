import Larder.Text.JsonString
import Larder.Value
import Mathlib

/-!
# Larder — reading JSON

What a JSON text says is what a machine reads in it, character by character. The machine keeps the
lists and objects that are open, from the inside out, and knows what has to come next: a value, a
key, a colon, or what may follow a value. Inside a string it knows what it has read of it so far,
and of an escape, how many digits are still to come. A number and the three words are read to their
end and then looked at as a whole.

Only what stands for a character is read as one. So a control character does not stand in a string
as it is, and of two surrogates neither stands for anything without the other.

A string is written in ASCII alone. What is written for one character of it is read as that
character, whatever stands before and after it. So a string is read as it was written.

## Results

* `run_hex`: four digits are read as the code unit that they are written for.
* `run_jsonEscape`: what is written for a character is read as that character.
* `run_jsonString`: a string that is written is read as that string.
-/

namespace Larder

namespace Json

-- ---------------------------------------------------------------------------
-- The machine
-- ---------------------------------------------------------------------------

/-- What is open, with what was read of it so far, the last first. -/
inductive Frame where
  | list (items : List Value)
  /-- The value of a key is read. -/
  | member (members : List (String × Value)) (key : String)

/-- Whether a string is a key, and of which object, or a value. -/
inductive Role where
  | key (members : List (String × Value))
  | value

/-- What has to come next. -/
inductive Mode where
  | value
  /-- The first item of a list, or its end. -/
  | firstItem
  /-- The first key of an object, or its end. -/
  | firstKey
  /-- A further key. -/
  | key (members : List (String × Value))
  | colon (members : List (String × Value)) (key : String)
  /-- Whatever may follow a value. -/
  | after (v : Value)
  /-- More of a string, or its end. The first of two surrogates waits for the other one. -/
  | text (role : Role) (cs : List Char) (high : Option Nat)
  /-- What follows a backslash. -/
  | escape (role : Role) (cs : List Char) (high : Option Nat)
  /-- So many digits of a code unit, of which the others are read. -/
  | unit (role : Role) (cs : List Char) (high : Option Nat) (left value : Nat)
  /-- More of a number or a word. -/
  | word (cs : List Char)

/-- The machine: what is open, and what has to come next. -/
structure Machine where
  stack : List Frame
  mode : Mode

/-- Space between the parts of a JSON text. -/
def isSpace (c : Char) : Bool := c = ' ' || c = '\t' || c = '\n' || c = '\r'

/-- A character that numbers and words are made of. -/
def isWord (c : Char) : Bool := c.isAlphanum || c = '-' || c = '+' || c = '.'

/-- Whether digits, at least one, and nothing else are there. -/
def isDigits (cs : List Char) : Bool := cs ≠ [] && cs.all Char.isDigit

/-- Whether the exponent of a number is there, or nothing. -/
def isExponent : List Char → Bool
  | [] => true
  | e :: '+' :: digits | e :: '-' :: digits => (e = 'e' || e = 'E') && isDigits digits
  | e :: digits => (e = 'e' || e = 'E') && isDigits digits

/-- Whether a fraction and an exponent are there, one of them, or nothing. -/
def isFraction : List Char → Bool
  | '.' :: rest => isDigits (rest.takeWhile Char.isDigit) &&
      isExponent (rest.dropWhile Char.isDigit)
  | rest => isExponent rest

/-- Whether a number without a sign is there; it does not start with a zero that it could do
without. -/
def isUnsigned (cs : List Char) : Bool :=
  let whole := cs.takeWhile Char.isDigit
  isDigits whole && (whole = ['0'] || whole.head? ≠ some '0') &&
    isFraction (cs.dropWhile Char.isDigit)

/-- Whether a number is there. -/
def isNumber : List Char → Bool
  | '-' :: rest => isUnsigned rest
  | cs => isUnsigned cs

/-- What a number or a word stands for. -/
def wordValue? (cs : List Char) : Option Value :=
  if cs = "null".toList then some .null
  else if cs = "true".toList then some (.bool true)
  else if cs = "false".toList then some (.bool false)
  else if isNumber cs then some (.ofNumeral (.ofChars cs))
  else none

/-- The value of a hexadecimal digit. -/
def hexValue? (c : Char) : Option Nat :=
  if '0' ≤ c ∧ c ≤ '9' then some (c.toNat - 48)
  else if 'a' ≤ c ∧ c ≤ 'f' then some (c.toNat - 87)
  else if 'A' ≤ c ∧ c ≤ 'F' then some (c.toNat - 55)
  else none

/-- What a letter after a backslash stands for. -/
def letterValue? (c : Char) : Option Char :=
  if c = '"' ∨ c = '\\' ∨ c = '/' then some c
  else if c = 'b' then some '\x08'
  else if c = 'f' then some '\x0c'
  else if c = 'n' then some '\n'
  else if c = 'r' then some '\r'
  else if c = 't' then some '\t'
  else none

/-- A string that is read has a code unit more. -/
def withUnit? (role : Role) (cs : List Char) (high : Option Nat) (n : Nat) : Option Mode :=
  match high with
  | none =>
    if 0xD800 ≤ n ∧ n < 0xDC00 then some (.text role cs (some n))
    else if 0xDC00 ≤ n ∧ n < 0xE000 then none
    else some (.text role (Char.ofNat n :: cs) none)
  | some first =>
    if 0xDC00 ≤ n ∧ n < 0xE000 then
      some (.text role (Char.ofNat (0x10000 + (first - 0xD800) * 0x400 + (n - 0xDC00)) :: cs) none)
    else none

/-- A string is at its end. -/
def closed : Role → String → Mode
  | .key members, s => .colon members s
  | .value, s => .after (.str s)

/-- What comes after a value. -/
def follow? (stack : List Frame) (v : Value) (c : Char) : Option Machine :=
  if isSpace c then some ⟨stack, .after v⟩
  else match c, stack with
    | ',', .list items :: rest => some ⟨.list (v :: items) :: rest, .value⟩
    | ']', .list items :: rest => some ⟨rest, .after (.list (v :: items).reverse)⟩
    | ',', .member members key :: rest => some ⟨rest, .key ((key, v) :: members)⟩
    | '\x7d', .member members key :: rest =>
      some ⟨rest, .after (.object ((key, v) :: members).reverse)⟩
    | _, _ => none

/-- The first character of a value. -/
def begin? (stack : List Frame) (c : Char) : Option Machine :=
  if isSpace c then some ⟨stack, .value⟩
  else if c = '"' then some ⟨stack, .text .value [] none⟩
  else if c = '[' then some ⟨stack, .firstItem⟩
  else if c = '\x7b' then some ⟨stack, .firstKey⟩
  else if isWord c then some ⟨stack, .word [c]⟩
  else none

/-- One character. -/
def step (m : Machine) (c : Char) : Option Machine :=
  match m.mode with
  | .value => begin? m.stack c
  | .firstItem =>
    if isSpace c then some m
    else if c = ']' then some ⟨m.stack, .after (.list [])⟩
    else begin? (.list [] :: m.stack) c
  | .firstKey =>
    if isSpace c then some m
    else if c = '\x7d' then some ⟨m.stack, .after (.object [])⟩
    else if c = '"' then some ⟨m.stack, .text (.key []) [] none⟩
    else none
  | .key members =>
    if isSpace c then some m
    else if c = '"' then some ⟨m.stack, .text (.key members) [] none⟩
    else none
  | .colon members key =>
    if isSpace c then some m
    else if c = ':' then some ⟨.member members key :: m.stack, .value⟩
    else none
  | .after v => follow? m.stack v c
  | .text role cs high =>
    if c = '\\' then some ⟨m.stack, .escape role cs high⟩
    else if high.isSome ∨ c.toNat < 0x20 then none
    else if c = '"' then some ⟨m.stack, closed role (String.ofList cs.reverse)⟩
    else some ⟨m.stack, .text role (c :: cs) none⟩
  | .escape role cs high =>
    if c = 'u' then some ⟨m.stack, .unit role cs high 4 0⟩
    else if high.isSome then none
    else (letterValue? c).map fun d => ⟨m.stack, .text role (d :: cs) none⟩
  | .unit role cs high left value =>
    (hexValue? c).bind fun d =>
      if left = 1 then (withUnit? role cs high (value * 16 + d)).map (⟨m.stack, ·⟩)
      else some ⟨m.stack, .unit role cs high (left - 1) (value * 16 + d)⟩
  | .word cs =>
    if isWord c then some ⟨m.stack, .word (c :: cs)⟩
    else (wordValue? cs.reverse).bind fun v => follow? m.stack v c

/-- Characters one after another. -/
def run (m : Machine) (cs : List Char) : Option Machine := cs.foldlM step m

/-- What was read, if it is whole. -/
def result? (m : Machine) : Option Value :=
  match m.stack, m.mode with
  | [], .after v => some v
  | [], .word cs => wordValue? cs.reverse
  | _, _ => none

/-- The value that a JSON text stands for. -/
def read (s : String) : Option Value := (run ⟨[], .value⟩ s.toList).bind result?

-- ---------------------------------------------------------------------------
-- Strings are read
-- ---------------------------------------------------------------------------

variable {stack : List Frame} {role : Role} {cs : List Char} {high : Option Nat}

@[simp] theorem run_nil (m : Machine) : run m [] = some m := rfl

theorem run_cons (m : Machine) (c : Char) (rest : List Char) :
    run m (c :: rest) = (step m c).bind (run · rest) := rfl

/-- What was read of a text says how the rest of it is read. -/
theorem run_append {m m' : Machine} {first : List Char} (h : run m first = some m')
    (rest : List Char) : run m (first ++ rest) = run m' rest := by
  rw [run, List.foldlM_append]
  exact congrArg (Option.bind · (run · rest)) h

theorem hexValue?_hexDigit {n : Nat} (h : n < 16) : hexValue? (Text.hexDigit n) = some n := by
  have hAll : ∀ k : Fin 16, hexValue? (Text.hexDigit k) = some k.val := by decide
  exact hAll ⟨n, h⟩

/-- The digits of a code unit but for some of its last ones. -/
theorem run_hex_left (width left value n : Nat) :
    run ⟨stack, .unit role cs high (width + (left + 1)) value⟩ (Text.hex width n) =
      some ⟨stack, .unit role cs high (left + 1) (value * 16 ^ width + n % 16 ^ width)⟩ := by
  induction width generalizing left n with
  | zero => simp [Text.hex, Nat.mod_one]
  | succ width ih =>
    have hDigits : value * 16 ^ (width + 1) + n % 16 ^ (width + 1) =
        (value * 16 ^ width + n / 16 % 16 ^ width) * 16 + n % 16 := by
      rw [Nat.pow_succ, Nat.mul_comm (16 ^ width) 16, Nat.mod_mul, Nat.mul_left_comm value]
      omega
    rw [Text.hex, show width + 1 + (left + 1) = width + (left + 1 + 1) by omega,
      run_append (ih _ _), run_cons, hDigits]
    simp [step, hexValue?_hexDigit (Nat.mod_lt n (by decide : 0 < 16))]

/-- Four digits are read as the code unit that they are written for. -/
theorem run_hex {n : Nat} (h : n < 0x10000) :
    run ⟨stack, .unit role cs high 4 0⟩ (Text.hex 4 n) =
      (withUnit? role cs high n).map (⟨stack, ·⟩) := by
  have hFirst : run ⟨stack, .unit role cs high 4 0⟩ (Text.hex 3 (n / 16)) =
      some ⟨stack, .unit role cs high 1 (n / 16)⟩ := by
    have hLeft : 0 * 16 ^ 3 + n / 16 % 16 ^ 3 = n / 16 := by omega
    exact (run_hex_left 3 0 0 (n / 16)).trans (by rw [hLeft])
  have hWhole : n / 16 * 16 + n % 16 = n := Nat.div_add_mod' n 16
  rw [Text.hex, run_append hFirst, run_cons]
  simp [step, hexValue?_hexDigit (Nat.mod_lt n (by decide : 0 < 16)), hWhole]

/-- A code unit that is written is read. -/
theorem run_jsonUnit {n : Nat} (h : n < 0x10000) :
    run ⟨stack, .text role cs high⟩ (Text.jsonUnit n) =
      (withUnit? role cs high n).map (⟨stack, ·⟩) :=
  run_hex h

/-- The code unit of a character is read as that character. -/
theorem withUnit?_toNat {c : Char} (h : c.toNat < 0x10000) :
    withUnit? role cs none c.toNat = some (.text role (c :: cs) none) := by
  have hValid : c.toNat < 0xD800 ∨ 0xDFFF < c.toNat ∧ c.toNat < 0x110000 := c.valid
  rw [withUnit?, if_neg (by omega), if_neg (by omega), Char.ofNat_toNat]

/-- Two surrogates are read as one character. -/
theorem run_surrogates {first second : Nat} (hFirst : 0xD800 ≤ first ∧ first < 0xDC00)
    (hSecond : 0xDC00 ≤ second ∧ second < 0xE000) :
    run ⟨stack, .text role cs none⟩ (Text.jsonUnit first ++ Text.jsonUnit second) =
      some ⟨stack, .text role
        (Char.ofNat (0x10000 + (first - 0xD800) * 0x400 + (second - 0xDC00)) :: cs) none⟩ := by
  have hHigh : run ⟨stack, .text role cs none⟩ (Text.jsonUnit first) =
      some ⟨stack, .text role cs (some first)⟩ := by
    rw [run_jsonUnit (by omega), withUnit?, if_pos hFirst, Option.map_some]
  rw [run_append hHigh, run_jsonUnit (by omega), withUnit?, if_pos hSecond, Option.map_some]

/-- **What is written for a character is read as that character.** -/
theorem run_jsonEscape (c : Char) :
    run ⟨stack, .text role cs none⟩ (Text.jsonEscape c) =
      some ⟨stack, .text role (c :: cs) none⟩ := by
  have hWritten := Text.escaped_jsonEscape c
  generalize Text.jsonEscape c = written at hWritten
  cases hWritten with
  | letter hLetter =>
    have hAll : ∀ p ∈ Text.jsonLetters, p.2 ≠ 'u' ∧ letterValue? p.2 = some p.1 := by decide
    obtain ⟨hUnit, hValue⟩ := hAll _ hLetter
    rw [run_cons]
    simp [run_cons, step, hUnit, hValue]
  | unit hUnit =>
    rw [run_jsonUnit hUnit, withUnit?_toNat hUnit]
    rfl
  | self hQuote hBackslash hControl =>
    rw [run_cons, step]
    simp [hQuote, hBackslash, Nat.not_lt.mpr hControl]
  | pair hPair =>
    have hValid : c.toNat < 0xD800 ∨ 0xDFFF < c.toNat ∧ c.toNat < 0x110000 := c.valid
    have hWhole : 0x10000 + (0xD800 + (c.toNat - 0x10000) / 0x400 - 0xD800) * 0x400 +
        (0xDC00 + (c.toNat - 0x10000) % 0x400 - 0xDC00) = c.toNat := by omega
    rw [run_surrogates ⟨by omega, by omega⟩ ⟨by omega, by omega⟩, hWhole, Char.ofNat_toNat]

/-- **A string that is written is read as that string.** -/
theorem run_jsonString (s : List Char) :
    run ⟨stack, .text role cs none⟩ (s.flatMap Text.jsonEscape ++ ['"']) =
      some ⟨stack, closed role (String.ofList (cs.reverse ++ s))⟩ := by
  induction s generalizing cs with
  | nil =>
    rw [List.append_nil]
    rfl
  | cons c rest ih =>
    rw [List.flatMap_cons, List.append_assoc, run_append (run_jsonEscape c), ih,
      List.reverse_cons, List.append_assoc]
    rfl

/-- A string stands for itself, also as a value. -/
theorem run_value (s : String) :
    run ⟨stack, .value⟩ (Text.jsonString s).toList = some ⟨stack, .after (.str s)⟩ := by
  have hText : run ⟨stack, .text .value [] none⟩ (s.toList.flatMap Text.jsonEscape ++ ['"']) =
      some ⟨stack, .after (.str (String.ofList ([].reverse ++ s.toList)))⟩ :=
    run_jsonString s.toList
  rw [List.reverse_nil, List.nil_append, String.ofList_toList] at hText
  rw [Text.jsonString, String.toList_ofList, List.cons_append]
  exact hText

example : read " [null, -1, \x7b\"a\\u00e9\": [\"\\ud83d\\ude00\", []]\x7d ]" =
    some (.list [.null, .int (-1), .object [("aé", .list [.str "😀", .list []])]]) := by
  rfl

end Json

end Larder
