import Larder.Number.Shortest

/-!
# Larder — the notation of real numbers

A real number is written with the fewest digits that tell it apart from every other one. Between
`10 ^ -4` and `10 ^ 16` it is written out and always has a digit after the point; beyond, one digit
stands before the point and a signed exponent of two digits or more follows.
-/

namespace Larder.Number

/-- As many zeros as a number tells, none if it is negative. -/
def zeros (n : Int) : List Char := List.replicate n.toNat '0'

/-- Digits with the decimal point after so many of them. -/
def plain (digits : List Char) (point : Int) : List Char :=
  if point ≤ 0 then '0' :: '.' :: (zeros (-point) ++ digits)
  else if digits.length ≤ point then digits ++ zeros (point - digits.length) ++ ['.', '0']
  else digits.take point.toNat ++ '.' :: digits.drop point.toNat

/-- An exponent with its letter and sign. -/
def exponentText (e : Int) : List Char :=
  let digits := Nat.toDigits 10 e.natAbs
  'e' :: (if e < 0 then '-' else '+') :: (zeros (2 - digits.length) ++ digits)

/-- Digits with the point after the first of them, if more follow, and an exponent. -/
def scientific (digits : List Char) (point : Int) : List Char :=
  match digits with
  | [] => []
  | [d] => d :: exponentText (point - 1)
  | d :: more => d :: '.' :: (more ++ exponentText (point - 1))

/-- The place of the point below which a number is not written out: more than three zeros would
stand between the point and the first digit. -/
def plainFrom : Int := -3

/-- The place of the point above which a number is not written out. -/
def plainTo : Int := 16

/-- Digits with their decimal point, in the notation that its place asks for. -/
def layout (digits : List Char) (point : Int) : List Char :=
  if plainFrom ≤ point ∧ point ≤ plainTo then plain digits point else scientific digits point

/-- Digits without the zeros at their end. -/
def dropZeros (digits : List Char) : List Char :=
  (digits.reverse.dropWhile (· = '0')).reverse

/-- The text of a positive decimal. -/
def Decimal.text (d : Decimal) : List Char :=
  let digits := Nat.toDigits 10 d.digits
  layout (dropZeros digits) (digits.length + d.exponent)

/-- The size of a real number. -/
inductive Magnitude where
  /-- Nothing. -/
  | zero
  /-- A positive value. -/
  | finite (x : Binary)
  /-- Larger than every value. -/
  | infinite
  /-- No number at all. -/
  | undefined
  deriving DecidableEq, Repr

/-- The size that the bits of a double stand for: fifty-two bits of fraction, and above them eleven
bits of exponent. The sign above these is left out. -/
def Magnitude.ofBits (bits : Nat) : Magnitude :=
  let fraction : Nat := bits % Nat.pow 2 52
  let field : Nat := bits / Nat.pow 2 52 % Nat.pow 2 11
  if field = 2047 then if fraction = 0 then infinite else undefined
  else if field = 0 then if fraction = 0 then zero else finite ⟨fraction, -1074, false⟩
  else finite ⟨Nat.pow 2 52 + fraction, field - 1075, fraction = 0 && 1 < field⟩

/-- A text behind the minus sign that a number may have. -/
def withSign (negative : Bool) (text : String) : String := if negative then "-" ++ text else text

/-- The text of a real number. What is no number has no sign either. -/
def text (x : Float) : String :=
  let bits := x.toBits.toNat
  let negative := decide (Nat.pow 2 63 ≤ bits)
  match Magnitude.ofBits bits with
  | .zero => withSign negative "0.0"
  | .finite x => withSign negative (String.ofList x.shortest.text)
  | .infinite => withSign negative "inf"
  | .undefined => "nan"

end Larder.Number
