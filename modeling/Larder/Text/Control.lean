/-!
# Larder — control characters and sequences

What is taken out of a text before it is shown. A message loses the characters that would ring,
move back or return; a plain line loses its control sequences: an escape, a bracket, any number of
digits, semicolons and question marks, and one letter.

## Results

* `dropSequences_of_not_mem`: a text without an escape stays as it is.
-/

namespace Larder.Text

/-- The characters that ring the bell or move the cursor: bell, backspace, vertical tab, form feed
and carriage return. -/
def isMotion (c : Char) : Bool :=
  c = '\x07' || c = '\x08' || c = '\x0b' || c = '\x0c' || c = '\r'

/-- A text without the characters that ring or move. -/
def dropMotion (cs : List Char) : List Char := cs.filter fun c => !isMotion c

/-- The character that starts a control sequence. -/
def escape : Char := '\x1b'

/-- A character that can stand between the bracket of a control sequence and its letter. -/
def isParameter (c : Char) : Bool := c = ';' || c = '?' || c.isDigit

/-- The length of the parameters and the letter that a text starts with, if it does. -/
def parametersLength? : List Char → Option Nat
  | [] => none
  | c :: rest =>
    if isParameter c then (parametersLength? rest).map (· + 1)
    else if c.isAlpha then some 1
    else none

/-- The length of the control sequence that a text starts with, if it does. -/
def sequenceLength? : List Char → Option Nat
  | c :: '[' :: rest => if c = escape then (parametersLength? rest).map (· + 2) else none
  | _ => none

/-- A text without its control sequences, of which the first `skip` characters are passed over. -/
def dropSequencesFrom : Nat → List Char → List Char
  | _, [] => []
  | skip + 1, _ :: rest => dropSequencesFrom skip rest
  | 0, c :: rest =>
    match sequenceLength? (c :: rest) with
    | some length => dropSequencesFrom (length - 1) rest
    | none => c :: dropSequencesFrom 0 rest

/-- A text without its control sequences, found from left to right. What taking one out brings
together is not looked at again. -/
def dropSequences (cs : List Char) : List Char := dropSequencesFrom 0 cs

theorem sequenceLength?_of_ne {c : Char} {rest : List Char} (h : c ≠ escape) :
    sequenceLength? (c :: rest) = none := by
  unfold sequenceLength?
  split
  · rename_i hEq
    simp only [List.cons.injEq] at hEq
    simp [← hEq.1, h]
  · rfl

/-- A text without an escape stays as it is. -/
theorem dropSequences_of_not_mem {cs : List Char} (h : escape ∉ cs) : dropSequences cs = cs := by
  unfold dropSequences
  induction cs with
  | nil => rfl
  | cons c rest ih =>
    have hc : c ≠ escape := fun e => h (by simp [e])
    have hRest : escape ∉ rest := fun m => h (List.mem_cons_of_mem _ m)
    simp [dropSequencesFrom, sequenceLength?_of_ne hc, ih hRest]

end Larder.Text
