import Larder.Text.Blank

/-!
# Larder — markup in texts

A text may have tags in square brackets. A tag starts with a small letter or one of `#`, `/` and
`@`, and has no further opening bracket in it; what follows an equals sign in it is its parameter.
Behind an odd number of backslashes a tag is ordinary text. `[name]` opens a tag, `[/name]` closes
the last one of that name that is open, and `[/]` the last one that is open. A text with a tag that
closes nothing cannot be read.

Names are compared as they are written, but for blanks around them and the case of letters. What a
name or a parameter means is not looked at.

## Results

* `Markup.reads_of_not_mem`: a text without opening brackets can be read.
-/

namespace Larder

/-- Where a reader of markup stands in a text. -/
structure Markup where
  /-- Whether an odd number of backslashes stands just before. -/
  escaped : Bool := false
  /-- The tag that has begun: whether it is ordinary text, and its characters, last first. -/
  tag : Option (Bool × List Char) := none
  /-- The names of the tags that are open, last first. -/
  opened : List (List Char) := []

namespace Markup

/-- A character that a tag can start with. -/
def startsTag (c : Char) : Bool :=
  ('a' ≤ c && c ≤ 'z') || c = '#' || c = '/' || c = '@'

/-- A name as it is compared. -/
def nameOf (cs : List Char) : List Char := (Text.trim cs).map Char.toLower

/-- The tags that are open after one more tag, unless it closes nothing. -/
def openedAfter (opened : List (List Char)) (tag : List Char) : Option (List (List Char)) :=
  match tag.takeWhile (· ≠ '=') with
  | '/' :: name =>
    if Text.trim name = [] then opened.tail?
    else if nameOf name ∈ opened then some (opened.erase (nameOf name))
    else none
  | name => some (nameOf name :: opened)

/-- Reads one character. -/
def step (m : Markup) (c : Char) : Option Markup :=
  let escaped := c = '\\' && !m.escaped
  if c = '[' then some { m with escaped := false, tag := some (m.escaped, []) }
  else
    match m.tag with
    | none => some { m with escaped := escaped }
    | some (isText, []) =>
      some { m with escaped := escaped, tag := if startsTag c then some (isText, [c]) else none }
    | some (isText, cs) =>
      if c ≠ ']' then some { m with escaped := escaped, tag := some (isText, c :: cs) }
      else if isText then some { m with escaped := false, tag := none }
      else (openedAfter m.opened cs.reverse).map fun opened => ⟨false, none, opened⟩

/-- Whether a text can be read. -/
def reads (text : String) : Bool := (text.toList.foldlM step {}).isSome

/-- Without opening brackets no tag begins. -/
theorem isSome_foldlM_step {m : Markup} {cs : List Char} (hTag : m.tag = none) (h : '[' ∉ cs) :
    (cs.foldlM step m).isSome = true := by
  induction cs generalizing m with
  | nil => rfl
  | cons c rest ih =>
    obtain ⟨hc, hRest⟩ := not_or.mp (mt List.mem_cons.mpr h)
    rw [List.foldlM_cons, step, if_neg (Ne.symm hc), hTag]
    exact ih rfl hRest

/-- A text without opening brackets can be read. -/
theorem reads_of_not_mem {text : String} (h : '[' ∉ text.toList) : reads text = true :=
  isSome_foldlM_step rfl h

/-- Tags close each other in any order; a tag that was never opened closes nothing. -/
example : ["[b]x[i]y[/B][/]", "\\[/b]", "[i][/b]"].map reads = [true, true, false] := by
  decide +kernel

end Markup

end Larder
