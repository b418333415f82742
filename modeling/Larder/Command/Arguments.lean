import Larder.Path.Basic

/-!
# Larder — command-line arguments

How a command reads its arguments. Options may stand anywhere among the other arguments, until
`--`. A long option takes its value from after `=` or from the next argument, whatever that looks
like; a short option takes the rest of its cluster or the next argument. A lone `-` and the empty
text are ordinary arguments.
-/

namespace Larder

/-- An option of a command. -/
structure OptionSpec (κ : Type) where
  /-- What the option sets. -/
  key : κ
  /-- Its long name, dashes included. -/
  long : String
  /-- Its letter, if it has one. -/
  short : Option Char
  /-- Whether it takes a value. -/
  takesValue : Bool

/-- Arguments that have been read. -/
structure Arguments (κ : Type) where
  /-- The options in their order, with their values; a flag has the empty value. -/
  options : List (κ × String) := []
  /-- The ordinary arguments in their order. -/
  positional : List String := []

/-- Why arguments cannot be read. -/
inductive UsageFault where
  | noSuchOption (name : String)
  | missingValue (name : String)
  | unexpectedValue (name : String)
  | missingArgument
  /-- There are more arguments than the command takes. -/
  | extraArgument (text : String)
  /-- The value of an option cannot be a path. -/
  | notAPath (value : String)
  | noSuchCommand (name : String)
  | missingCommand
  deriving DecidableEq, Repr

namespace Arguments

variable {κ : Type}

/-- The option with a long name. -/
def findLong (specs : List (OptionSpec κ)) (name : String) : Option (OptionSpec κ) :=
  specs.find? fun s => s.long = name

/-- The option with a letter. -/
def findShort (specs : List (OptionSpec κ)) (letter : Char) : Option (OptionSpec κ) :=
  specs.find? fun s => s.short = some letter

/-- What reading one argument came to: the options it sets, and an option that still takes the next
argument as its value. -/
structure Step (κ : Type) where
  /-- The options that are set. -/
  options : List (κ × String)
  /-- The option that takes the next argument. -/
  open? : Option (OptionSpec κ)

/-- Reads a cluster of letters. -/
def readCluster (specs : List (OptionSpec κ)) : List Char → Except UsageFault (Step κ)
  | [] => .ok ⟨[], none⟩
  | letter :: rest =>
    match findShort specs letter with
    | none => .error (.noSuchOption (String.ofList ['-', letter]))
    | some spec =>
      if spec.takesValue then
        if rest = [] then .ok ⟨[], some spec⟩
        else .ok ⟨[(spec.key, String.ofList rest)], none⟩
      else
        match readCluster specs rest with
        | .error fault => .error fault
        | .ok step => .ok ⟨(spec.key, "") :: step.options, step.open?⟩

/-- A text before and after its first `=`. -/
def cutAtEquals (cs : List Char) : List Char × Option (List Char) :=
  match cs.dropWhile (· ≠ '=') with
  | [] => (cs, none)
  | _ :: value => (cs.takeWhile (· ≠ '='), some value)

/-- Reads an argument that starts with a dash and has more characters. -/
def readOption (specs : List (OptionSpec κ)) (cs : List Char) : Except UsageFault (Step κ) :=
  let cut := cutAtEquals cs
  let name := String.ofList cut.1
  match findLong specs name with
  | some spec =>
    match spec.takesValue, cut.2 with
    | true, some value => .ok ⟨[(spec.key, String.ofList value)], none⟩
    | true, none => .ok ⟨[], some spec⟩
    | false, some _ => .error (.unexpectedValue name)
    | false, none => .ok ⟨[(spec.key, "")], none⟩
  | none =>
    match cs with
    | '-' :: '-' :: _ => .error (.noSuchOption name)
    | _ => readCluster specs cs.tail

/-- Whether an argument is one or more options. -/
def isOption (arg : String) : Bool :=
  match arg.toList with
  | '-' :: _ :: _ => true
  | _ => false

/-- The arguments with options read before them. -/
def withOptions (options : List (κ × String)) (a : Arguments κ) : Arguments κ :=
  { a with options := options ++ a.options }

/-- The arguments with an ordinary one before them. -/
def withPositional (arg : String) (a : Arguments κ) : Arguments κ :=
  { a with positional := arg :: a.positional }

/-- Reads arguments; `open?` is an option that takes the first of them as its value. -/
def read (specs : List (OptionSpec κ)) : Option (OptionSpec κ) → List String →
    Except UsageFault (Arguments κ)
  | none, [] => .ok {}
  | some spec, [] => .error (.missingValue spec.long)
  | some spec, value :: rest =>
    (read specs none rest).map (withOptions [(spec.key, value)])
  | none, arg :: rest =>
    if arg = "--" then .ok ⟨[], rest⟩
    else if isOption arg then
      match readOption specs arg.toList with
      | .error fault => .error fault
      | .ok step => (read specs step.open? rest).map (withOptions step.options)
    else (read specs none rest).map (withPositional arg)

/-- All values of an option, in order. -/
def valuesOf [DecidableEq κ] (a : Arguments κ) (key : κ) : List String :=
  (a.options.filter fun o => o.1 = key).map Prod.snd

/-- Whether a flag is set. -/
def isSet [DecidableEq κ] (a : Arguments κ) (key : κ) : Bool :=
  a.options.any fun o => o.1 = key

end Arguments

end Larder
