import Larder.Path.Basic
import Larder.Schema
import Larder.Text.Capital
import Larder.Text.Quoted

/-!
# Larder — faults

Everything that can go wrong, as causes. The wording of each is in `Fault.message?`; a value that
does not fit its schema has no wording of its own, only the list of places.
-/

namespace Larder

/-- The refusals of the operating system that have a name of their own. -/
inductive Refusal where
  /-- The call would have to wait. -/
  | blocked
  /-- Nobody reads what is written. -/
  | brokenPipe
  | noChild
  | connectionAborted
  | connectionRefused
  | connectionReset
  /-- Something is there already. -/
  | alreadyThere
  | absent
  | isDirectory
  | notDirectory
  /-- A signal came in between. -/
  | interrupted
  | forbidden
  | noProcess
  | timedOut
  deriving DecidableEq, Repr

namespace Refusal

/-- The numbers that the operating system gives to refusals. -/
def numbers : List (Int × Refusal) :=
  [(1, forbidden), (2, absent), (3, noProcess), (4, interrupted), (10, noChild), (11, blocked),
    (13, forbidden), (17, alreadyThere), (20, notDirectory), (21, isDirectory), (32, brokenPipe),
    (103, connectionAborted), (104, connectionReset), (108, brokenPipe), (110, timedOut),
    (111, connectionRefused), (114, blocked), (115, blocked)]

/-- The refusal with a number. -/
def ofNumber? (number : Value) : Option Refusal :=
  (numbers.find? fun r => number.isNumber r.1).map Prod.snd

end Refusal

/-- The kinds of exception that a discovery may end with and that are passed on in words. -/
inductive Foreign where
  /-- The operating system refused. -/
  | system (refusal : Option Refusal)
  | value
  | state
  | timeout
  | cancelled
  /-- An import failed in a way that has no kind of its own. -/
  | importing
  | configuration
  | key
  deriving DecidableEq, Repr

namespace Foreign

/-- Whether a kind of exception takes a number and a reason. -/
def isNumbered : Foreign → Bool
  | system _ => true
  | timeout => true
  | _ => false

/-- The files that a refusal names: the argument after its reason and, together with that, the one
two places further on. Where a call would have to wait, a number in this place counts what was done
so far and is no file. -/
def fileText (number : Value) : List Value → String
  | [] => ""
  | file :: more =>
    let isCount := file.typeName = "int" || file.typeName = "bool"
    if file.isNull || (isCount && Refusal.ofNumber? number = some .blocked) then ""
    else
      match more[1]? with
      | none => ": " ++ file.shown
      | some other =>
        if other.isNull then ": " ++ file.shown else ": " ++ file.shown ++ " -> " ++ other.shown

/-- The wording of an exception with the given arguments: none is empty, one is itself, more are
listed. The system and the clock put a number before their reason, unless there are more than five
arguments, and a key is quoted. -/
def message (kind : Foreign) (args : List Value) : String :=
  match args with
  | [] => ""
  | [a] => if kind = key then a.shown else a.text
  | number :: reason :: more =>
    if kind.isNumbered && more.length ≤ 3 then
      "[Errno " ++ number.text ++ "] " ++ reason.text ++
        (if kind = timeout then fileText .null more else fileText number more)
    else "(" ++ ", ".intercalate (args.map Value.shown) ++ ")"

/-- The kind of an exception with the given arguments: the number of a refusal tells which. -/
def narrow (kind : Foreign) (args : List Value) : Foreign :=
  match kind, args with
  | system none, number :: _ :: more =>
    if more.length ≤ 3 then system (Refusal.ofNumber? number) else system none
  | kind, _ => kind

end Foreign

/-- What went wrong. -/
inductive Fault where
  /-- No pantry of that name in any of the places searched. -/
  | pantryNotFound (pantry : String) (searched : List Path)
  /-- Looking for a pantry failed for another reason than absence. -/
  | discoveryFailed (pantry : String) (cause : Fault)
  | noIngredient (pantry ingredient : String)
  /-- The ingredient has no entry point of that kind. -/
  | noEntryPoint (pantry ingredient kind : String)
  | configInvalid (errors : List SchemaError)
  | configNotMapping (typeName : String)
  | descriptorInvalid (errors : List SchemaError)
  /-- A discovery came back with something else than a pantry. -/
  | notAPantry (typeName : String)
  /-- A component of the path is longer than a directory can hold. -/
  | nameTooLong (path : Path)
  | noRunningLoop
  /-- An outcome would have to be recorded, but the import is bound to no compilation. -/
  | noSession
  /-- A pantry option is not of the form `NAME=DIR`. -/
  | badPantryOption (value : String)
  /-- An exception of the collaborator, in its words. -/
  | foreign (kind : Foreign) (text : String)
  deriving DecidableEq, Repr

namespace Fault

/-- The fault of work that was cancelled without a reason. -/
def cancelled : Fault := .foreign .cancelled ""

/-- The fault of an exception that was raised with the given arguments. -/
def raised (kind : Foreign) (args : List Value) : Fault :=
  .foreign (kind.narrow args) (kind.message args)

/-- The wording of a fault, where it has one. -/
def message? : Fault → Option String
  | pantryNotFound pantry searched =>
    let missing := "Pantry \"" ++ pantry ++ "\" not found"
    if searched = [] then some missing
    else some (missing ++ " in: " ++ ", ".intercalate (searched.map Path.toString))
  | discoveryFailed pantry cause =>
    cause.message?.map fun reason => "Failed to discover pantry \"" ++ pantry ++ "\": " ++ reason
  | noIngredient pantry ingredient =>
    some ("No such ingredient \"" ++ pantry ++ "/" ++ ingredient ++ "\"")
  | noEntryPoint pantry ingredient kind =>
    some ("\"" ++ pantry ++ "/" ++ ingredient ++ "\" has no " ++ Text.capitalize kind
      ++ " entry point")
  | configInvalid _ => none
  | configNotMapping typeName =>
    some ("importer configuration must be a mapping, not " ++ typeName)
  | descriptorInvalid _ => none
  | notAPantry typeName => some ("discovery returned " ++ typeName ++ ", expected Pantry")
  | nameTooLong path => some ("[Errno 36] File name too long: " ++ Text.quote path.toString)
  | noRunningLoop => some "no running event loop"
  | noSession => some "'NoneType' object has no attribute 'emitted'"
  | badPantryOption value =>
    some ("invalid --pantry value " ++ Text.quote value ++ "; expected NAME=DIR")
  | foreign _ text => some text

/-- The wording of a fault, empty where it has none. -/
def message (f : Fault) : String := f.message?.getD ""

end Fault

end Larder
