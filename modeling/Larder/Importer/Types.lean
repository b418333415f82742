import Larder.Config
import Larder.Discovery
import Larder.Outcome
import Larder.Specifier

/-!
# Larder — the vocabulary of an importer at work

An importer answers at once when the pantry of an import is at hand. Otherwise the import is
deferred: a discovery of the pantry is under way, and when it ends everyone who waits for that
pantry is told, one after another, through a queue of jobs that are run in the order in which they
were put there.

This module holds the values that such a run is made of: imports and the scripts of callbacks,
discovery calls and what they come back with, promises and those who wait for them, tasks, jobs,
and the events of the journal.

## Results

* `conclude_raised`: any other failure is attributed to the pantry.
-/

namespace Larder

/-! ## Imports and callbacks -/

/-- A compilation: one root document with all its imports. -/
inductive SessionId where
  /-- A compilation that may be referred to again. -/
  | named (name : String)
  /-- A compilation that nobody else refers to. -/
  | unnamed (number : Nat)
  deriving DecidableEq, Repr

/-- An import as the host asks for it. -/
structure Import where
  /-- The compilation that the import belongs to. -/
  session : SessionId
  specifier : Value
  /-- The document that the import stands in. -/
  file : Value

/-- What a completion callback does when it is called: it may import again, with a callback of
its own for the case that this import is deferred too, and it may raise. A callback is called at
most once, so a script that does not look at what it is given describes every run. -/
inductive Script where
  /-- Nothing more. -/
  | stop
  /-- Raises; the event loop takes note and goes on. -/
  | fail
  /-- Imports, then goes on. -/
  | importing (what : Import) (receive next : Script)

/-- A number that names a deferred import, a request or a task. -/
abbrev Ticket : Type := Nat

/-- Who is given the outcome of a deferred import. -/
inductive Receiver where
  | callback (ticket : Ticket) (script : Script)
  /-- A task that awaits it. -/
  | task (ticket : Ticket)

/-- The number of the import or task that an outcome is for. -/
def Receiver.ticket : Receiver → Ticket
  | callback t _ => t
  | task t => t

/-- What an import is answered with at once. -/
inductive Reply where
  | answered (outcome : Outcome)
  /-- Nothing yet; the outcome follows under this number. -/
  | deferred (ticket : Ticket)
  /-- It cannot be deferred because no event loop is running. -/
  | noLoop
  deriving DecidableEq, Repr

/-! ## Discovery calls -/

/-- Where a discovery is to look. -/
inductive Target where
  | search (paths : List Path)
  | location (path : Path)
  deriving DecidableEq, Repr

/-- A call of the discovery collaborator. -/
structure Call where
  /-- The pantry that is looked for. -/
  name : String
  /-- Where it is looked for. -/
  target : Target
  deriving DecidableEq, Repr

/-- What a discovery call comes back with. -/
inductive Returned where
  | pantry (p : Pantry)
  /-- Something else, of the named type. -/
  | other (typeName : String)
  | raised (fault : Fault)
  deriving DecidableEq, Repr

/-- The end of a discovery call: what was told on the way and what came back. -/
structure Landing where
  /-- What was told on the way. -/
  notes : List Note
  returned : Returned
  deriving DecidableEq, Repr

/-- A finding as the end of a call. -/
def Finding.landing (f : Finding) : Landing where
  notes := f.notes
  returned := match f.result with
    | .ok p => .pantry p
    | .error fault => .raised fault

/-- The end of a call that is answered from a directory tree. -/
def Discovery.answer (d : Discovery) (call : Call) : Landing :=
  match call.target with
  | .search paths => (d.discover call.name paths).landing
  | .location path => (d.load call.name path).landing

/-- What everyone who waits for a pantry learns from the end of a call: the pantry under its
registered name, or a fault. Absence is passed on as it is; any other failure is attributed to the
pantry. -/
def conclude (name : String) : Returned → Except Fault Pantry
  | .pantry p => .ok (p.named name)
  | .other typeName => .error (.discoveryFailed name (.notAPantry typeName))
  | .raised (.pantryNotFound pantry searched) => .error (.pantryNotFound pantry searched)
  | .raised fault => .error (.discoveryFailed name fault)

/-- Any other failure is attributed to the pantry. -/
theorem conclude_raised {name : String} {fault : Fault}
    (h : ∀ pantry searched, fault ≠ .pantryNotFound pantry searched) :
    conclude name (.raised fault) = .error (.discoveryFailed name fault) := by
  cases fault <;> simp_all [conclude]

/-! ## Promises and those who wait -/

/-- What a promised pantry came to. -/
inductive Settlement where
  | kept (pantry : Pantry)
  | broken (fault : Fault)
  | cancelled
  deriving DecidableEq, Repr

/-- The settlement that the end of a discovery makes. -/
def Settlement.ofResult : Except Fault Pantry → Settlement
  | .ok p => .kept p
  | .error fault => .broken fault

/-- Someone who waits for a pantry. -/
inductive Waiter where
  | importing (specifier : String) (citation : Citation) (session : SessionId)
      (receiver : Receiver)
  /-- A deferred import that is bound to no compilation. -/
  | unbound (specifier : String) (citation : Citation) (ticket : Ticket)
  /-- A caller who asked for the pantry and is told. -/
  | observer (ticket : Ticket)
  /-- A task that awaits the pantry. -/
  | resolver (ticket : Ticket)
  /-- A task that awaits several pantries, this one for the given place in its list. -/
  | collector (ticket : Ticket) (slot : Nat)
  /-- A prefetch, which takes note of failures only. -/
  | prefetcher

/-- A promised pantry: either some wait for it, or it is settled. -/
inductive Promise where
  /-- Not settled; those who wait, in the order in which they came. -/
  | waiting (waiters : List Waiter)
  | settled (settlement : Settlement)

/-- How far a discovery has come. -/
inductive Stage where
  /-- Its call has not been made yet. -/
  | scheduled
  /-- Its call is under way. -/
  | flying
  /-- Its call has come back but this has not taken effect yet. -/
  | landing (landing : Landing)
  /-- It has ended with what came back. -/
  | landed (returned : Returned)

/-- One discovery with the promise that all its waiters share. -/
structure Flight where
  call : Call
  /-- How far it has come. -/
  stage : Stage
  promise : Promise

/-- The number of a discovery, in the order of their starts. -/
abbrev FlightId : Type := Nat

/-! ## Tasks and jobs -/

/-- What a task is for. -/
inductive Work where
  /-- Imports, one after another; the outcomes so far. -/
  | imports (rest : List Import) (outcomes : List Outcome)
  /-- One import that is bound to no compilation. -/
  | unbound (specifier file : Value)
  | pantry (name : String)
  /-- All pantries known by location; those that have come so far, each at its place. -/
  | preload (slots : List (Option Pantry))

/-- What a suspended task is woken with. -/
inductive Wake where
  | outcome (outcome : Outcome)
  | pantry (pantry : Pantry)
  /-- All pantries that were awaited. -/
  | pantries (pantries : List Pantry)
  | fault (fault : Fault)
  | cancelled
  deriving DecidableEq, Repr

/-- What a task ended with. -/
inductive TaskResult where
  | outcomes (outcomes : List Outcome)
  | pantry (pantry : Pantry)
  /-- All pantries known by location. -/
  | pantries (pantries : List Pantry)
  | fault (fault : Fault)
  | cancelled
  deriving DecidableEq, Repr

/-- Where a task stands. -/
inductive Phase where
  | ready
  | suspended
  /-- It is to go on with what it was woken with. -/
  | woken (wake : Wake)
  | ended (result : TaskResult)
  deriving DecidableEq, Repr

/-- A task. -/
structure Task where
  work : Work
  phase : Phase

/-- A job in the queue of the event loop. -/
inductive Job where
  /-- Make the call of a discovery. -/
  | launch (flight : FlightId)
  /-- Let the end of a discovery take effect. -/
  | land (flight : FlightId)
  /-- Tell someone what a promised pantry came to. -/
  | notify (settlement : Settlement) (waiter : Waiter)
  /-- Let a task begin or go on. -/
  | resume (task : Ticket)

/-! ## The journal -/

/-- Something that happened. -/
inductive Event where
  /-- The importer was created without a running event loop. -/
  | createdIdle
  | deferred (ticket : Ticket) (specifier pantry : String)
  /-- An import that is bound to no compilation was deferred. -/
  | deferredUnbound (ticket : Ticket) (specifier pantry : String)
  /-- An import was to be deferred, but no event loop was running. -/
  | refused (specifier pantry : String)
  /-- A request joined a discovery under way. -/
  | joined (pantry : String)
  | started (pantry : String)
  /-- The call of a discovery was made. -/
  | called (call : Call)
  /-- A discovery told something. -/
  | told (note : Note)
  | resolved (name : String) (pantry : Pantry)
  | failed (pantry : String) (fault : Fault)
  /-- A prefetch learned of a failure. -/
  | prefetchFailed (fault : Fault)
  /-- A deferred import learned that its promise was cancelled. -/
  | promiseCancelled (pantry : String)
  /-- A compilation was answered for a path, by empty contents if it had been given it before. -/
  | decided (session : SessionId) (path : Path) (outcome : Outcome)
  | delivered (ticket : Ticket) (outcome : Outcome)
  /-- The outcome of a deferred import was handed to its task, which may have ended by then. -/
  | handed (ticket : Ticket) (outcome : Outcome)
  /-- A completion callback imported again. -/
  | nested (ticket : Ticket) (reply : Reply)
  /-- A caller was told what became of a request. -/
  | observed (ticket : Ticket) (settlement : Settlement)
  | finished (ticket : Ticket) (result : TaskResult)
  deriving DecidableEq, Repr

end Larder
