import Larder.Importer.State

/-!
# Larder — answering imports

How an import is answered, at once or later. A relative import that leads into a resolved pantry is
passed through the first time and suppressed afterwards; the citation of an ingredient is answered
by its entry point the first time; anything else is passed through. The citation of a pantry that
is not resolved is deferred, and its outcome is delivered when the pantry's promise is settled;
without a running event loop it is refused, when the journal has taken note of it already.

## Results

* `resolve_absolute`: a path from a root is passed through and nothing changes.
* `resolve_noLoop`: without a running event loop an import that needs a discovery leaves a note.
-/

namespace Larder

namespace State

/-- Whether a path lies in the directory of a resolved pantry. -/
def inPantry (env : Setup) (s : State) (path : Path) : Bool :=
  s.cache.resolved.values.any fun pantry =>
    pantry.path.any fun root => env.cwd.isWithin path root

/-- The answer to a relative import: inside a pantry it is passed through once. -/
def resolveRelative (env : Setup) (s : State) (session : SessionId) (path : Path) :
    State × Outcome :=
  if s.inPantry env path then s.giveOnce session path .passThrough else (s, .passThrough)

/-- The answer to the citation of an ingredient whose pantry is at hand. -/
def resolveIn (env : Setup) (s : State) (session : SessionId) (specifier : String)
    (pantry : Pantry) (ingredient : String) : State × Outcome :=
  match pantry.entryPointFor env.cwd ingredient Pantry.styleKind with
  | .error fault => (s, .failure specifier fault)
  | .ok path => s.giveOnce session path (.file path.toString)

/-- Defers the citation of an ingredient until its pantry is resolved. -/
def defer (env : Setup) (s : State) (session : SessionId) (specifier : String)
    (citation : Citation) (receiver : Receiver) : State :=
  let s := s.note (.deferred receiver.ticket specifier citation.pantryName)
  let r := s.request env citation.pantryName
  r.1.attach r.2 (.importing specifier citation session receiver)

/-- The answer to an import. If it is deferred, its outcome goes to the receiver. -/
def resolve (env : Setup) (s : State) (what : Import) (receiver : Receiver) : State × Reply :=
  match classify env.cwd what.specifier what.file with
  | .absolute _ => (s, .answered .passThrough)
  | .unrecognized _ => (s, .answered .passThrough)
  | .relative path =>
    let r := s.resolveRelative env what.session path
    (r.1, .answered r.2)
  | .ingredient citation =>
    let specifier := what.specifier.text
    match s.cache.get? citation.pantryName with
    | some pantry =>
      let r := s.resolveIn env what.session specifier pantry citation.ingredientName
      (r.1, .answered r.2)
    | none =>
      if env.running then
        (s.defer env what.session specifier citation receiver, .deferred receiver.ticket)
      else (s.note (.refused specifier citation.pantryName), .noLoop)

/-- Asks for an import on behalf of the host, which is given a number if the answer is nothing
yet. A host whose own value for passing through is nothing cannot tell the two apart. -/
def importing (env : Setup) (s : State) (what : Import) (script : Script) : State × Reply :=
  let t := s.tickets
  let r := s.resolve env what (.callback t script)
  match r.2 with
  | .deferred _ => (r.1.takeTicket, r.2)
  | .answered .passThrough =>
    if env.passThrough.isNull then (r.1.takeTicket, .deferred t) else r
  | _ => r

/-- Runs the script of a completion callback. -/
def runScript (env : Setup) (t : Ticket) : Script → State → State
  | .stop, s => s
  | .fail, s => s
  | .importing what receive next, s =>
    let r := s.importing env what receive
    runScript env t next (r.1.note (.nested t r.2))

/-- Hands the outcome of a deferred import to its task. -/
def handOver (s : State) (t : Ticket) (outcome : Outcome) : State :=
  (s.note (.handed t outcome)).wake t (.outcome outcome)

/-- Hands an outcome to its receiver. -/
def deliver (env : Setup) (s : State) (receiver : Receiver) (outcome : Outcome) : State :=
  match receiver with
  | .callback t script => runScript env t script (s.note (.delivered t outcome))
  | .task t => s.handOver t outcome

/-- The outcome of a deferred import whose promise came to a settlement. -/
def complete (env : Setup) (s : State) (session : SessionId) (specifier : String)
    (citation : Citation) : Settlement → State × Outcome
  | .kept pantry => s.resolveIn env session specifier pantry citation.ingredientName
  | .broken fault => (s, .failure specifier fault)
  | .cancelled =>
    (s.note (.promiseCancelled citation.pantryName),
      .failure specifier (.discoveryFailed citation.pantryName Fault.cancelled))

/-- The answer to the citation of an ingredient by an import that is bound to no compilation:
nothing can be recorded for it, so an entry point that is found is a fault. -/
def resolveUnbound (env : Setup) (specifier : String) (pantry : Pantry) (ingredient : String) :
    Except Fault Outcome :=
  match pantry.entryPointFor env.cwd ingredient Pantry.styleKind with
  | .error fault => .ok (.failure specifier fault)
  | .ok _ => .error .noSession

/-- Tells a task whose import is bound to no compilation what the promised pantry came to. If that
is a fault of the import itself, the event loop takes note of it and the task goes on waiting. -/
def completeUnbound (env : Setup) (s : State) (specifier : String) (citation : Citation)
    (t : Ticket) : Settlement → State
  | .kept pantry =>
    match resolveUnbound env specifier pantry citation.ingredientName with
    | .ok outcome => s.handOver t outcome
    | .error _ => s
  | .broken fault => s.handOver t (.failure specifier fault)
  | .cancelled =>
    (s.note (.promiseCancelled citation.pantryName)).handOver t
      (.failure specifier (.discoveryFailed citation.pantryName Fault.cancelled))

/-- Tells someone what a promised pantry came to. -/
def notify (env : Setup) (s : State) (settlement : Settlement) : Waiter → State
  | .importing specifier citation session receiver =>
    let r := s.complete env session specifier citation settlement
    r.1.deliver env receiver r.2
  | .unbound specifier citation t => s.completeUnbound env specifier citation t settlement
  | .observer t => s.note (.observed t settlement)
  | .resolver t =>
    match settlement with
    | .kept pantry => s.wake t (.pantry pantry)
    | .broken fault => s.wake t (.fault fault)
    | .cancelled => s.wake t .cancelled
  | .collector t slot =>
    match settlement with
    | .kept pantry => s.collect t slot pantry
    | .broken fault => s.wake t (.fault fault)
    | .cancelled => s.wake t .cancelled
  | .prefetcher =>
    match settlement with
    | .broken fault => s.note (.prefetchFailed fault)
    | _ => s

/-- A path from a root is passed through and nothing changes. -/
theorem resolve_absolute {env : Setup} {s : State} {what : Import} {receiver : Receiver}
    {path : String} (h : classify env.cwd what.specifier what.file = .absolute path) :
    s.resolve env what receiver = (s, .answered .passThrough) := by simp [resolve, h]

/-- Without a running event loop an import that needs a discovery leaves nothing but a note. -/
theorem resolve_noLoop {env : Setup} {s : State} {what : Import} {receiver : Receiver}
    {citation : Citation}
    (h : classify env.cwd what.specifier what.file = .ingredient citation)
    (hNone : s.cache.get? citation.pantryName = none) (hIdle : env.running = false) :
    s.resolve env what receiver =
      (s.note (.refused what.specifier.text citation.pantryName), .noLoop) := by
  simp [resolve, h, hNone, hIdle]

end State

end Larder
