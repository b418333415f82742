import Larder.Importer.Loop

/-!
# Larder — what happens to an importer

What the world does with an importer: it creates it, imports, asks for pantries, starts and cancels
tasks, cancels promises, and ends discovery calls. All this answers at once or puts jobs into the
queue; between two such actions the loop may run any number of jobs. An action that needs a running
event loop is refused without one, and a refused action changes nothing.

A promise can be cancelled by whoever was given it, also when a request would not give it any more
because a discovery that was replaced has resolved the pantry since. Those that are not settled are
the ones in the slots of their names, so the name says which promise it is.

## Results

* `act_request_noLoop`: a request without a running event loop changes nothing.
-/

namespace Larder

/-- Something that happens to an importer. -/
inductive Action where
  /-- The host imports, with a completion callback. -/
  | importing (what : Import) (script : Script)
  /-- A caller asks for a pantry and wants to be told what becomes of it. -/
  | request (name : String)
  | start (work : Work)
  /-- The pantries that are known by location are to be loaded. -/
  | prefetch
  /-- A pantry is asked for and its promise is cancelled. -/
  | cancelRequest (name : String)
  /-- Somebody cancels the promise of a pantry that they were given before. -/
  | cancelPromise (name : String)
  | cancelTask (ticket : Ticket)
  /-- A discovery call comes back. -/
  | release (flight : FlightId) (landing : Landing)
  | tick

/-- What an action is answered with. -/
inductive Answer where
  | reply (reply : Reply)
  /-- The number of a request, and whether the pantry is at hand. -/
  | requested (ticket : Ticket) (ready : Bool)
  /-- The number of a task that was started. -/
  | started (ticket : Ticket)
  /-- Whether there was something to cancel. -/
  | cancelled (effective : Bool)
  | noTask
  /-- Whether there was such a discovery call. -/
  | released (effective : Bool)
  /-- Nothing to say. -/
  | done
  /-- The action needs a running event loop. -/
  | noLoop
  deriving DecidableEq, Repr

namespace State

/-- Starts prefetching every pantry that is known by location, in order. -/
def prefetchAll (env : Setup) : List String → State → State
  | [], s => s
  | name :: rest, s =>
    let r := s.request env name
    prefetchAll env rest (r.1.attach r.2 .prefetcher)

/-- Creates an importer from a configuration; when an event loop is running, the pantries known by
location are prefetched. -/
def create (env : Setup) (config : Config) : State :=
  let s : State := { cache := Cache.ofSeeds config.pantries }
  if env.running then prefetchAll env s.cache.locations.keys s else s.note .createdIdle

/-- Starts loading every pantry that is known by location. Without a running event loop this is
refused, unless there is nothing to load. -/
def prefetch (env : Setup) (s : State) : State × Answer :=
  let names := s.cache.locations.keys
  if names = [] then (s, .done)
  else if env.running then (prefetchAll env names s, .done)
  else (s, .noLoop)

/-- Asks for a pantry and to be told what becomes of it. -/
def requesting (env : Setup) (s : State) (name : String) : State × Answer :=
  if env.running then
    let t := s.tickets
    let r := s.takeTicket.request env name
    (r.1.attach r.2 (.observer t), .requested t r.2.isReady)
  else (s, .noLoop)

/-- Cancels the promise of a pantry, which is asked for first. A pantry at hand leaves nothing to
cancel. -/
def cancelRequest (env : Setup) (s : State) (name : String) : State × Answer :=
  if env.running then
    let r := s.request env name
    match r.2 with
    | .ready _ => (r.1, .cancelled false)
    | .shared i => (r.1.settle i .cancelled, .cancelled true)
  else (s, .noLoop)

/-- Cancels the promise in the slot of a name, whether or not the pantry is at hand. -/
def cancelPromise (s : State) (name : String) : State × Answer :=
  match s.cache.pending.get? name with
  | none => (s, .cancelled false)
  | some i => (s.settle i .cancelled, .cancelled (s.cache.joinable? name).isSome)

/-- Starts a task. -/
def startTask (env : Setup) (s : State) (work : Work) : State × Answer :=
  if env.running then
    let t := s.tickets
    ((s.takeTicket.setTask t ⟨work, .ready⟩).enqueue [.resume t], .started t)
  else (s, .noLoop)

/-- Cancels a task. One that has ended leaves nothing to cancel; one that awaits something is
woken; any other finds out when it runs. -/
def cancelTask (s : State) (t : Ticket) : State × Answer :=
  match s.tasks.get? t with
  | none => (s, .noTask)
  | some ⟨_, .ended _⟩ => (s, .cancelled false)
  | some ⟨work, .suspended⟩ =>
    ((s.setTask t ⟨work, .woken .cancelled⟩).enqueue [.resume t], .cancelled true)
  | some ⟨work, _⟩ => (s.setTask t ⟨work, .woken .cancelled⟩, .cancelled true)

/-- Ends a discovery call that is under way. -/
def release (s : State) (i : FlightId) (landing : Landing) : State × Answer :=
  match s.cache.flights[i]? with
  | some ⟨_, .flying, _⟩ =>
    ((s.withCache (s.cache.setStage i (.landing landing))).enqueue [.land i], .released true)
  | _ => (s, .released false)

/-- Lets an action happen. -/
def act (env : Setup) (s : State) : Action → State × Answer
  | .importing what script =>
    let r := s.importing env what script
    (r.1, .reply r.2)
  | .request name => s.requesting env name
  | .start work => s.startTask env work
  | .prefetch => s.prefetch env
  | .cancelRequest name => s.cancelRequest env name
  | .cancelPromise name => s.cancelPromise name
  | .cancelTask t => s.cancelTask t
  | .release i landing => s.release i landing
  | .tick => (s.tick env, .done)

/-- Lets actions happen one after another. -/
def actAll (env : Setup) : List Action → State → State × List Answer
  | [], s => (s, [])
  | a :: rest, s =>
    let r := s.act env a
    let more := actAll env rest r.1
    (more.1, r.2 :: more.2)

/-- A request without a running event loop is refused and changes nothing. -/
theorem act_request_noLoop {env : Setup} {s : State} {name : String}
    (h : env.running = false) : s.act env (.request name) = (s, .noLoop) := by
  simp [act, requesting, h]

/-- The states that an importer can come to. -/
inductive Reachable (env : Setup) (config : Config) : State → Prop where
  /-- The state it was created in. -/
  | create : Reachable env config (create env config)
  /-- The state after one more action. -/
  | act {s : State} (a : Action) (h : Reachable env config s) :
    Reachable env config (s.act env a).1

/-- Prefetches, then resolves imports one after another until one has to wait. Answers the number
of the task that goes on with them. -/
def resolveAll (env : Setup) (s : State) (imports : List Import) : State × Ticket :=
  let t := s.tickets
  (runImports env t imports [] (prefetchAll env s.cache.locations.keys s.takeTicket), t)

/-- What a task ended with, if it has ended. -/
def taskResult? (s : State) (t : Ticket) : Option TaskResult :=
  match s.tasks.get? t with
  | some ⟨_, .ended result⟩ => some result
  | _ => none

end State

end Larder
