import Larder.Importer.Cache

/-!
# Larder — the state of an importer

An importer at work: its cache, the queue of jobs, what each compilation has been given, the tasks,
and the journal of everything that happened. The elementary changes are here: taking note of an
event, putting a job into the queue, recording a path, and everything that a request for a pantry
and the end of a discovery do to cache and queue.

## Results

* `emission_setEmission_self`: what was set for a compilation is read.
-/

namespace Larder

/-- What does not change while an importer works. -/
structure Setup where
  cwd : Path
  /-- What the host understands as "resolve this import yourself". -/
  passThrough : Value
  /-- Where pantries are looked for that are not known by location. -/
  searchPaths : List Path
  /-- How the collaborator answers a call, given its number: at once, or later from outside. -/
  collaborator : FlightId → Call → Option Landing
  /-- Whether an event loop is running. -/
  running : Bool

/-- An importer at work. -/
structure State where
  cache : Cache := {}
  queue : List Job := []
  /-- What each compilation has been given. -/
  sessions : Registry SessionId Emission := {}
  tasks : Registry Ticket Task := {}
  /-- The number of the next import, request or task. -/
  tickets : Ticket := 0
  /-- What happened, the newest first. -/
  journal : List Event := []

namespace State

/-- What happened, the oldest first. -/
def history (s : State) : List Event := s.journal.reverse

/-- Takes note of an event. -/
def note (s : State) (e : Event) : State := { s with journal := e :: s.journal }

/-- Takes note of events in their order. -/
def noteAll (s : State) (es : List Event) : State := { s with journal := es.reverse ++ s.journal }

/-- Puts jobs at the end of the queue. -/
def enqueue (s : State) (jobs : List Job) : State := { s with queue := s.queue ++ jobs }

/-- Changes the cache. -/
def withCache (s : State) (c : Cache) : State := { s with cache := c }

/-- Takes the next number. -/
def takeTicket (s : State) : State := { s with tickets := s.tickets + 1 }

/-! ## Compilations -/

/-- What a compilation has been given. -/
def emission (s : State) (session : SessionId) : Emission :=
  (s.sessions.get? session).getD Emission.empty

/-- Sets what a compilation has been given. -/
def setEmission (s : State) (session : SessionId) (e : Emission) : State :=
  { s with sessions := s.sessions.insert session e }

/-- What was set for a compilation is read. -/
@[simp] theorem emission_setEmission_self (s : State) (session : SessionId) (e : Emission) :
    (s.setEmission session e).emission session = e := by simp [emission, setEmission]

/-- Other compilations are left alone. -/
theorem emission_setEmission_of_ne (s : State) {session other : SessionId} (e : Emission)
    (h : other ≠ session) : (s.setEmission session e).emission other = s.emission other := by
  simp [emission, setEmission, Registry.get?_insert_of_ne _ _ h]

/-- Answers a compilation for a path: with the fresh outcome the first time, with empty contents
afterwards. -/
def giveOnce (s : State) (session : SessionId) (path : Path) (fresh : Outcome) :
    State × Outcome :=
  let r := (s.emission session).answer path fresh
  ((s.setEmission session r.1).note (.decided session path.normalize r.2), r.2)

/-! ## Requests -/

/-- A pantry that was asked for. -/
inductive Handle where
  | ready (pantry : Pantry)
  | shared (flight : FlightId)
  deriving DecidableEq, Repr

/-- Whether a pantry that was asked for is at hand. -/
def Handle.isReady : Handle → Bool
  | .ready _ => true
  | .shared _ => false

/-- What happens to the queue and the journal when a pantry was asked for. -/
def afterRequest (s : State) (name : String) : Requested → State
  | .ready _ => s
  | .joined _ => s.note (.joined name)
  | .started i => (s.note (.started name)).enqueue [.launch i]

/-- The handle that a request gives. -/
def Handle.ofRequested : Requested → Handle
  | .ready pantry => .ready pantry
  | .joined i => .shared i
  | .started i => .shared i

/-- Asks for a pantry; a discovery is started if none is under way. -/
def request (env : Setup) (s : State) (name : String) : State × Handle :=
  let r := s.cache.request env.searchPaths name
  ((s.withCache r.1).afterRequest name r.2, Handle.ofRequested r.2)

/-- Adds someone who waits for a pantry that was asked for. If it is at hand or the promise is
settled, telling them is put into the queue. -/
def attach (s : State) (handle : Handle) (w : Waiter) : State :=
  match handle with
  | .ready pantry => s.enqueue [.notify (.kept pantry) w]
  | .shared i =>
    match s.cache.promise? i with
    | some (.waiting ws) => s.withCache (s.cache.setPromise i (.waiting (ws ++ [w])))
    | some (.settled settlement) => s.enqueue [.notify settlement w]
    | none => s

/-! ## Discoveries -/

/-- Settles a promise and puts telling those who wait into the queue, in the order in which they
came. -/
def settle (s : State) (i : FlightId) (settlement : Settlement) : State :=
  (s.withCache (s.cache.settle i settlement)).enqueue
    ((s.cache.waiters i).map fun w => .notify settlement w)

/-- What the journal says of the result of a discovery. -/
def resultEvent (name : String) : Except Fault Pantry → Event
  | .ok pantry => .resolved name pantry
  | .error fault => .failed name fault

/-- Lets the end of a discovery take effect: the cache learns of the result, the slot is freed,
and the promise is settled. -/
def landWith (s : State) (i : FlightId) (name : String) (landing : Landing) : State :=
  let result := Larder.conclude name landing.returned
  let s := s.noteAll (landing.notes.map Event.told)
  let s := s.withCache ((s.cache.setStage i (.landed landing.returned)).conclude name i result)
  (s.note (resultEvent name result)).settle i (Settlement.ofResult result)

/-- Makes the call of a discovery; an answer that comes at once takes effect at once. -/
def launch (env : Setup) (s : State) (i : FlightId) : State :=
  match s.cache.flights[i]? with
  | none => s
  | some f =>
    let s := (s.withCache (s.cache.setStage i .flying)).note (.called f.call)
    match env.collaborator i f.call with
    | none => s
    | some landing => s.landWith i f.call.name landing

/-- Lets the end of a discovery take effect that came from outside. -/
def land (s : State) (i : FlightId) : State :=
  match s.cache.flights[i]? with
  | some ⟨call, .landing landing, _⟩ => s.landWith i call.name landing
  | _ => s

/-! ## Tasks -/

/-- Sets where a task stands. -/
def setTask (s : State) (t : Ticket) (task : Task) : State :=
  { s with tasks := s.tasks.insert t task }

/-- Ends a task. -/
def finish (s : State) (t : Ticket) (work : Work) (result : TaskResult) : State :=
  (s.setTask t ⟨work, .ended result⟩).note (.finished t result)

/-- Wakes a task that awaits something; any other task is left alone. -/
def wake (s : State) (t : Ticket) (w : Wake) : State :=
  match s.tasks.get? t with
  | some ⟨work, .suspended⟩ => (s.setTask t ⟨work, .woken w⟩).enqueue [.resume t]
  | _ => s

/-- Puts a pantry that came into its place in a preload, and wakes the task when all are there. The
job that tells of the last pantry wakes the task itself. Where a shield stands before each promise
and a gathering of them all before the task, the shield is told first and then tells the gathering,
which wakes the task: that is one turn of the loop more, and nothing else happens in it. -/
def collect (s : State) (t : Ticket) (slot : Nat) (pantry : Pantry) : State :=
  match s.tasks.get? t with
  | some ⟨.preload slots, .suspended⟩ =>
    let slots := slots.set slot (some pantry)
    let s := s.setTask t ⟨.preload slots, .suspended⟩
    if slots.all Option.isSome then s.wake t (.pantries (slots.filterMap id)) else s
  | _ => s

end State

end Larder
