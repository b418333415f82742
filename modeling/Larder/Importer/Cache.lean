import Larder.Importer.Types

/-!
# Larder — the pantry cache

The cache knows of each pantry name whether the pantry is resolved, whether a discovery of it is
pending, and whether a place to load it from is given. A discovery is started for a name that is
neither resolved nor pending; later requests join it. A promise may be cancelled: its discovery
goes on, but the next request for the name starts another one, and a discovery frees only the slot
that still holds its own promise.

## Results

* `pending_start`: a discovery that is started takes the slot of its name.
-/

namespace Larder

/-- What is known of each pantry name, and all discoveries so far. -/
structure Cache where
  /-- The resolved pantries, in the order of their first resolution. -/
  resolved : Registry String Pantry := {}
  /-- The discovery in the slot of each pending name. -/
  pending : Registry String FlightId := {}
  /-- Where to load the names from that are known by location. -/
  locations : Registry String Path := {}
  /-- All discoveries, in the order of their starts. -/
  flights : List Flight := []

/-- What a request came to. -/
inductive Requested where
  | ready (pantry : Pantry)
  | joined (flight : FlightId)
  | started (flight : FlightId)
  deriving DecidableEq, Repr

namespace Cache

/-- The cache that knows the seeds of a configuration. -/
def ofSeeds (seeds : Registry String Seed) : Cache :=
  seeds.entries.foldl (fun c s =>
    match s.2 with
    | .descriptor pantry => { c with resolved := c.resolved.insert s.1 (pantry.named s.1) }
    | .location path => { c with locations := c.locations.insert s.1 path }) {}

/-- The resolved pantry of a name. -/
def get? (c : Cache) (name : String) : Option Pantry := c.resolved.get? name

/-- Whether a discovery is in the slot of a name. -/
def isPending (c : Cache) (name : String) : Bool := c.pending.contains name

/-- The promise of a discovery. -/
def promise? (c : Cache) (i : FlightId) : Option Promise := (c.flights[i]?).map Flight.promise

/-- The discovery in the slot of a name, if its promise was not cancelled. -/
def joinable? (c : Cache) (name : String) : Option FlightId :=
  match c.pending.get? name with
  | none => none
  | some i =>
    match c.promise? i with
    | some (.settled .cancelled) => none
    | _ => some i

/-- Where a discovery of a name has to look. -/
def targetOf (c : Cache) (searchPaths : List Path) (name : String) : Target :=
  match c.locations.get? name with
  | some path => .location path
  | none => .search searchPaths

/-- A discovery as it is when it is started. -/
def newFlight (c : Cache) (searchPaths : List Path) (name : String) : Flight where
  call := ⟨name, c.targetOf searchPaths name⟩
  stage := .scheduled
  promise := .waiting []

/-- The cache with a new discovery in the slot of a name. -/
def start (c : Cache) (searchPaths : List Path) (name : String) : Cache :=
  { c with
    pending := c.pending.insert name c.flights.length
    flights := c.flights ++ [c.newFlight searchPaths name] }

/-- A request for a pantry: the resolved one, else the discovery under way, else a new one. -/
def request (c : Cache) (searchPaths : List Path) (name : String) : Cache × Requested :=
  match c.get? name with
  | some pantry => (c, .ready pantry)
  | none =>
    match c.joinable? name with
    | some i => (c, .joined i)
    | none => (c.start searchPaths name, .started c.flights.length)

/-- The cache with one discovery changed. -/
def modifyFlight (c : Cache) (i : FlightId) (f : Flight → Flight) : Cache :=
  { c with flights := c.flights.modify i f }

/-- The cache with one discovery at another stage. -/
def setStage (c : Cache) (i : FlightId) (stage : Stage) : Cache :=
  c.modifyFlight i fun f => { f with stage := stage }

/-- The cache with one promise changed. -/
def setPromise (c : Cache) (i : FlightId) (promise : Promise) : Cache :=
  c.modifyFlight i fun f => { f with promise := promise }

/-- The cache with the slot of a name freed, if it still holds this discovery. -/
def release (c : Cache) (name : String) (i : FlightId) : Cache :=
  if c.pending.get? name = some i then { c with pending := c.pending.erase name } else c

/-- The cache after a discovery of a name came to a result; its promise is left as it is. -/
def conclude (c : Cache) (name : String) (i : FlightId) : Except Fault Pantry → Cache
  | .ok pantry =>
    { c with
      resolved := c.resolved.insert name pantry
      locations := c.locations.erase name }.release name i
  | .error _ => c.release name i

/-- Those who wait for a promise. -/
def waiters (c : Cache) (i : FlightId) : List Waiter :=
  match c.promise? i with
  | some (.waiting ws) => ws
  | _ => []

/-- The cache with a promise settled, unless it is settled already. -/
def settle (c : Cache) (i : FlightId) (settlement : Settlement) : Cache :=
  match c.promise? i with
  | some (.waiting _) => c.setPromise i (.settled settlement)
  | _ => c

/-- A discovery that is started takes the slot of its name. -/
theorem pending_start (c : Cache) (searchPaths : List Path) (name : String) :
    (c.start searchPaths name).pending.get? name = some c.flights.length := by
  simp [start]

end Cache

end Larder
