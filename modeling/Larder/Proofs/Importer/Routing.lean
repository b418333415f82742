import Larder.Proofs.Importer.Seeds
import Larder.Proofs.Importer.Versions

/-!
# Larder — where a pantry is looked for

The seeds say where a pantry is to be looked for: at its location if they give one, and else in the
search paths; one that they describe is not looked for at all. The cache forgets the location of a
name when the pantry is there, so a discovery that is started later could go astray. It does not,
because nothing but the end of a successful discovery makes a name resolved, and no discovery is
started for a resolved name: at all times the places that are kept are those of the location seeds
that are not resolved (`Fleet.Routed`), however often discoveries fail, are cancelled and started
again.

## Results

* `Fleet.Routed.step`: a step of the fleet keeps it.
* `Moves.routed`: so it holds in all runs.
* `calls_routed`: every call goes where the seeds say, and a location is kept until its pantry is
  there.
-/

namespace Larder

/-- Where the seeds say that a pantry is to be looked for, if it is to be looked for. -/
def Config.targetFor (config : Config) (name : String) : Option Target :=
  match config.pantries.get? name with
  | none => some (.search config.searchPaths)
  | some (.location path) => some (.location path)
  | some (.descriptor _) => none

namespace Fleet

variable {env : Setup} {cancels : Prop} {config : Config} {F F' : Fleet} {name : String}
  {path : Path}

/-- Whether a fleet goes where the seeds say, and keeps the places that are still to be gone to. -/
structure Routed (config : Config) (F : Fleet) : Prop where
  locations : F.cache.locations.entries =
    config.locations.filter fun entry => (F.cache.get? entry.1).isNone
  calls : ∀ f ∈ F.cache.flights, config.targetFor f.call.name = some f.call.target
  described : ∀ name P, config.pantries.get? name = some (.descriptor P) →
    (F.cache.get? name).isSome

/-- A place is kept exactly for the location seeds that are not resolved. -/
theorem Routed.location_iff (h : F.Routed config) :
    F.cache.locations.get? name = some path ↔
      config.pantries.get? name = some (.location path) ∧ F.cache.get? name = none := by
  rw [Registry.get?_eq_some_iff, h.locations, List.mem_filter, Config.mem_locations,
    Option.isNone_iff_eq_none]

/-- A discovery that is started goes where the seeds say. -/
theorem Routed.targetOf (h : F.Routed config) (hNone : F.cache.get? name = none) :
    config.targetFor name = some (F.cache.targetOf config.searchPaths name) := by
  unfold Config.targetFor
  cases hSeed : config.pantries.get? name with
  | none =>
    have hNoPlace : F.cache.locations.get? name = none := by
      rw [Option.eq_none_iff_forall_ne_some]
      intro path hPlace
      have hLocated := (h.location_iff.mp hPlace).1
      simp [hSeed] at hLocated
    simp only [Cache.targetOf, hNoPlace]
  | some seed =>
    cases seed with
    | descriptor P =>
      have hKnown := h.described name P hSeed
      simp [hNone] at hKnown
    | location path =>
      have hPlace : F.cache.locations.get? name = some path := h.location_iff.mpr ⟨hSeed, hNone⟩
      simp only [Cache.targetOf, hPlace]

/-- Where calls, places and pantries stay the same, nothing changes. -/
theorem Routed.congr (h : F.Routed config) (hLocations : F'.cache.locations = F.cache.locations)
    (hGet : ∀ name, F'.cache.get? name = F.cache.get? name)
    (hCalls : ∀ f' ∈ F'.cache.flights, ∃ f ∈ F.cache.flights, f'.call = f.call) :
    F'.Routed config where
  locations := by
    simp only [hLocations, hGet]
    exact h.locations
  calls := by
    intro f' hf'
    obtain ⟨f, hf, hCall⟩ := hCalls f' hf'
    rw [hCall]
    exact h.calls f hf
  described := fun name P hSeed => hGet name ▸ h.described name P hSeed

theorem calls_modify {flights : List Flight} {i : FlightId} {change : Flight → Flight}
    (hCall : ∀ f, (change f).call = f.call) :
    ∀ f' ∈ flights.modify i change, ∃ f ∈ flights, f'.call = f.call := by
  intro f' hf'
  obtain ⟨j, hj⟩ := List.mem_iff_getElem?.mp hf'
  rw [List.getElem?_modify, Option.map_eq_map, Option.map_eq_some_iff] at hj
  obtain ⟨f, hGet, rfl⟩ := hj
  refine ⟨f, List.mem_of_getElem? hGet, ?_⟩
  split
  · exact hCall f
  · rfl

theorem Routed.modify (h : F.Routed config) (i : FlightId) (change : Flight → Flight)
    (hCall : ∀ f, (change f).call = f.call) {launching : FlightId → Nat} {log : List Event} :
    Routed config ⟨F.cache.modifyFlight i change, launching, log⟩ :=
  h.congr rfl (fun _ => rfl) (calls_modify hCall)

theorem Routed.start (h : F.Routed config) (hNone : F.cache.get? name = none)
    {launching : FlightId → Nat} {log : List Event} :
    Routed config ⟨F.cache.start config.searchPaths name, launching, log⟩ where
  locations := h.locations
  calls := by
    intro f hf
    rcases List.mem_append.mp hf with hOld | hNew
    · exact h.calls f hOld
    · rw [List.mem_singleton.mp hNew]
      exact h.targetOf hNone
  described := h.described

theorem locations_release (c : Cache) (name : String) (i : FlightId) :
    (c.release name i).locations = c.locations := by
  unfold Cache.release
  split <;> rfl

/-- Only the end of a discovery that brings its pantry forgets a place. -/
theorem locations_land (c : Cache) (i : FlightId) (name : String) (returned : Returned) :
    (c.land i name returned).locations =
      match conclude name returned with
      | .ok _ => c.locations.erase name
      | .error _ => c.locations := by
  rw [Cache.land, Cache.settle_eq]
  cases conclude name returned <;>
    simp only [Cache.conclude, Cache.modifyFlight, Cache.setStage, locations_release]

theorem Routed.land (h : F.Routed config) {i : FlightId} {f : Flight}
    (hFlight : F.cache.flights[i]? = some f) (returned : Returned)
    {launching : FlightId → Nat} {log : List Event} :
    Routed config ⟨F.cache.land i f.call.name returned, launching, log⟩ where
  locations := by
    simp only [locations_land, Cache.get?_land]
    cases conclude f.call.name returned with
    | error fault => exact h.locations
    | ok P =>
      -- the one place that is struck out is the one of the name that is resolved now
      show (F.cache.locations.entries.filter _) = _
      rw [h.locations, List.filter_filter]
      congr 1
      funext entry
      by_cases hName : entry.1 = f.call.name <;> simp [hName]
  calls := by
    intro g hg
    obtain ⟨j, hj⟩ := List.mem_iff_getElem?.mp hg
    rcases Cache.serves_of_land ⟨hFlight, rfl⟩ ⟨hj, rfl⟩ with ⟨_, _, rfl⟩ | ⟨_, hServes⟩
    · rw [Flight.call_ended]
      exact h.calls f (List.mem_of_getElem? hFlight)
    · exact h.calls g (List.mem_of_getElem? hServes.1)
  described := fun name P hSeed => Cache.isSome_get?_land _ _ _ (h.described name P hSeed)

/-- A step goes where the seeds say. -/
theorem Routed.step (h : F.Routed config) (hPaths : env.searchPaths = config.searchPaths)
    (hStep : Step env cancels F F') : F'.Routed config := by
  cases hStep with
  | start hNone =>
    rw [hPaths]
    exact h.start hNone
  | @wait i ws w =>
    exact h.modify i (fun f => { f with promise := .waiting (ws ++ [w]) }) fun _ => rfl
  | cancel =>
    show Routed config ⟨F.cache.settle _ _, _, _⟩
    rw [Cache.settle_eq]
    exact h.modify _ _ fun f => Flight.call_settledWith f _
  | @launch i => exact h.modify i (fun f => { f with stage := .flying }) fun _ => rfl
  | @comeBack i f landing =>
    exact h.modify i (fun f => { f with stage := .landing landing }) fun _ => rfl
  | land hFlight => exact h.land hFlight _
  | drop => exact h.congr rfl (fun _ => rfl) fun f hf => ⟨f, hf, rfl⟩

end Fleet

namespace State

variable {env : Setup} {cancels : Prop} {config : Config} {s : State} {name : String}
  {path : Path}

theorem routed_seeded (config : Config) : (seeded config).fleet.Routed config where
  locations := by
    -- no location seed is resolved at the beginning
    have hOpen : ∀ entry ∈ config.locations, (Cache.get? (seeded config).cache entry.1).isNone := by
      rintro ⟨name, path⟩ hEntry
      have hSeed := Config.mem_locations.mp hEntry
      show ((Cache.ofSeeds config.pantries).get? name).isNone
      rw [get?_ofSeeds, hSeed]
      rfl
    exact (locations_ofSeeds config).trans (List.filter_eq_self.mpr hOpen).symm
  calls := by
    have hNone : (seeded config).fleet.cache.flights = [] :=
      (Cache.ofSeeds_empty config.pantries).2
    rw [hNone]
    simp
  described := by
    intro name P hSeed
    show ((Cache.ofSeeds config.pantries).get? name).isSome
    rw [get?_ofSeeds, hSeed]
    rfl

theorem Moves.routed (h : Moves env cancels (seeded config) s)
    (hPaths : env.searchPaths = config.searchPaths) : s.fleet.Routed config := by
  have hSteps : ∀ F, Fleet.Steps env cancels (seeded config).fleet F → F.Routed config := by
    intro F hSteps
    induction hSteps with
    | refl => exact routed_seeded config
    | tail _ hStep ih => exact ih.step hPaths hStep
  exact hSteps _ h.fleet

/-- The journal tells the call of every discovery that has made it, and no other. -/
theorem exists_flight_of_called (hSound : s.fleet.Sound) {call : Call}
    (hCalled : .called call ∈ s.journal) : ∃ f ∈ s.cache.flights, f.call = call := by
  have hLog : .called call ∈ s.fleet.log := List.mem_filter.mpr ⟨hCalled, rfl⟩
  obtain ⟨f, hf, hPast⟩ := List.mem_flatMap.mp (hSound.chronicle.mem_iff.mp hLog)
  refine ⟨f, hf, ?_⟩
  have hResult : ∀ name result, Event.called call ≠ resultEvent name result := by
    intro name result
    cases result <;> simp [resultEvent]
  unfold Flight.past at hPast
  split at hPast <;> simp_all

/-- A name that no seed describes is resolved when a discovery has brought its pantry. -/
theorem Moves.isSome_get?_iff (h : Moves env cancels (seeded config) s)
    (hSeed : ∀ P, config.pantries.get? name ≠ some (.descriptor P)) :
    (s.cache.get? name).isSome ↔ ∃ P, .resolved name P ∈ s.journal := by
  have hNone : (Cache.ofSeeds config.pantries).get? name = none := by
    rw [get?_ofSeeds]
    split
    · rename_i P hDescribed
      exact absurd hDescribed (hSeed P)
    · rfl
  have hEvent : ∀ P, P ∈ s.journal.filterMap (Event.versionOf name) ↔
      .resolved name P ∈ s.journal := by
    intro P
    rw [List.mem_filterMap]
    constructor
    · rintro ⟨e, he, hVersion⟩
      cases e <;> simp_all [Event.versionOf]
    · exact fun hMem => ⟨_, hMem, by simp [Event.versionOf]⟩
  rw [h.get?_eq_head, versions, hNone, Option.toList_none, List.append_nil, List.isSome_head?]
  constructor
  · intro hSome
    obtain ⟨P, hP⟩ := List.exists_mem_of_ne_nil _ hSome
    exact ⟨P, (hEvent P).mp hP⟩
  · rintro ⟨P, hP⟩
    exact List.ne_nil_of_mem ((hEvent P).mpr hP)

/-- **Every call goes where the seeds say.** In every state that a cache with its seeds can come to,
whether an importer prefetches or not: calls for a name that is known by location go there, calls
for a name without a seed go to the configured search paths, and a name whose descriptor is known
has no discovery at all. No name is resolved and has its place kept; the places that are kept are
those of the location seeds that are not resolved, in the order of the seeds. A location seed is
resolved, and its place forgotten, exactly when a discovery has brought the pantry. Whatever happens
next, a resolved name stays resolved. -/
theorem calls_routed (hPaths : env.searchPaths = config.searchPaths)
    (h : Moves env cancels (seeded config) s) :
    (∀ call, .called call ∈ s.journal → config.targetFor call.name = some call.target) ∧
    (∀ f ∈ s.cache.flights, config.targetFor f.call.name = some f.call.target) ∧
    (∀ name ∈ s.cache.locations.keys, name ∉ s.cache.resolved.keys) ∧
    s.cache.locations.entries =
      config.locations.filter (fun entry => (s.cache.get? entry.1).isNone) ∧
    (∀ name path, config.pantries.get? name = some (.location path) →
      (s.cache.locations.get? name = none ↔ (s.cache.get? name).isSome) ∧
      ((s.cache.get? name).isSome ↔ ∃ P, .resolved name P ∈ s.journal)) ∧
    ∀ more name, (s.cache.get? name).isSome →
      ((actAll env more s).1.cache.get? name).isSome := by
  have hRouted : s.fleet.Routed config := h.routed hPaths
  refine ⟨fun call hCalled => ?_, hRouted.calls, fun name hPlace hKnown => ?_, hRouted.locations,
    fun name path hSeed => ⟨?_, ?_⟩, fun more name hGet => ?_⟩
  · obtain ⟨f, hf, rfl⟩ := exists_flight_of_called h.sound hCalled
    exact hRouted.calls f hf
  · obtain ⟨path, hPath⟩ := Registry.mem_keys_iff.mp hPlace
    obtain ⟨P, hP⟩ := Registry.mem_keys_iff.mp hKnown
    have hNone : s.cache.resolved.get? name = none := (hRouted.location_iff.mp hPath).2
    simp [hNone] at hP
  · rw [Option.isSome_iff_ne_none]
    constructor
    · intro hForgotten hNone
      have hPath : s.cache.locations.get? name = some path :=
        hRouted.location_iff.mpr ⟨hSeed, hNone⟩
      simp [hForgotten] at hPath
    · intro hGet
      rw [Option.eq_none_iff_forall_ne_some]
      exact fun place hPlace => hGet (hRouted.location_iff.mp hPlace).2
  · exact h.isSome_get?_iff fun P hDescribed => by simp [hSeed] at hDescribed
  · have hLater : Moves env True s (actAll env more s).1 :=
      actAll_moves more (fun _ _ _ => trivial) s
    exact ((h.sound.stays hLater.fleet).2 hGet).1

/-- One pantry is known by location and one by its descriptor. -/
def mapped : Config where
  pantries := .ofList [("p", .location (.ofString "/p")),
    ("q", .descriptor ⟨none, none, .empty⟩)]
  searchPaths := []

/-- The first discovery of the pantry is cancelled and the second one fails; the third one is under
way when the first one brings the pantry. All three were to look at the location. -/
def detouring : State :=
  (actAll Setup.manual [.tick, .cancelRequest "p", .request "p", .tick, .tick,
    .release 1 ⟨[], .other "dict"⟩, .tick, .tick, .request "p", .request "q", .request "r", .tick,
    .tick, .tick, .release 0 ⟨[], .pantry ⟨none, none, .empty⟩⟩, .tick]
    (create Setup.manual mapped)).1

/-- So the place is forgotten only then; and a pantry without a seed is searched for. -/
theorem calls_routed_detouring :
    let place : Path := .ofString "/p"
    Setup.manual.searchPaths = mapped.searchPaths ∧ Reachable Setup.manual mapped detouring ∧
      detouring.cache.flights.map Flight.call = [⟨"p", .location place⟩, ⟨"p", .location place⟩,
        ⟨"p", .location place⟩, ⟨"r", .search []⟩] ∧
      (∀ call, .called call ∈ detouring.journal →
        mapped.targetFor call.name = some call.target) ∧
      detouring.cache.locations.get? "p" = none ∧ ∃ P, .resolved "p" P ∈ detouring.journal := by
  intro place
  have hReach : Reachable Setup.manual mapped detouring := .actAll _ .create
  obtain ⟨hCalls, _, _, _, hSeeds, _⟩ := calls_routed rfl hReach.moves
  obtain ⟨hPlace, hBrought⟩ := hSeeds "p" place rfl
  have hForgotten : detouring.cache.locations.get? "p" = none := rfl
  exact ⟨rfl, hReach, rfl, hCalls, hForgotten, hBrought.mp (hPlace.mp hForgotten)⟩

end State

end Larder
