import Larder.Proofs.Importer.Informed

/-!
# Larder — in which versions a pantry is used

Whoever is given a pantry by its name should be given the same one. Each discovery that brings a
pantry writes it to the slot of its name, and the journal tells all these *versions*; the slot
holds the last one. What is at hand, what a promise was kept with, and what a deferred import is
told, is always one of them.

A name has one version only, as long as no promise was cancelled. A cancelled discovery goes on,
and so does the one that follows it; when both bring a pantry, the later one overwrites the
earlier. When the older one brings the pantry and the newer one then fails, the promise of the
newer one is broken though the pantry is at hand.

## Results

* `Sound.mem_versions`: the versions are what the discoveries brought.
* `versions_agree`: two versions of a name differ only if a cancelled discovery and a newer one
  brought them.
* `agreement_unless_overwritten`: so do any two pantries that are used under one name.
-/

namespace Larder

-- ---------------------------------------------------------------------------
-- Vocabulary
-- ---------------------------------------------------------------------------

/-- The pantry that a discovery brought, under its registered name. -/
def Flight.brings (f : Flight) : Option Pantry :=
  match f.result? with
  | some (.pantry p) => some (p.named f.call.name)
  | _ => none

/-- The pantry that an event writes to the slot of a name. -/
def Event.versionOf (name : String) : Event → Option Pantry
  | .resolved n p => if n = name then some p else none
  | _ => none

/-- The pantries that discoveries wrote to the slot of a name, the newest first. -/
def Fleet.versions (F : Fleet) (name : String) : List Pantry :=
  F.log.filterMap (Event.versionOf name)

/-- Whether a discovery of a name has ended, and its promise came to this then. -/
def Cache.CameTo (c : Cache) (name : String) (x : Settlement) : Prop :=
  ∃ i f returned, c.Serves name i f ∧ f.result? = some returned ∧
    x = .ofResult (Larder.conclude name returned)

/-- The pantry that a deferred import waits for. -/
def Waiter.cited? : Waiter → Option String
  | .importing _ citation _ _ => some citation.pantryName
  | _ => none

namespace Flight

variable {f : Flight} {p : Pantry}

theorem brought_of_brings (h : f.brings = some p) : f.brought = true := by
  unfold brings at h
  unfold brought
  split at h <;> simp_all

/-- What a promise was kept with, its discovery brought. -/
theorem brings_of_kept (h : f.Consistent) (hKept : f.promise = .settled (.kept p)) :
    f.brings = some p := by
  unfold Consistent at h
  unfold brings
  split at h
  · exact absurd (h _ hKept) (by simp)
  · rename_i returned hResult
    rw [hKept] at h
    cases returned with
    | pantry q =>
      obtain rfl : p = q.named f.call.name := by simpa [conclude, Settlement.ofResult] using h
      rw [hResult]
    | other typeName => simp [conclude, Settlement.ofResult] at h
    | raised fault => cases fault <;> simp [conclude, Settlement.ofResult] at h

/-- The trail of a discovery tells of the version that it wrote. -/
theorem filterMap_past (name : String) (f : Flight) :
    f.past.filterMap (Event.versionOf name) =
      if f.call.name = name then f.brings.toList else [] := by
  unfold past brings result?
  cases f.stage with
  | scheduled => simp [Event.versionOf]
  | flying => simp [Event.versionOf]
  | landing _ => simp [Event.versionOf]
  | landed returned =>
    cases returned with
    | pantry p =>
      by_cases hName : f.call.name = name <;>
        simp [conclude, State.resultEvent, Event.versionOf, hName]
    | other typeName => simp [conclude, State.resultEvent, Event.versionOf]
    | raised fault => cases fault <;> simp [conclude, State.resultEvent, Event.versionOf]

end Flight

/-- A pantry is what a discovery of it came to, if the discovery brought it. -/
theorem Cache.cameTo_kept_iff {c : Cache} {name : String} {P : Pantry} :
    c.CameTo name (.kept P) ↔ ∃ i f, c.Serves name i f ∧ f.brings = some P := by
  constructor
  · rintro ⟨i, f, returned, hServes, hResult, hKept⟩
    refine ⟨i, f, hServes, ?_⟩
    cases returned with
    | pantry p =>
      rw [Settlement.kept.inj hKept, ← hServes.2]
      simp [Flight.brings, hResult]
    | other typeName => simp [Larder.conclude, Settlement.ofResult] at hKept
    | raised fault => cases fault <;> simp [Larder.conclude, Settlement.ofResult] at hKept
  · rintro ⟨i, f, hServes, hBrings⟩
    unfold Flight.brings at hBrings
    split at hBrings
    · rename_i p hResult
      refine ⟨i, f, .pantry p, hServes, hResult, ?_⟩
      rw [← Option.some.inj hBrings, hServes.2]
      rfl
    · exact absurd hBrings (by simp)

-- ---------------------------------------------------------------------------
-- Versions and discoveries
-- ---------------------------------------------------------------------------

namespace Fleet

variable {env : Setup} {cancels : Prop} {F F' : Fleet} {i : FlightId} {f : Flight} {name : String}

/-- The versions of a name are what its discoveries brought. -/
theorem Sound.mem_versions (h : F.Sound) {P : Pantry} :
    P ∈ F.versions name ↔ ∃ i f, F.cache.Serves name i f ∧ f.brings = some P := by
  have hTrail : ∀ f : Flight, P ∈ f.past.filterMap (Event.versionOf name) ↔
      f.call.name = name ∧ f.brings = some P := by
    intro f
    rw [Flight.filterMap_past]
    split <;> simp_all
  rw [versions, (h.chronicle.filterMap _).mem_iff, List.filterMap_flatMap, List.mem_flatMap]
  constructor
  · rintro ⟨f, hf, hPast⟩
    obtain ⟨hName, hBrings⟩ := (hTrail f).mp hPast
    obtain ⟨i, hi⟩ := List.mem_iff_getElem?.mp hf
    exact ⟨i, f, ⟨hi, hName⟩, hBrings⟩
  · rintro ⟨i, f, ⟨hFlight, hName⟩, hBrings⟩
    exact ⟨f, List.mem_of_getElem? hFlight, (hTrail f).mpr ⟨hName, hBrings⟩⟩

/-- What the journal says of the end of a discovery, a discovery came to. -/
theorem Sound.cameTo_of_event (h : F.Sound) {result : Except Fault Pantry}
    (hEvent : State.resultEvent name result ∈ F.log) :
    F.cache.CameTo name (.ofResult result) := by
  obtain ⟨f, hf, hPast⟩ := List.mem_flatMap.mp (h.chronicle.mem_iff.mp hEvent)
  obtain ⟨i, hFlight⟩ := List.mem_iff_getElem?.mp hf
  obtain ⟨returned, hResult, hSame⟩ : ∃ returned, f.result? = some returned ∧
      State.resultEvent name result =
        State.resultEvent f.call.name (conclude f.call.name returned) := by
    unfold Flight.past at hPast
    unfold Flight.result?
    cases hStage : f.stage with
    | landed returned =>
      refine ⟨returned, rfl, ?_⟩
      cases result <;> simpa [hStage, State.resultEvent] using hPast
    | _ => cases result <;> simp [hStage, State.resultEvent] at hPast
  cases hConclude : conclude f.call.name returned with
  | ok P =>
    cases result with
    | ok Q =>
      rw [hConclude] at hSame
      obtain ⟨hName, rfl⟩ := Event.resolved.inj hSame
      exact ⟨i, f, returned, ⟨hFlight, hName.symm⟩, hResult, by rw [hName, hConclude]⟩
    | error fault => simp [hConclude, State.resultEvent] at hSame
  | error fault =>
    cases result with
    | ok Q => simp [hConclude, State.resultEvent] at hSame
    | error fault' =>
      rw [hConclude] at hSame
      obtain ⟨hName, rfl⟩ := Event.failed.inj hSame
      exact ⟨i, f, returned, ⟨hFlight, hName.symm⟩, hResult, by rw [hName, hConclude]⟩

/-- A step leaves the versions of a name and its slot alone, or a discovery in flight brings a
pantry, which is then both the newest version and at hand. -/
theorem versions_step (hStep : Step env cancels F F') (name : String) :
    (F'.versions name = F.versions name ∧ F'.cache.get? name = F.cache.get? name) ∨
    ∃ P, F.cache.InFlight name ∧ F'.versions name = P :: F.versions name ∧
      F'.cache.get? name = some P := by
  cases hStep with
  | start => exact Or.inl ⟨rfl, rfl⟩
  | wait => exact Or.inl ⟨rfl, rfl⟩
  | cancel =>
    refine Or.inl ⟨rfl, ?_⟩
    show (Cache.settle _ _ _).get? name = _
    rw [Cache.settle_eq]
    rfl
  | launch => exact Or.inl ⟨rfl, rfl⟩
  | comeBack => exact Or.inl ⟨rfl, rfl⟩
  | @land i f returned hFlight hUnderway =>
    have hLive : f.live = true := by
      rcases hUnderway with hStage | ⟨_, hStage⟩ <;> simp [Flight.live, Flight.result?, hStage]
    cases hResult : conclude f.call.name returned with
    | error fault =>
      refine Or.inl ⟨?_, ?_⟩
      · simp [versions, State.resultEvent, List.filterMap_cons, Event.versionOf]
      · show (Cache.land _ _ _ _).get? name = _
        rw [Cache.get?_land, hResult]
    | ok P =>
      by_cases hName : f.call.name = name
      · refine Or.inr ⟨P, ⟨i, f, ⟨hFlight, hName⟩, hLive⟩, ?_, ?_⟩
        · simp [versions, State.resultEvent, Event.versionOf, hName]
        · show (Cache.land _ _ _ _).get? name = _
          rw [Cache.get?_land, hResult]
          exact if_pos hName.symm
      · refine Or.inl ⟨?_, ?_⟩
        · simp [versions, State.resultEvent, Event.versionOf, hName]
        · show (Cache.land _ _ _ _).get? name = _
          rw [Cache.get?_land, hResult]
          exact if_neg fun h => hName h.symm
  | drop => exact Or.inl ⟨rfl, rfl⟩

/-- Versions are never forgotten. -/
theorem versions_suffix (hSteps : Steps env cancels F F') (name : String) :
    F.versions name <:+ F'.versions name := by
  induction hSteps with
  | refl => exact List.suffix_refl _
  | tail _ hStep ih =>
    rcases versions_step hStep name with ⟨hSame, _⟩ | ⟨P, _, hMore, _⟩
    · rw [hSame]
      exact ih
    · rw [hMore]
      exact ih.trans (List.suffix_cons _ _)

/-- A step starts a discovery where nothing is at hand, or changes one discovery: not its call, and
not a cancelled promise. -/
theorem Step.flights_cases (hStep : Step env cancels F F') :
    (∃ other, F.cache.get? other = none ∧
      F'.cache.flights = F.cache.flights ++ [F.cache.newFlight env.searchPaths other]) ∨
    ∃ j change, F'.cache.flights = F.cache.flights.modify j change ∧
      ∀ f, F.cache.flights[j]? = some f →
        (change f).call = f.call ∧ (f.cancelled = true → (change f).cancelled = true) := by
  cases hStep with
  | start hNone => exact Or.inl ⟨_, hNone, rfl⟩
  | @wait j ws w hWaiting =>
    refine Or.inr ⟨j, _, rfl, fun f hFlight => ⟨rfl, fun hCancelled => ?_⟩⟩
    -- nobody waits for a cancelled promise
    rw [Cache.promise?, hFlight, Option.map_some] at hWaiting
    rw [Flight.cancelled_iff, Option.some.inj hWaiting] at hCancelled
    exact absurd hCancelled (by simp)
  | @cancel _ j =>
    refine Or.inr ⟨j, (·.settledWith .cancelled), ?_, fun f _ =>
      ⟨Flight.call_settledWith f _, Flight.cancelled_settledWith f⟩⟩
    exact congrArg Cache.flights (Cache.settle_eq _ _ _)
  | @launch j => exact Or.inr ⟨j, fun f => { f with stage := .flying }, rfl, fun _ _ => ⟨rfl, id⟩⟩
  | @comeBack j _ landing =>
    exact Or.inr ⟨j, fun f => { f with stage := .landing landing }, rfl, fun _ _ => ⟨rfl, id⟩⟩
  | @land j f returned hFlight =>
    have hKept : ∀ g : Flight, g.cancelled = true → (g.ended returned).cancelled = true :=
      fun g hCancelled => Flight.cancelled_settledWith _ hCancelled
    refine Or.inr ⟨j, (·.ended returned), ?_, fun g _ => ⟨Flight.call_ended g returned, hKept g⟩⟩
    apply List.ext_getElem?
    intro i
    show (Cache.land _ _ _ _).flights[i]? = _
    rw [Cache.getElem?_land, List.getElem?_modify]
    by_cases hji : j = i
    · subst hji
      simp [hFlight, Flight.ended]
    · simp [hji]
  | drop => exact Or.inr ⟨0, id, by simp, fun _ _ => ⟨rfl, id⟩⟩

/-- A discovery was there before, or it was started because nothing was at hand. -/
theorem serves_back (hStep : Step env cancels F F') (hServes : F'.cache.Serves name i f) :
    (∃ g, F.cache.Serves name i g) ∨ F.cache.get? name = none := by
  obtain ⟨hGet, hName⟩ := hServes
  rcases hStep.flights_cases with ⟨other, hNone, hFlights⟩ | ⟨j, change, hFlights, hChange⟩
  · rw [hFlights, List.getElem?_append] at hGet
    split at hGet
    · exact Or.inl ⟨f, hGet, hName⟩
    · obtain rfl := List.mem_singleton.mp (List.mem_of_getElem? hGet)
      obtain rfl : other = name := hName
      exact Or.inr hNone
  · rw [hFlights, List.getElem?_modify, Option.map_eq_map, Option.map_eq_some_iff] at hGet
    obtain ⟨g, hGet, rfl⟩ := hGet
    refine Or.inl ⟨g, hGet, ?_⟩
    split at hName
    · rename_i hji
      subst hji
      rw [← (hChange g hGet).1, hName]
    · exact hName

/-- So no discovery of a name is new while its pantry is at hand. -/
theorem serves_back_steps (hSteps : Steps env cancels F F') (hGet : (F.cache.get? name).isSome)
    (hServes : F'.cache.Serves name i f) : ∃ g, F.cache.Serves name i g := by
  induction hSteps using Relation.ReflTransGen.head_induction_on with
  | refl => exact ⟨f, hServes⟩
  | head hStep _ ih =>
    obtain ⟨g, hOld⟩ := ih (isSome_get?_step hStep hGet)
    rcases serves_back hStep hOld with hOlder | hNone
    · exact hOlder
    · simp [hNone] at hGet

/-- A cancelled promise stays cancelled. -/
theorem cancelled_stays (hStep : Step env cancels F F') (hFlight : F.cache.flights[i]? = some f)
    (hCancelled : f.cancelled = true) :
    ∃ g, F'.cache.flights[i]? = some g ∧ g.cancelled = true := by
  rcases hStep.flights_cases with ⟨other, _, hFlights⟩ | ⟨j, change, hFlights, hChange⟩
  · refine ⟨f, ?_, hCancelled⟩
    rw [hFlights, List.getElem?_append_left (List.getElem?_eq_some_iff.mp hFlight).1, hFlight]
  · refine ⟨if j = i then change f else f, ?_, ?_⟩
    · rw [hFlights, List.getElem?_modify, hFlight]
      split <;> rfl
    · split
      · rename_i hji
        subst hji
        exact (hChange f hFlight).2 hCancelled
      · exact hCancelled

theorem cancelled_stays_steps (hSteps : Steps env cancels F F')
    (hFlight : F.cache.flights[i]? = some f) (hCancelled : f.cancelled = true) :
    ∃ g, F'.cache.flights[i]? = some g ∧ g.cancelled = true := by
  induction hSteps with
  | refl => exact ⟨f, hFlight, hCancelled⟩
  | tail _ hStep ih =>
    obtain ⟨g, hGet, hCancelled'⟩ := ih
    exact cancelled_stays hStep hGet hCancelled'

/-- Once the pantry is at hand and no discovery of the name is in flight, that is its last
version. -/
theorem Sound.versions_final (h : F.Sound) (hSteps : Steps env cancels F F')
    (hGet : (F.cache.get? name).isSome) (hIdle : ¬ F.cache.InFlight name) :
    F'.versions name = F.versions name := by
  induction hSteps with
  | refl => rfl
  | tail hSteps hStep ih =>
    rcases versions_step hStep name with ⟨hSame, _⟩ | ⟨_, ⟨i, f, hServes, hLive⟩, _⟩
    · rw [hSame, ih]
    · -- the one that lands was there, and had not ended
      obtain ⟨g, hOld⟩ := serves_back_steps hSteps hGet hServes
      cases hEnded : g.live with
      | true => exact absurd ⟨i, g, hOld, hEnded⟩ hIdle
      | false =>
        have hStays := (h.stays hSteps).1 hOld.1 hEnded
        obtain rfl : g = f := Option.some.inj (hStays.symm.trans hServes.1)
        simp [hEnded] at hLive

end Fleet

namespace Cache

variable {c : Cache} {name : String} {P Q : Pantry}

/-- A discovery whose promise was cancelled brought one of two pantries, and a newer one the
other. -/
def Overwritten (c : Cache) (name : String) (P Q : Pantry) : Prop :=
  ∃ i j f g, c.Serves name i f ∧ c.Serves name j g ∧ i < j ∧ f.cancelled = true ∧
    ((f.brings = some P ∧ g.brings = some Q) ∨ (f.brings = some Q ∧ g.brings = some P))

theorem Coherent.cancelled_of_brings (h : c.Coherent) {i j : FlightId} {f g : Flight}
    (hServes : c.Serves name i f) (hServes' : c.Serves name j g) (hLt : i < j)
    (hBrings : f.brings = some P) : f.cancelled = true := by
  rcases h.replaced hServes hServes' hLt with hCancelled | hFailed
  · exact hCancelled
  · simp [Flight.not_failed_of_brought (Flight.brought_of_brings hBrings)] at hFailed

theorem Coherent.agree (h : c.Coherent) {i j : FlightId} {f g : Flight}
    (hServes : c.Serves name i f) (hServes' : c.Serves name j g) (hBrings : f.brings = some P)
    (hBrings' : g.brings = some Q) : P = Q ∨ c.Overwritten name P Q := by
  rcases Nat.lt_trichotomy i j with hLt | rfl | hGt
  · have hCancelled := h.cancelled_of_brings hServes hServes' hLt hBrings
    exact Or.inr ⟨i, j, f, g, hServes, hServes', hLt, hCancelled, Or.inl ⟨hBrings, hBrings'⟩⟩
  · obtain rfl : f = g := Option.some.inj (hServes.1.symm.trans hServes'.1)
    exact Or.inl (Option.some.inj (hBrings.symm.trans hBrings'))
  · have hCancelled := h.cancelled_of_brings hServes' hServes hGt hBrings'
    exact Or.inr ⟨j, i, g, f, hServes', hServes, hGt, hCancelled, Or.inr ⟨hBrings', hBrings⟩⟩

end Cache

-- ---------------------------------------------------------------------------
-- What deferred imports are told
-- ---------------------------------------------------------------------------

namespace State

variable {env : Setup} {cancels : Prop} {config : Config} {s s' : State}
  {V : String → Pantry → Prop}

/-- Deferred imports are told of versions of the pantries that they cite. -/
structure Posted (s : State) (V : String → Pantry → Prop) : Prop where
  -- they wait for a discovery of what they cite
  addressed : ∀ f ∈ s.cache.flights, ∀ w ∈ f.waiting, ∀ name, w.cited? = some name →
    f.call.name = name
  told : ∀ P w name, .notify (.kept P) w ∈ s.queue → w.cited? = some name → V name P

theorem posted_iff : s.Posted V ↔ s.Informed (fun w name => w.cited? = some name)
    fun name x => ∀ P, x = .kept P → V name P := by
  constructor
  · intro h
    refine ⟨h.addressed, fun x w name hJob hCited P hKept => ?_⟩
    exact h.told P w name (hKept ▸ hJob) hCited
  · exact fun h => ⟨h.addressed, fun P w name hJob hCited => h.told _ w name hJob hCited P rfl⟩

theorem Posted.frame_eq (h : s.Posted V) (hFlights : s'.cache.flights = s.cache.flights)
    (hQueue : ∀ x w, .notify x w ∈ s'.queue → .notify x w ∈ s.queue) : s'.Posted V :=
  posted_iff.mpr ((posted_iff.mp h).frame_eq hFlights hQueue)

theorem Posted.pop (h : s.Posted V) : s.pop.Posted V := posted_iff.mpr (posted_iff.mp h).pop

theorem Posted.request (h : s.Posted V) (name : String) : (s.request env name).1.Posted V :=
  posted_iff.mpr ((posted_iff.mp h).request name)

-- ---------------------------------------------------------------------------
-- Runs
-- ---------------------------------------------------------------------------

/-- All versions of a pantry: those that discoveries brought, the newest first, and before them the
one that was known beforehand. -/
def versions (s : State) (config : Config) (name : String) : List Pantry :=
  s.journal.filterMap (Event.versionOf name) ++
    ((Cache.ofSeeds config.pantries).get? name).toList

/-- Whether a pantry is used under a name: it is at hand, or a promise was kept with it, or a
deferred import is about to be told of it. -/
inductive Uses (s : State) (name : String) (P : Pantry) : Prop where
  | atHand (hGet : s.cache.get? name = some P)
  | kept {i f} (hServes : s.cache.Serves name i f) (hKept : f.promise = .settled (.kept P))
  | told {w} (hJob : .notify (.kept P) w ∈ s.queue) (hCited : w.cited? = some name)

variable {name : String} {P Q : Pantry}

theorem versions_eq (s : State) (config : Config) (name : String) :
    s.versions config name =
      s.fleet.versions name ++ ((Cache.ofSeeds config.pantries).get? name).toList := by
  have hLog : s.fleet.versions name = s.journal.filterMap (Event.versionOf name) := by
    rw [Fleet.versions, fleet, List.filterMap_filter]
    congr 1
    funext e
    cases e <;> rfl
  rw [versions, hLog]

/-- Versions are never forgotten. -/
theorem Moves.versions_suffix (h : Moves env cancels s s') (config : Config) (name : String) :
    s.versions config name <:+ s'.versions config name := by
  obtain ⟨later, hLater⟩ := Fleet.versions_suffix h.fleet name
  rw [versions_eq, versions_eq, ← hLater, List.append_assoc]
  exact List.suffix_append _ _

/-- The slot of a name holds its newest version. -/
theorem Moves.get?_eq_head (h : Moves env cancels (seeded config) s) (name : String) :
    s.cache.get? name = (s.versions config name).head? := by
  have hHead : ∀ F, Fleet.Steps env cancels (seeded config).fleet F → F.cache.get? name =
      (F.versions name ++ ((Cache.ofSeeds config.pantries).get? name).toList).head? := by
    intro F hSteps
    induction hSteps with
    | refl =>
      show (Cache.ofSeeds config.pantries).get? name = List.head? (Option.toList _)
      cases (Cache.ofSeeds config.pantries).get? name <;> rfl
    | tail _ hStep ih =>
      rcases Fleet.versions_step hStep name with ⟨hSame, hSlot⟩ | ⟨P, _, hMore, hSlot⟩
      · rw [hSlot, hSame, ih]
      · rw [hSlot, hMore]
        rfl
  rw [versions_eq]
  exact hHead _ h.fleet

/-- A pantry that was known beforehand is never looked for. -/
theorem Moves.not_serves_of_seed (h : Moves env cancels (seeded config) s)
    (hSeed : ((Cache.ofSeeds config.pantries).get? name).isSome) (i : FlightId) (f : Flight) :
    ¬ s.cache.Serves name i f := by
  intro hServes
  have hSteps : Fleet.Steps env cancels (seeded config).fleet s.fleet := h.fleet
  obtain ⟨g, hFlight, _⟩ := Fleet.serves_back_steps hSteps hSeed hServes
  have hNone : (seeded config).fleet.cache.flights = [] := (Cache.ofSeeds_empty config.pantries).2
  simp [hNone] at hFlight

theorem Moves.mem_versions (h : Moves env cancels (seeded config) s) :
    P ∈ s.versions config name ↔ (∃ i f, s.cache.Serves name i f ∧ f.brings = some P) ∨
      (Cache.ofSeeds config.pantries).get? name = some P := by
  rw [versions_eq, List.mem_append, h.sound.mem_versions, Option.mem_toList]
  rfl

/-- Two versions of a name differ only if a cancelled discovery and a newer one brought them. -/
theorem Moves.versions_agree (h : Moves env cancels (seeded config) s)
    (hP : P ∈ s.versions config name) (hQ : Q ∈ s.versions config name) :
    P = Q ∨ s.cache.Overwritten name P Q := by
  rcases h.mem_versions.mp hP with ⟨i, f, hServes, hBrings⟩ | hSeed
  · rcases h.mem_versions.mp hQ with ⟨j, g, hServes', hBrings'⟩ | hSeed
    · exact h.sound.coherent.agree hServes hServes' hBrings hBrings'
    · exact absurd hServes (h.not_serves_of_seed (by simp [hSeed]) i f)
  · rcases h.mem_versions.mp hQ with ⟨j, g, hServes', _⟩ | hSeed'
    · exact absurd hServes' (h.not_serves_of_seed (by simp [hSeed]) j g)
    · exact Or.inl (Option.some.inj (hSeed.symm.trans hSeed'))

/-- A version of a name is the one at hand, or a cancelled discovery and a newer one brought the
two. -/
theorem Moves.newest_of_version (h : Moves env cancels (seeded config) s)
    (hP : P ∈ s.versions config name) :
    ∃ Q, s.cache.get? name = some Q ∧ (P = Q ∨ s.cache.Overwritten name P Q) := by
  obtain ⟨Q, hNewest⟩ := Option.isSome_iff_exists.mp
    (List.isSome_head?.mpr (List.ne_nil_of_mem hP))
  exact ⟨Q, by rw [h.get?_eq_head, hNewest], h.versions_agree hP (List.mem_of_head? hNewest)⟩

theorem cameTo_of_moves {x : Settlement} (hSound : s.fleet.Sound) (h : Moves env cancels s s')
    (hCame : s.cache.CameTo name x) : s'.cache.CameTo name x := by
  obtain ⟨i, f, returned, hServes, hResult, hSettlement⟩ := hCame
  have hEnded : f.live = false := by simp [Flight.live, hResult]
  have hStays : s'.cache.flights[i]? = some f := (hSound.stays h.fleet).1 hServes.1 hEnded
  exact ⟨i, f, returned, ⟨hStays, hServes.2⟩, hResult, hSettlement⟩

/-- Whether a pantry came to something: it was known beforehand, or a discovery of it came to that;
and its promise may have been cancelled. -/
def Known (s : State) (config : Config) (name : String) (x : Settlement) : Prop :=
  x = .cancelled ∨ s.cache.CameTo name x ∨
    ∃ P, (Cache.ofSeeds config.pantries).get? name = some P ∧ x = .kept P

theorem known_of_moves {x : Settlement} (hSound : s.fleet.Sound) (h : Moves env cancels s s')
    (hKnown : s.Known config name x) : s'.Known config name x :=
  hKnown.imp_right (Or.imp_left (cameTo_of_moves hSound h))

/-- The pantries that a name came to are its versions. -/
theorem Moves.known_kept_iff (h : Moves env cancels (seeded config) s) :
    s.Known config name (.kept P) ↔ P ∈ s.versions config name := by
  rw [h.mem_versions, Known, Cache.cameTo_kept_iff]
  simp

/-- Those who need a pantry are told of what it came to. -/
theorem Move.informed_known {Cites : Waiter → String → Prop}
    (hMoves : Moves env cancels (seeded config) s) (hMove : Move env cancels s s')
    (h : s.Informed Cites (s.Known config))
    (hAdmitted : ∀ name w other, s.Admits name w → Cites w other → other = name)
    (hImport : ∀ specifier citation session receiver other,
      Cites (.importing specifier citation session receiver) other → other = citation.pantryName) :
    s'.Informed Cites (s'.Known config) := by
  have hGrow : ∀ name x, s.Known config name x → s'.Known config name x :=
    fun name x => known_of_moves hMoves.sound (.single hMove)
  refine hMove.informed hMoves.sound (h.mono hGrow) hAdmitted hImport (fun name P hGet => ?_)
    (fun _ => Or.inl rfl) fun name result hEvent => Or.inr (Or.inl ?_)
  · refine hGrow name _ (hMoves.known_kept_iff.mpr (List.mem_of_head? ?_))
    rw [← hMoves.get?_eq_head, hGet]
  · have hNext : Moves env cancels (seeded config) s' := hMoves.tail hMove
    refine hNext.sound.cameTo_of_event (List.mem_filter.mpr ⟨hEvent, ?_⟩)
    cases result <;> rfl

/-- So are deferred imports. -/
theorem Moves.informed (h : Moves env cancels (seeded config) s) :
    s.Informed (fun w name => w.cited? = some name) (s.Known config) := by
  induction h with
  | refl =>
    refine ⟨fun f hf => ?_, fun x w name hJob => absurd hJob (by simp [seeded])⟩
    have hNone : (seeded config).cache.flights = [] := (Cache.ofSeeds_empty config.pantries).2
    simp [hNone] at hf
  | tail hMoves hMove ih =>
    refine hMove.informed_known hMoves ih (fun name w other hAdmit hCited => ?_)
      fun _ _ _ _ _ hCited => (Option.some.inj hCited).symm
    -- whoever is admitted is no import
    cases w <;> simp_all [Waiter.cited?, Admits]

/-- Deferred imports are told of versions. -/
theorem Moves.posted (h : Moves env cancels (seeded config) s) :
    s.Posted fun name P => P ∈ s.versions config name where
  addressed := h.informed.addressed
  told := fun _ w name hJob hCited => h.known_kept_iff.mp (h.informed.told _ w name hJob hCited)

/-- Whatever is used under a name is a version of it. -/
theorem Moves.version_of_uses (h : Moves env cancels (seeded config) s) (hUses : s.Uses name P) :
    P ∈ s.versions config name := by
  cases hUses with
  | atHand hGet =>
    rw [h.get?_eq_head] at hGet
    exact List.mem_of_head? hGet
  | kept hServes hKept =>
    have hBrings := Flight.brings_of_kept (h.sound.coherent.consistent hServes.1) hKept
    exact h.mem_versions.mpr (Or.inl ⟨_, _, hServes, hBrings⟩)
  | told hJob hCited => exact h.posted.told P _ name hJob hCited

/-- A promise that is broken when the pantry is at hand was broken before, or its discovery had been
outrun by a cancelled one. -/
theorem broken_of_moves (hSound : s.fleet.Sound) (h : Moves env cancels s s')
    (hGet : s.cache.get? name ≠ none) {i : FlightId} {f : Flight} {fault : Fault}
    (hServes : s'.cache.Serves name i f) (hBroken : f.promise = .settled (.broken fault)) :
    s.cache.flights[i]? = some f ∨ s.cache.Outrun name := by
  have hKnown : (s.fleet.cache.get? name).isSome := Option.isSome_iff_ne_none.mpr hGet
  obtain ⟨g, hOld⟩ := Fleet.serves_back_steps h.fleet hKnown hServes
  cases hLive : g.live with
  | false =>
    have hStays := (hSound.stays h.fleet).1 hOld.1 hLive
    obtain rfl : g = f := Option.some.inj (hStays.symm.trans hServes.1)
    exact Or.inl hOld.1
  | true =>
    -- its promise cannot have been cancelled, so it was the newest, in the slot of a name at hand
    have hKept : g.cancelled = false := by
      rw [Bool.eq_false_iff]
      intro hCancelled
      obtain ⟨f', hGet', hCancelled'⟩ := Fleet.cancelled_stays_steps h.fleet hOld.1 hCancelled
      obtain rfl : f = f' := Option.some.inj (hServes.1.symm.trans hGet')
      rw [Flight.cancelled_iff, hBroken] at hCancelled'
      exact absurd hCancelled' (by simp)
    have hSlot := (hSound.coherent.tidy name).held i g hOld hLive hKept
    exact Or.inr (hSound.coherent.outrun_iff.mp ⟨hGet, Cache.isPending_iff.mpr ⟨i, hSlot⟩⟩)

/-- **A pantry that is at hand agrees with all versions used later, unless it was overwritten.** In
every run, from a state on in which a pantry is at hand: the name stays resolved; whatever is used
under it is a version of it; its versions are this one and those that were overwritten or that
overwrote it, by a discovery whose promise was cancelled; and a promise is broken only where such a
discovery had outrun the one in the slot. Without a discovery in flight the slot is not written any
more. -/
theorem agreement_unless_overwritten (h : Reachable env config s)
    (hGet : s.cache.get? name = some P) (more : List Action) :
    let s' := (actAll env more s).1
    s'.cache.get? name ≠ none ∧
    (∀ Q, s'.Uses name Q → Q ∈ s'.versions config name) ∧
    (∀ Q, Q ∈ s'.versions config name ↔ P = Q ∨ s'.cache.Overwritten name P Q) ∧
    (∀ i f fault, s'.cache.Serves name i f → f.promise = .settled (.broken fault) →
      s.cache.flights[i]? = some f ∨ s.cache.Outrun name) ∧
    (¬ s.cache.InFlight name → s'.cache.get? name = some P) := by
  intro s'
  have hRun : Moves env True (seeded config) s' := (h.actAll more).moves
  have hLater : Moves env True s s' := actAll_moves more (fun _ _ _ => trivial) s
  have hKnown : s.cache.get? name ≠ none := by simp [hGet]
  have hIsSome : (s.cache.get? name).isSome := by simp [hGet]
  have hVersion : P ∈ s'.versions config name :=
    (hLater.versions_suffix config name).subset (h.moves.version_of_uses (.atHand hGet))
  refine ⟨?_, fun Q hUses => hRun.version_of_uses hUses,
    fun Q => ⟨hRun.versions_agree hVersion, ?_⟩,
    fun i f fault => broken_of_moves h.sound hLater hKnown, fun hIdle => ?_⟩
  · exact Option.isSome_iff_ne_none.mp ((h.sound.stays hLater.fleet).2 hIsSome).1
  · rintro (rfl | ⟨i, j, f, g, hServes, hServes', _, _, hBrought⟩)
    · exact hVersion
    · rcases hBrought with ⟨_, hBrings⟩ | ⟨hBrings, _⟩
      · exact hRun.mem_versions.mpr (Or.inl ⟨j, g, hServes', hBrings⟩)
      · exact hRun.mem_versions.mpr (Or.inl ⟨i, f, hServes, hBrings⟩)
  · have hSame := h.sound.versions_final hLater.fleet hIsSome hIdle
    rw [hRun.get?_eq_head, versions_eq, hSame, ← versions_eq, ← h.moves.get?_eq_head, hGet]

/-- After the cancelled discovery has brought the pantry, the one in the slot brings another one. -/
def overwriting : List Action :=
  [.release 1 ⟨[], .pantry ⟨none, some (.ofString "/b"), .empty⟩⟩, .tick]

/-- So the slot is written twice, and the name changes its meaning. -/
theorem agreement_broken :
    let s' := (actAll Setup.manual overwriting outrunning).1
    Reachable Setup.manual Config.bare outrunning ∧ ∃ P Q, outrunning.cache.get? "p" = some P ∧
      s'.cache.get? "p" = some Q ∧ P ≠ Q ∧ s'.cache.Overwritten "p" P Q := by
  have h : Reachable Setup.manual Config.bare outrunning := .actAll _ .create
  have hGet : outrunning.cache.get? "p" = some ⟨some "p", none, .empty⟩ := rfl
  have hGet' : (actAll Setup.manual overwriting outrunning).1.cache.get? "p" =
    some ⟨some "p", some (.ofString "/b"), .empty⟩ := rfl
  obtain ⟨_, hUsed, hVersions, _⟩ := agreement_unless_overwritten h hGet overwriting
  have hNe : (⟨some "p", none, .empty⟩ : Pantry) ≠ ⟨some "p", some (.ofString "/b"), .empty⟩ := by
    intro hEq
    exact absurd (Pantry.mk.inj hEq).2.1 (by simp)
  refine ⟨h, _, _, hGet, hGet', hNe, ?_⟩
  rcases (hVersions _).mp (hUsed _ (.atHand hGet')) with hSame | hOverwritten
  · exact absurd hSame hNe
  · exact hOverwritten

end State

end Larder
