import Larder.Proofs.Importer.Chronicle

/-!
# Larder — one discovery at a time

As long as nobody cancels a promise, a name has at most one discovery in flight, and a discovery is
followed by another one only if it failed. So the books balance: of the discoveries of a name, all
have failed but the one that is in flight or that brought the pantry. Requests made while a
discovery is in flight are given its promise and change nothing; a request after a failure starts
over; a pantry at hand is never looked for again.

Tasks that are cancelled do not matter here: they wait for a promise and leave it alone.

## Results

* `single_flight`: all this, in every state of every run without cancelled promises.
-/

namespace Larder

-- ---------------------------------------------------------------------------
-- The newest discovery
-- ---------------------------------------------------------------------------

namespace Cache

variable {c : Cache} {name : String} {i j : FlightId} {f g : Flight}

theorem Coherent.failed_of_lt (h : c.Coherent) (hKept : c.Uncancelled) (hServes : c.Serves name i f)
    (hServes' : c.Serves name j g) (hLt : i < j) : f.failed = true := by
  rcases h.replaced hServes hServes' hLt with hCancelled | hFailed
  · simp [hKept i f hServes.1] at hCancelled
  · exact hFailed

/-- Of two discoveries that did not fail neither is the older one. -/
theorem Coherent.eq_of_not_failed (h : c.Coherent) (hKept : c.Uncancelled) (hServes : c.Serves name i f)
    (hServes' : c.Serves name j g) (hFailed : f.failed = false) (hFailed' : g.failed = false) :
    i = j := by
  rcases Nat.lt_trichotomy i j with hLt | hEq | hGt
  · simp [h.failed_of_lt hKept hServes hServes' hLt] at hFailed
  · exact hEq
  · simp [h.failed_of_lt hKept hServes' hServes hGt] at hFailed'

theorem Coherent.newest_of_not_failed (h : c.Coherent) (hKept : c.Uncancelled)
    (hServes : c.Serves name i f) (hFailed : f.failed = false) : c.Newest name i := by
  intro j g hServes'
  by_cases hLt : i < j
  · simp [h.failed_of_lt hKept hServes hServes' hLt] at hFailed
  · exact Nat.le_of_not_lt hLt

/-- A discovery in flight is the one that a request joins. -/
theorem Coherent.joinable_of_live (h : c.Coherent) (hKept : c.Uncancelled) (hServes : c.Serves name i f)
    (hLive : f.live = true) : c.get? name = none ∧ c.joinable? name = some i := by
  have hFailed := Flight.not_failed_of_live hLive
  have hSlot := h.held hServes hLive (h.newest_of_not_failed hKept hServes hFailed)
  constructor
  · -- whoever brought the pantry would be the one in flight
    rw [← Option.not_isSome_iff_eq_none]
    intro hGet
    rcases h.source hGet with ⟨j, g, hServes', hBrought⟩ | hNo
    · have hEq := h.eq_of_not_failed hKept hServes hServes' hFailed
        (Flight.not_failed_of_brought hBrought)
      subst hEq
      obtain rfl : f = g := Option.some.inj (hServes.1.symm.trans hServes'.1)
      simp [Flight.not_live_of_brought hBrought] at hLive
    · exact hNo i f hServes
  · unfold joinable?
    rw [hSlot]
    have hNot := hKept i f hServes.1
    obtain ⟨call, stage, promise⟩ := f
    simp only [promise?, hServes.1, Option.map_some]
    split
    · rename_i hPromise
      rw [Option.some.inj hPromise] at hNot
      exact absurd hNot (by simp [Flight.cancelled])
    · rfl

end Cache

-- ---------------------------------------------------------------------------
-- What the journal counts
-- ---------------------------------------------------------------------------

/-- Whether an event is the call of a discovery of a name. -/
def Event.isCallOf (name : String) : Event → Bool
  | .called call => call.name = name
  | _ => false

/-- Whether an event is the failure of a discovery of a name. -/
def Event.isFailureOf (name : String) : Event → Bool
  | .failed n _ => n = name
  | _ => false

namespace Flight

variable (name : String) (f : Flight)

/-- A trail holds one start. -/
theorem count_started_past :
    f.past.countP (· == .started name) = if decide (f.call.name = name) then 1 else 0 := by
  have hResult : ∀ result, (State.resultEvent f.call.name result == .started name) = false := by
    intro result
    cases result <;> rfl
  unfold past
  split <;> simp [List.countP_cons, hResult]

/-- It holds one call, if that has been made. -/
theorem count_call_past :
    f.past.countP (Event.isCallOf name) =
      if decide (f.call.name = name) && !f.isScheduled then 1 else 0 := by
  have hResult : ∀ result, Event.isCallOf name (State.resultEvent f.call.name result) = false := by
    intro result
    cases result <;> rfl
  unfold past isScheduled
  cases f.stage with
  | scheduled => simp [Event.isCallOf]
  | flying => simp [List.countP_cons, Event.isCallOf]
  | landing _ => simp [List.countP_cons, Event.isCallOf]
  | landed returned =>
    rw [List.countP_cons, hResult]
    simp [List.countP_cons, Event.isCallOf]

/-- It holds one failure, if the discovery failed. -/
theorem count_failure_past :
    f.past.countP (Event.isFailureOf name) =
      if decide (f.call.name = name) && f.failed then 1 else 0 := by
  unfold past failed live brought result?
  cases f.stage with
  | scheduled => simp [Event.isFailureOf]
  | flying => simp [Event.isFailureOf]
  | landing _ => simp [Event.isFailureOf]
  | landed returned =>
    cases returned with
    | pantry p => simp [conclude, State.resultEvent, Event.isFailureOf]
    | other typeName => simp [List.countP_cons, conclude, State.resultEvent, Event.isFailureOf]
    | raised fault =>
      cases fault <;> simp [List.countP_cons, conclude, State.resultEvent, Event.isFailureOf]

/-- A trail tells of a pantry if the discovery brought one. -/
theorem resolved_mem_past :
    (∃ p, Event.resolved name p ∈ f.past) ↔ f.call.name = name ∧ f.brought = true := by
  unfold past brought result?
  cases f.stage with
  | scheduled => simp
  | flying => simp
  | landing _ => simp
  | landed returned =>
    cases returned with
    | pantry p => simp [conclude, State.resultEvent, eq_comm]
    | other typeName => simp [conclude, State.resultEvent]
    | raised fault => cases fault <;> simp [conclude, State.resultEvent]

end Flight

theorem countP_flatMap_past {p : Event → Bool} {q : Flight → Bool}
    (h : ∀ f : Flight, f.past.countP p = if q f then 1 else 0) (flights : List Flight) :
    (flights.flatMap Flight.past).countP p = flights.countP q := by
  induction flights with
  | nil => rfl
  | cons f flights ih =>
    rw [List.flatMap_cons, List.countP_append, List.countP_cons, h, ih, Nat.add_comm]

/-- Where no two elements satisfy a property, it is counted once at most. -/
theorem countP_le_one {α : Type} {q : α → Bool} {l : List α}
    (h : ∀ (i j : Nat) (a b : α), l[i]? = some a → l[j]? = some b → i < j → q a = true → q b = false) :
    l.countP q ≤ 1 := by
  induction l with
  | nil => simp
  | cons a l ih =>
    have hRest : l.countP q ≤ 1 := ih fun i j b c hb hc hLt =>
      h (i + 1) (j + 1) b c hb hc (Nat.succ_lt_succ hLt)
    rw [List.countP_cons]
    split
    · rename_i ha
      have hNone : l.countP q = 0 := by
        rw [List.countP_eq_zero]
        intro b hb
        obtain ⟨j, hj⟩ := List.mem_iff_getElem?.mp hb
        simp [h 0 (j + 1) a b rfl hj (Nat.succ_pos j) ha]
      omega
    · omega

namespace State

/-- How often a discovery of a name was started. -/
def startsOf (s : State) (name : String) : Nat := s.journal.countP (· == .started name)

/-- How often the call of a discovery of a name was made. -/
def callsOf (s : State) (name : String) : Nat := s.journal.countP (Event.isCallOf name)

/-- How often a discovery of a name failed. -/
def failuresOf (s : State) (name : String) : Nat := s.journal.countP (Event.isFailureOf name)

/-- Whether a name was resolved by a discovery. -/
def Discovered (s : State) (name : String) : Prop := ∃ pantry, .resolved name pantry ∈ s.journal

variable {env : Setup} {config : Config} {s : State} {name : String}

/-- What the journal counts of discoveries can be counted on the discoveries. -/
theorem countP_journal (h : s.fleet.Sound) {p : Event → Bool} {q : Flight → Bool}
    (hDiscovery : ∀ e, p e = true → e.isDiscovery = true)
    (hPast : ∀ f : Flight, f.past.countP p = if q f then 1 else 0) :
    s.journal.countP p = s.cache.flights.countP q := by
  have hLog : s.fleet.log.countP p = s.journal.countP p := countP_filter_kind hDiscovery _
  rw [← hLog, h.chronicle.countP_eq p, countP_flatMap_past hPast]
  rfl

theorem startsOf_eq (h : s.fleet.Sound) :
    s.startsOf name = s.cache.flights.countP fun f => decide (f.call.name = name) :=
  countP_journal h (fun e he => by obtain rfl := eq_of_beq he; rfl) (Flight.count_started_past name)

theorem callsOf_eq (h : s.fleet.Sound) :
    s.callsOf name =
      s.cache.flights.countP fun f => decide (f.call.name = name) && !f.isScheduled :=
  countP_journal h (fun e he => by cases e <;> simp_all [Event.isCallOf, Event.isDiscovery])
    (Flight.count_call_past name)

theorem failuresOf_eq (h : s.fleet.Sound) :
    s.failuresOf name = s.cache.flights.countP fun f => decide (f.call.name = name) && f.failed :=
  countP_journal h (fun e he => by cases e <;> simp_all [Event.isFailureOf, Event.isDiscovery])
    (Flight.count_failure_past name)

theorem discovered_iff (h : s.fleet.Sound) :
    s.Discovered name ↔ ∃ i f, s.cache.Serves name i f ∧ f.brought = true := by
  have hLog : ∀ p, Event.resolved name p ∈ s.journal ↔
      ∃ f ∈ s.cache.flights, Event.resolved name p ∈ f.past := by
    intro p
    have hMem : Event.resolved name p ∈ s.fleet.log ↔ _ := h.chronicle.mem_iff
    rw [List.mem_flatMap] at hMem
    refine Iff.trans ?_ hMem
    simp [fleet, Event.isDiscovery]
  constructor
  · rintro ⟨p, hp⟩
    obtain ⟨f, hf, hPast⟩ := (hLog p).mp hp
    obtain ⟨i, hi⟩ := List.mem_iff_getElem?.mp hf
    obtain ⟨hName, hBrought⟩ := (Flight.resolved_mem_past name f).mp ⟨p, hPast⟩
    exact ⟨i, f, ⟨hi, hName⟩, hBrought⟩
  · rintro ⟨i, f, ⟨hi, hName⟩, hBrought⟩
    obtain ⟨p, hp⟩ := (Flight.resolved_mem_past name f).mpr ⟨hName, hBrought⟩
    exact ⟨p, (hLog p).mpr ⟨f, List.mem_of_getElem? hi, hp⟩⟩

/-- A discovery that did not fail is in flight or brought the pantry. -/
theorem exists_not_failed_iff (h : s.fleet.Sound) :
    (∃ i f, s.cache.Serves name i f ∧ f.failed = false) ↔
      s.cache.InFlight name ∨ s.Discovered name := by
  rw [discovered_iff h]
  constructor
  · rintro ⟨i, f, hServes, hFailed⟩
    rcases Flight.failed_eq_false_iff.mp hFailed with hLive | hBrought
    · exact Or.inl ⟨i, f, hServes, hLive⟩
    · exact Or.inr ⟨i, f, hServes, hBrought⟩
  · rintro (⟨i, f, hServes, hLive⟩ | ⟨i, f, hServes, hBrought⟩)
    · exact ⟨i, f, hServes, Flight.not_failed_of_live hLive⟩
    · exact ⟨i, f, hServes, Flight.not_failed_of_brought hBrought⟩

-- ---------------------------------------------------------------------------
-- The books of a name
-- ---------------------------------------------------------------------------

/-- What holds of a name as long as no promise was cancelled. -/
structure SingleFlight (env : Setup) (s : State) (name : String) : Prop where
  -- at most one discovery is in flight
  one : ∀ {i j f g}, s.cache.Serves name i f → s.cache.Serves name j g → f.live = true →
    g.live = true → i = j
  -- all have failed but the one that is in flight or that brought the pantry
  busy : s.cache.InFlight name ∨ s.Discovered name → s.startsOf name = s.failuresOf name + 1
  idle : ¬ s.cache.InFlight name → ¬ s.Discovered name → s.startsOf name = s.failuresOf name
  -- a start leads to one call, which may still be to come
  called : s.startsOf name = s.callsOf name +
    s.cache.flights.countP fun f => decide (f.call.name = name) && f.isScheduled
  -- a request is given the promise of the discovery in flight, and nothing is started
  joined : ∀ {i f}, s.cache.Serves name i f → f.live = true →
    s.request env name = (s.note (.joined name), .shared i)
  -- after failures alone it starts over
  again : s.cache.get? name = none → ¬ s.cache.InFlight name →
    (s.request env name).2 = .shared s.cache.flights.length ∧
      (s.request env name).1.startsOf name = s.startsOf name + 1

theorem startsOf_split (h : s.fleet.Sound) (name : String) :
    s.startsOf name = s.failuresOf name +
      s.cache.flights.countP fun f => decide (f.call.name = name) && !f.failed := by
  rw [startsOf_eq h, failuresOf_eq h, List.countP_eq_countP_filter_add _ _ Flight.failed,
    List.countP_filter, List.countP_filter]

theorem singleFlight_of_sound (h : s.fleet.Sound) (hKept : s.cache.Uncancelled) :
    SingleFlight env s name := by
  have hCoherent : s.cache.Coherent := h.coherent
  have hOne : (s.cache.flights.countP fun f => decide (f.call.name = name) && !f.failed) ≤ 1 := by
    refine countP_le_one fun i j f g hf hg hLt hOpen => ?_
    simp only [Bool.and_eq_true, decide_eq_true_eq, Bool.not_eq_true'] at hOpen
    by_cases hName : g.call.name = name
    · have hFailed := hCoherent.failed_of_lt hKept ⟨hf, hOpen.1⟩ ⟨hg, hName⟩ hLt
      simp [hOpen.2] at hFailed
    · simp [hName]
  constructor
  case one =>
    intro i j f g hServes hServes' hLive hLive'
    exact hCoherent.eq_of_not_failed hKept hServes hServes' (Flight.not_failed_of_live hLive)
      (Flight.not_failed_of_live hLive')
  case busy =>
    intro hBusy
    obtain ⟨i, f, hServes, hFailed⟩ := (exists_not_failed_iff h).mpr hBusy
    have hSome : 0 < s.cache.flights.countP fun f => decide (f.call.name = name) && !f.failed :=
      List.countP_pos_iff.mpr ⟨f, List.mem_of_getElem? hServes.1, by simp [hServes.2, hFailed]⟩
    rw [startsOf_split h]
    omega
  case idle =>
    intro hFree hNew
    have hNone : (s.cache.flights.countP fun f => decide (f.call.name = name) && !f.failed) = 0 := by
      rw [List.countP_eq_zero]
      intro f hf hOpen
      simp only [Bool.and_eq_true, decide_eq_true_eq, Bool.not_eq_true'] at hOpen
      obtain ⟨i, hi⟩ := List.mem_iff_getElem?.mp hf
      rcases (exists_not_failed_iff h).mp ⟨i, f, ⟨hi, hOpen.1⟩, hOpen.2⟩ with hFlight | hFound
      · exact hFree hFlight
      · exact hNew hFound
    rw [startsOf_split h, hNone, Nat.add_zero]
  case called =>
    rw [startsOf_eq h, callsOf_eq h, List.countP_eq_countP_filter_add _ _ Flight.isScheduled,
      List.countP_filter, List.countP_filter, Nat.add_comm]
  case joined =>
    intro i f hServes hLive
    obtain ⟨hNone, hJoin⟩ := hCoherent.joinable_of_live hKept hServes hLive
    rcases request_cases env s name with ⟨p, hGet, _⟩ | ⟨j, _, hJoin', h⟩ | ⟨_, hFree, _⟩
    · simp [hNone] at hGet
    · obtain rfl : i = j := Option.some.inj (hJoin.symm.trans hJoin')
      exact h
    · simp [hFree] at hJoin
  case again =>
    intro hNone hFree
    rcases request_cases env s name with ⟨p, hGet, _⟩ | ⟨j, _, hJoin, _⟩ | ⟨_, _, h⟩
    · simp [hNone] at hGet
    · obtain ⟨f, hServes, hLive⟩ := hCoherent.slot (pending_of_joinable hJoin)
      exact absurd ⟨j, f, hServes, hLive⟩ hFree
    · rw [h]
      refine ⟨rfl, ?_⟩
      simp [startsOf]

-- ---------------------------------------------------------------------------
-- Later states
-- ---------------------------------------------------------------------------

theorem startsOf_eq_log (s : State) (name : String) :
    s.startsOf name = s.fleet.log.count (.started name) :=
  (List.count_filter rfl).symm

/-- While a discovery is in flight no other one of its name is started. -/
theorem count_started_steps {F F' : Fleet} {i : FlightId} {f f' : Flight} (h : F.Sound)
    (hKept : F.cache.Uncancelled) (hSteps : Fleet.Steps env False F F')
    (hServes : F.cache.Serves name i f) (hServes' : F'.cache.Serves name i f')
    (hLive : f'.live = true) :
    F'.log.count (.started name) = F.log.count (.started name) := by
  induction hSteps generalizing f' with
  | refl => rfl
  | @tail G F' hSteps hStep ih =>
    have hSound : G.Sound := h.steps hSteps
    obtain ⟨g, hMid⟩ := Fleet.serves_steps hSteps hServes
    have hLive' : g.live = true := by
      rw [← Bool.not_eq_false]
      intro hEnded
      have hStays := hSound.ended_stays hStep hMid.1 hEnded
      obtain rfl : f' = g := Option.some.inj (hServes'.1.symm.trans hStays)
      simp [hEnded] at hLive
    have hJoin := (hSound.coherent.joinable_of_live (Fleet.uncancelled_steps hKept hSteps) hMid
      hLive').2
    rw [Fleet.count_started_step hStep (Or.inr (by simp [hJoin])), ih hMid hLive']

/-- What a discovery of a name comes to in a later state: as long as it is in flight no other one is
started and requests are given its promise, and when it has ended this promise says what came
back. -/
structure Shared (env : Setup) (s s' : State) (name : String) (i : FlightId) (f : Flight) :
    Prop where
  serves : s'.cache.Serves name i f
  alone : f.live = true → s'.startsOf name = s.startsOf name
  joined : f.live = true → s'.request env name = (s'.note (.joined name), .shared i)
  result : ∀ returned, f.result? = some returned →
    f.promise = .settled (.ofResult (Larder.conclude name returned))

theorem shared_of_moves {s' : State} {i : FlightId} {f : Flight}
    (hRun : Moves env False (seeded config) s) (hLater : Moves env False s s')
    (hServes : s.cache.Serves name i f) : ∃ f', Shared env s s' name i f' := by
  have hAll : Moves env False (seeded config) s' := hRun.trans hLater
  obtain ⟨f', hServes'⟩ := Fleet.serves_steps hLater.fleet hServes
  refine ⟨f', hServes', fun hLive => ?_, fun hLive => ?_, fun returned hResult => ?_⟩
  · rw [startsOf_eq_log, startsOf_eq_log]
    exact count_started_steps hRun.sound hRun.uncancelled hLater.fleet hServes hServes' hLive
  · exact (singleFlight_of_sound hAll.sound hAll.uncancelled).joined hServes' hLive
  · have hConsistent : f'.Consistent := hAll.sound.coherent.consistent hServes'.1
    unfold Flight.Consistent at hConsistent
    rw [hResult, hServes'.2] at hConsistent
    rcases hConsistent with hSettled | hCancelled
    · exact hSettled
    · have hNot := hAll.uncancelled i f' hServes'.1
      rw [Flight.cancelled_iff.mpr hCancelled] at hNot
      exact absurd hNot (by simp)

/-- A pantry that is at hand stays at hand, and is not looked for again. -/
theorem startsOf_of_resolved {cancels : Prop} {s' : State}
    (hRun : Moves env cancels (seeded config) s) (hLater : Moves env cancels s s')
    (hGet : s.cache.get? name ≠ none) :
    s'.cache.get? name ≠ none ∧ s'.startsOf name = s.startsOf name := by
  obtain ⟨hGet', hCount⟩ :=
    (hRun.sound.stays hLater.fleet).2 (Option.isSome_iff_ne_none.mpr hGet)
  rw [startsOf_eq_log, startsOf_eq_log]
  exact ⟨Option.isSome_iff_ne_none.mp hGet', hCount⟩

/-- **One discovery at a time.** In every state of a run without cancelled promises the books of
every name balance; a discovery is shared by all requests from its start to its end; and from the
time when the pantry is at hand no discovery of the name is started any more. -/
theorem single_flight (env : Setup) (config : Config) {actions : List Action}
    (hKept : ∀ a ∈ actions, a.cancels = false) (name : String) :
    let s := (actAll env actions (create env config)).1
    SingleFlight env s name ∧
    ∀ more : List Action, (∀ a ∈ more, a.cancels = false) →
      let s' := (actAll env more s).1
      (∀ i f, s.cache.Serves name i f → ∃ f', Shared env s s' name i f') ∧
      (s.cache.get? name ≠ none →
        s'.cache.get? name ≠ none ∧ s'.startsOf name = s.startsOf name) := by
  intro s
  have hRun : Moves env False (seeded config) s := (create_moves env config).trans
    (actAll_moves actions (fun a ha hCancels => by simp [hKept a ha] at hCancels) _)
  refine ⟨singleFlight_of_sound hRun.sound hRun.uncancelled, fun more hMore => ?_⟩
  intro s'
  have hLater : Moves env False s s' :=
    actAll_moves more (fun a ha hCancels => by simp [hMore a ha] at hCancels) _
  exact ⟨fun i f hServes => shared_of_moves hRun hLater hServes,
    fun hGet => startsOf_of_resolved hRun hLater hGet⟩

/-- Two requests share a discovery, which fails; a third request starts another one. -/
def retrying : List Action :=
  [.request "p", .request "p", .tick, .release 0 ⟨[], .other "dict"⟩, .tick, .request "p"]

/-- So there have been two starts and one failure. -/
theorem single_flight_retrying :
    let s := (actAll Setup.manual retrying (create Setup.manual Config.bare)).1
    (∀ a ∈ retrying, a.cancels = false) ∧ SingleFlight Setup.manual s "p" ∧
      s.startsOf "p" = 2 ∧ s.failuresOf "p" = 1 :=
  have hKept : ∀ a ∈ retrying, a.cancels = false := by decide
  ⟨hKept, (single_flight Setup.manual Config.bare hKept "p").1, rfl, rfl⟩

end State

end Larder
