import Larder.Proofs.Importer.Chain

/-!
# Larder — the discoveries of an importer by themselves

Sessions, tasks and most of the queue do not matter to the pantries: what is known of them and what
becomes of their discoveries depends on the cache, on the calls that are still to be made, and is
told by the part of the journal that is about discoveries. This part of a state is its *fleet*. A
fleet changes in seven ways, and a move of the importer is a chain of such changes; so a fact about
the pantries is checked on seven cases.

## Results

* `Move.fleet`: a move is a chain of steps of the fleet.
* `Moves.fleet`: so is a chain of moves.
-/

namespace Larder

-- ---------------------------------------------------------------------------
-- Vocabulary
-- ---------------------------------------------------------------------------

/-- Whether an event is about the course of a discovery. -/
def Event.isDiscovery : Event → Bool
  | .started _ => true
  | .called _ => true
  | .resolved .. => true
  | .failed .. => true
  | _ => false

theorem Event.isDiscovery_of_isRemark {e : Event} (h : e.isRemark = true) :
    e.isDiscovery = false := by
  cases e <;> simp_all [isRemark, isDiscovery]

/-- Whether a job makes the call of a discovery. -/
def Job.launches (i : FlightId) : Job → Bool
  | .launch j => j = i
  | _ => false

/-- The cache after a discovery of a name came back: what it learns, the slot, and the promise. -/
def Cache.land (c : Cache) (i : FlightId) (name : String) (returned : Returned) : Cache :=
  ((c.setStage i (.landed returned)).conclude name i (Larder.conclude name returned)).settle i
    (Settlement.ofResult (Larder.conclude name returned))

/-- The discoveries of an importer. -/
structure Fleet where
  /-- The slots of the names, and the discoveries. -/
  cache : Cache
  /-- How many jobs are to make the call of each discovery. -/
  launching : FlightId → Nat
  /-- What happened to discoveries, the newest first. -/
  log : List Event

namespace Fleet

/-- One change of a fleet. -/
inductive Step (env : Setup) (cancels : Prop) : Fleet → Fleet → Prop where
  | start {F name} (hNone : F.cache.get? name = none) (hFree : F.cache.joinable? name = none) :
      Step env cancels F
        ⟨F.cache.start env.searchPaths name,
          fun i => F.launching i + if F.cache.flights.length = i then 1 else 0,
          .started name :: F.log⟩
  | wait {F i ws w} (hWaiting : F.cache.promise? i = some (.waiting ws)) :
      Step env cancels F { F with cache := F.cache.setPromise i (.waiting (ws ++ [w])) }
  | cancel {F name i} (hCancels : cancels) (hSlot : F.cache.pending.get? name = some i) :
      Step env cancels F { F with cache := F.cache.settle i .cancelled }
  | launch {F i f} (hFlight : F.cache.flights[i]? = some f) (hJob : 0 < F.launching i) :
      Step env cancels F
        ⟨F.cache.setStage i .flying, fun j => F.launching j - if i = j then 1 else 0,
          .called f.call :: F.log⟩
  | comeBack {F i f landing} (hFlight : F.cache.flights[i]? = some f)
      (hFlying : f.stage = .flying) :
      Step env cancels F { F with cache := F.cache.setStage i (.landing landing) }
  | land {F i f returned} (hFlight : F.cache.flights[i]? = some f)
      (hUnderway : f.stage = .flying ∨ ∃ landing, f.stage = .landing landing) :
      Step env cancels F
        ⟨F.cache.land i f.call.name returned, F.launching,
          State.resultEvent f.call.name (conclude f.call.name returned) :: F.log⟩
  -- the call of a discovery that is not there: shown to be impossible later
  | drop {F i} (hNone : F.cache.flights[i]? = none) (hJob : 0 < F.launching i) :
      Step env cancels F { F with launching := fun j => F.launching j - if i = j then 1 else 0 }

/-- A chain of changes. -/
abbrev Steps (env : Setup) (cancels : Prop) : Fleet → Fleet → Prop :=
  Relation.ReflTransGen (Step env cancels)

end Fleet

namespace State

/-- The discoveries of an importer. -/
def fleet (s : State) : Fleet where
  cache := s.cache
  launching := fun i => s.queue.countP (Job.launches i)
  log := s.journal.filter Event.isDiscovery

variable {env : Setup} {cancels : Prop} {s s' : State}

-- ---------------------------------------------------------------------------
-- Changes that leave the fleet alone
-- ---------------------------------------------------------------------------

theorem fleet_note {e : Event} (h : e.isDiscovery = false) : (s.note e).fleet = s.fleet := by
  simp [fleet, h]

theorem fleet_enqueue {jobs : List Job} (h : ∀ i, jobs.countP (Job.launches i) = 0) :
    (s.enqueue jobs).fleet = s.fleet := by
  simp [fleet, h]

theorem fleet_pop {job : Job} {rest : List Job} (hQueue : s.queue = job :: rest)
    (hJob : ∀ i, job.launches i = false) : s.pop.fleet = s.fleet := by
  simp [fleet, hQueue, hJob]

theorem fleet_of_aside (h : Aside s s') : s'.fleet = s.fleet := by
  have hLog : s'.journal.filter Event.isDiscovery = s.journal.filter Event.isDiscovery :=
    filter_journal_of_aside (fun e he => by cases e <;> simp_all [Event.isAside, Event.isDiscovery]) h
  obtain ⟨hCache, _, ⟨ts, hQueue⟩, _⟩ := h
  have hJobs : ∀ i, (ts.map Job.resume).countP (Job.launches i) = 0 := by
    intro i
    simp [List.countP_map, Function.comp_def, Job.launches]
  simp [fleet, hCache, hQueue, hLog, hJobs]

theorem fleet_giveOnce (session : SessionId) (path : Path) (fresh : Outcome) :
    (s.giveOnce session path fresh).1.fleet = s.fleet := by
  simp [giveOnce, setEmission, fleet, Event.isDiscovery]

theorem fleet_complete (session : SessionId) (specifier : String) (citation : Citation)
    (settlement : Settlement) :
    (s.complete env session specifier citation settlement).1.fleet = s.fleet := by
  rcases complete_cases env s session specifier citation settlement with
    ⟨_, _, _, _, _, h⟩ | ⟨_, h⟩ | ⟨_, _, h⟩ <;> rw [h]
  · exact fleet_giveOnce _ _ _
  · exact fleet_note rfl

-- ---------------------------------------------------------------------------
-- Changes of the fleet
-- ---------------------------------------------------------------------------

theorem fleet_settle (i : FlightId) (settlement : Settlement) :
    (s.settle i settlement).fleet =
      { s.fleet with cache := s.cache.settle i settlement } := by
  rw [settle, fleet_enqueue]
  · rfl
  · intro j
    simp [List.countP_map, Function.comp_def, Job.launches]

theorem fleet_landWith (i : FlightId) (name : String) (landing : Landing) :
    (s.landWith i name landing).fleet =
      ⟨s.cache.land i name landing.returned, s.fleet.launching,
        resultEvent name (conclude name landing.returned) :: s.fleet.log⟩ := by
  have hResult : (resultEvent name (conclude name landing.returned)).isDiscovery = true := by
    cases conclude name landing.returned <;> rfl
  have hLog := filter_journal_landWith Event.isDiscovery (fun _ => rfl) s i name landing
  rw [List.filter_cons_of_pos hResult, List.filter_nil, List.singleton_append] at hLog
  have hJobs : ∀ j, (s.landWith i name landing).queue.countP (Job.launches j) =
      s.queue.countP (Job.launches j) := by
    intro j
    simp [landWith, settle, noteAll, List.countP_map, Function.comp_def, Job.launches]
  simp only [fleet, hLog, hJobs]
  rfl

theorem fleet_request (env : Setup) (s : State) (name : String) :
    Fleet.Steps env cancels s.fleet (s.request env name).1.fleet := by
  rcases request_cases env s name with ⟨p, _, h⟩ | ⟨i, _, _, h⟩ | ⟨hNone, hFree, h⟩ <;> rw [h]
  · show Fleet.Steps env cancels s.fleet (s.note (.joined name)).fleet
    rw [fleet_note rfl]
  · refine .single ?_
    have hEq : ((((s.withCache (s.cache.start env.searchPaths name)).note (.started name)).enqueue
        [.launch s.cache.flights.length]).fleet) =
        ⟨s.cache.start env.searchPaths name,
          fun i => s.fleet.launching i + if s.cache.flights.length = i then 1 else 0,
          .started name :: s.fleet.log⟩ := by
      simp [fleet, Event.isDiscovery, List.filter_cons, List.countP_cons, Job.launches]
    rw [hEq]
    exact .start hNone hFree

theorem fleet_attach (s : State) (handle : Handle) (w : Waiter) :
    Fleet.Steps env cancels s.fleet (s.attach handle w).fleet := by
  rcases attach_cases s handle w with ⟨_, h⟩ | ⟨i, ws, _, hWaiting, h⟩ | ⟨_, _, _, h⟩ <;> rw [h]
  · rw [fleet_enqueue fun _ => rfl]
  · exact .single (.wait hWaiting)

theorem fleet_defer (s : State) (session : SessionId) (specifier : String) (citation : Citation)
    (receiver : Receiver) :
    Fleet.Steps env cancels s.fleet (s.defer env session specifier citation receiver).fleet := by
  have hRequest : Fleet.Steps env cancels
      (s.note (.deferred receiver.ticket specifier citation.pantryName)).fleet _ :=
    fleet_request env _ citation.pantryName
  rw [fleet_note rfl] at hRequest
  exact hRequest.trans (fleet_attach _ _ _)

/-- A move is a chain of steps of the fleet. -/
theorem Move.fleet (h : Move env cancels s s') : Fleet.Steps env cancels s.fleet s'.fleet := by
  cases h with
  | remark hRemark =>
    rw [fleet_note (Event.isDiscovery_of_isRemark hRemark)]
  | number => exact .refl
  | give => rw [fleet_giveOnce]
  | request => exact fleet_request _ _ _
  | attach => exact fleet_attach _ _ _
  | defer => exact fleet_defer _ _ _ _ _
  | cancel hCancels hOffer =>
    rw [fleet_settle]
    exact .single (.cancel hCancels hOffer)
  | launch hQueue hFlight =>
    rename_i i rest f
    refine .single ?_
    have hJob : 0 < s.fleet.launching i := by
      simp [State.fleet, hQueue, List.countP_cons, Job.launches]
    have hEq : ((s.pop.withCache (s.cache.setStage i .flying)).note (.called f.call)).fleet =
        ⟨s.cache.setStage i .flying, fun j => s.fleet.launching j - if i = j then 1 else 0,
          .called f.call :: s.fleet.log⟩ := by
      simp [State.fleet, hQueue, Event.isDiscovery, List.filter_cons, List.countP_cons,
        Job.launches]
    rw [hEq]
    exact .launch hFlight hJob
  | landNow hFlight hFlying _ =>
    rw [fleet_landWith]
    exact .single (.land hFlight (Or.inl hFlying))
  | comeBack hFlight hFlying =>
    rw [fleet_enqueue fun _ => rfl]
    exact .single (.comeBack hFlight hFlying)
  | land hQueue hFlight hLanding =>
    rw [fleet_landWith, fleet_pop hQueue fun _ => rfl]
    exact .single (.land hFlight (Or.inr ⟨_, hLanding⟩))
  | deliver hQueue => rw [fleet_note rfl, fleet_complete, fleet_pop hQueue fun _ => rfl]
  | hand hQueue =>
    rw [fleet_of_aside (aside_handOver _ _), fleet_complete, fleet_pop hQueue fun _ => rfl]
  | tell hQueue hOther =>
    rw [fleet_of_aside (aside_notify hOther _), fleet_pop hQueue fun _ => rfl]
  | startTask => rw [fleet_of_aside (aside_startTask _)]
  | cancelTask => rw [fleet_of_aside (aside_cancelTask _)]
  | deferTask hQueue =>
    rename_i t _ _ _ session specifier citation _ _ _ _ _ _ _
    have hDefer : Fleet.Steps env cancels s.pop.fleet
        (s.pop.defer env session specifier citation (.task t)).fleet :=
      fleet_defer s.pop session specifier citation (.task t)
    rw [fleet_pop hQueue fun _ => rfl] at hDefer
    exact hDefer
  | park hQueue => rw [fleet_of_aside (aside_setTask _ _), fleet_pop hQueue fun _ => rfl]
  | finish hQueue => rw [fleet_of_aside (aside_finish _ _ _), fleet_pop hQueue fun _ => rfl]
  | skip hQueue hIdle =>
    rename_i job rest
    cases job with
    | launch i =>
      refine .single ?_
      have hJob : 0 < s.fleet.launching i := by
        simp [State.fleet, hQueue, List.countP_cons, Job.launches]
      have hEq : s.pop.fleet =
          { s.fleet with launching := fun j => s.fleet.launching j - if i = j then 1 else 0 } := by
        simp [State.fleet, hQueue, List.countP_cons, Job.launches]
      rw [hEq]
      exact .drop hIdle hJob
    | land i => rw [fleet_pop hQueue fun _ => rfl]
    | notify settlement w => rw [fleet_pop hQueue fun _ => rfl]
    | resume t => rw [fleet_pop hQueue fun _ => rfl]

/-- A chain of moves is a chain of steps of the fleet. -/
theorem Moves.fleet (h : Moves env cancels s s') : Fleet.Steps env cancels s.fleet s'.fleet := by
  induction h with
  | refl => exact .refl
  | tail _ hMove ih => exact ih.trans hMove.fleet

end State

end Larder
