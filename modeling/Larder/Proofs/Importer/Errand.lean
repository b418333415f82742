import Larder.Proofs.Importer.Later

/-!
# Larder — one import of a quiet importer

A compilation that has just begun imports an ingredient from an importer that has nothing to do. If
the pantry is not at hand, the import runs an errand: a discovery is scheduled, its call is made and
comes back at once or from outside, its end takes effect, and the import is told. At each of these
stages there is one discovery in flight and one import that waits for it, and at most one job in the
queue; so it is known what the next job does, and that a discovery call that comes back is this one
or has no effect.

## Results

* `errand_awaiting`: an import that is deferred sets out on an errand.
* `answersTo_at_once`: where the call is answered at once, the errand takes two jobs.
* `Errand.Progress.step`, `Errand.Progress.run`: an errand goes on whatever happens.
* `Errand.Progress.done_of_quiet`, `Errand.Progress.exists_rest`: it is done when the importer is
  quiet again, and it can always be brought to its end.
-/

namespace Larder

-- ---------------------------------------------------------------------------
-- Vocabulary
-- ---------------------------------------------------------------------------

/-- What a compilation that has just begun is given and hears for an ingredient whose pantry came to
a result. -/
def answerOf (cwd : Path) (order : Order) : Except Fault Pantry → Emission × List Outcome
  | .ok P => P.serve cwd (Emission.empty, []) order
  | .error fault => (Emission.empty, [.failure order.1 fault])

/-- Whether an action lets a job run, or ends a discovery call, which is answered so if it is the
given one. -/
def Action.Waits (i : FlightId) (landing : Landing) (a : Action) : Prop :=
  a = .tick ∨ ∃ j other, a = .release j other ∧ (j = i → other = landing)

/-- A deferred import with the discovery that it waits for. -/
structure Errand where
  specifier : String
  citation : Citation
  session : SessionId
  ticket : Ticket
  script : Script
  /-- The discovery. -/
  flight : FlightId
  call : Call
  /-- What the call is answered with. -/
  landing : Landing

namespace Errand

/-- The import as someone who waits. -/
def waiter (e : Errand) : Waiter :=
  .importing e.specifier e.citation e.session (.callback e.ticket e.script)

/-- What the import asks for. -/
def order (e : Errand) : Order := (e.specifier, e.citation.ingredientName)

/-- What the discovery comes to. -/
def result (e : Errand) : Except Fault Pantry := conclude e.call.name e.landing.returned

/-- Whether the discovery is at a stage, with these jobs left, and the import waits for it. -/
structure Awaiting (e : Errand) (stage : Stage) (jobs : List Job) (s : State) : Prop where
  queue : s.queue = jobs
  flight : s.cache.flights[e.flight]? = some ⟨e.call, stage, .waiting [e.waiter]⟩
  others : ∀ (j : FlightId) f, s.cache.flights[j]? = some f → j ≠ e.flight → f.live = false
  fresh : s.emission e.session = Emission.empty

/-- Whether the discovery has ended and the import is about to be told. -/
structure Coming (e : Errand) (s : State) : Prop where
  queue : s.queue = [.notify (.ofResult e.result) e.waiter]
  ended : ∀ f ∈ s.cache.flights, f.live = false
  fresh : s.emission e.session = Emission.empty
  found : ∀ P, e.result = .ok P → s.cache.get? e.call.name = some P

/-- Whether the compilation was answered and has heard this. -/
structure Done (e : Errand) (cwd : Path) (heard : List Outcome) (s : State) : Prop where
  quiet : s.Quiet
  answered : (s.emission e.session, heard) = answerOf cwd e.order e.result
  found : ∀ P, e.result = .ok P → s.cache.get? e.call.name = some P

/-- How far an errand has come, and what the compilation has heard by then. -/
inductive Progress (e : Errand) (cwd : Path) : List Outcome → State → Prop where
  | scheduled {s : State} (h : e.Awaiting .scheduled [.launch e.flight] s) : Progress e cwd [] s
  | flying {s : State} (h : e.Awaiting .flying [] s) : Progress e cwd [] s
  | landing {s : State} (h : e.Awaiting (.landing e.landing) [.land e.flight] s) :
      Progress e cwd [] s
  | coming {s : State} (h : e.Coming s) : Progress e cwd [] s
  | done {heard : List Outcome} {s : State} (h : e.Done cwd heard s) : Progress e cwd heard s

end Errand

namespace State

variable {env : Setup} {config : Config} {s s' : State} {e : Errand} {heard : List Outcome}

-- ---------------------------------------------------------------------------
-- Actions that change nothing
-- ---------------------------------------------------------------------------

theorem not_flying_of_ended {f : Flight} (h : f.live = false) : f.stage ≠ .flying := by
  intro hFlying
  simp [Flight.live, Flight.result?, hFlying] at h

/-- A discovery call that is not under way does not come back. -/
theorem release_of_not_flying {j : FlightId} (landing : Landing)
    (h : ∀ f, s.cache.flights[j]? = some f → f.stage ≠ .flying) :
    (s.act env (.release j landing)).1 = s := by
  simp only [State.act, State.release]
  split
  · rename_i hFlight
    exact absurd rfl (h _ hFlight)
  · rfl

theorem act_of_quiet (hQuiet : s.Quiet) {i : FlightId} {landing : Landing} {a : Action}
    (hWaits : a.Waits i landing) : (s.act env a).1 = s ∧ s.receptions env a = [] := by
  obtain ⟨hQueue, hEnded⟩ := hQuiet
  rcases hWaits with rfl | ⟨j, other, rfl, _⟩
  · exact ⟨tick_nil hQueue, by simp only [receptions, hQueue]⟩
  · refine ⟨release_of_not_flying other fun f hFlight => ?_, rfl⟩
    exact not_flying_of_ended (hEnded f (List.mem_of_getElem? hFlight))

/-- An import of a pantry that is not at hand starts a discovery, if none is in flight. -/
theorem request_of_quiet (env : Setup) (hSound : s.fleet.Sound) (hQuiet : s.Quiet) {name : String}
    (hNone : s.cache.get? name = none) : s.request env name =
      (((s.withCache (s.cache.start env.searchPaths name)).note (.started name)).enqueue
        [.launch s.cache.flights.length], .shared s.cache.flights.length) := by
  rcases request_cases env s name with ⟨p, hGet, _⟩ | ⟨i, _, hJoin, _⟩ | ⟨_, _, hStart⟩
  · exact absurd (hNone.symm.trans hGet) (by simp)
  · -- what is in the slot would be in flight
    obtain ⟨f, hServes, hLive⟩ := hSound.coherent.slot (pending_of_joinable hJoin)
    have hEnded := hQuiet.2 f (List.mem_of_getElem? hServes.1)
    exact absurd (hLive.symm.trans hEnded) (by decide)
  · exact hStart

end State

open State

variable {env : Setup} {config : Config} {cwd : Path} {s s' : State} {e : Errand}
  {heard : List Outcome} {a : Action}

namespace Errand

-- ---------------------------------------------------------------------------
-- From stage to stage
-- ---------------------------------------------------------------------------

/-- The discovery comes to another stage. -/
theorem Awaiting.advance {stage stage' : Stage} {jobs jobs' : List Job}
    (h : e.Awaiting stage jobs s) (hCache : s'.cache = s.cache.setStage e.flight stage')
    (hQueue : s'.queue = jobs') (hSessions : s'.sessions = s.sessions) :
    e.Awaiting stage' jobs' s' where
  queue := hQueue
  flight := by
    rw [hCache, Cache.setStage, Cache.getElem?_modifyFlight, h.flight]
    simp
  others := by
    intro j f hFlight hOther
    rw [hCache, Cache.setStage, Cache.getElem?_modifyFlight, Option.map_eq_some_iff] at hFlight
    obtain ⟨g, hOld, rfl⟩ := hFlight
    rw [if_neg (Ne.symm hOther)]
    exact h.others j g hOld hOther
  fresh := by
    rw [emission, hSessions]
    exact h.fresh

/-- The end of the discovery takes effect, and the import is about to be told. -/
theorem Awaiting.land {stage : Stage} (h : e.Awaiting stage [] s) :
    e.Coming (s.landWith e.flight e.call.name e.landing) where
  queue := by
    rw [queue_landWith h.flight, h.queue]
    rfl
  ended := by
    intro f hf
    obtain ⟨j, hFlight⟩ := List.mem_iff_getElem?.mp hf
    rw [cache_landWith, Cache.getElem?_land, Option.map_eq_some_iff] at hFlight
    obtain ⟨g, hOld, rfl⟩ := hFlight
    by_cases hThis : e.flight = j
    · rw [if_pos hThis, Flight.live, Flight.result?_settledWith]
      rfl
    · rw [if_neg hThis]
      exact h.others j g hOld (Ne.symm hThis)
  fresh := by
    rw [emission_of_given (given_landWith e.flight e.call.name e.landing)]
    exact h.fresh
  found := by
    intro P hResult
    have hConcluded : conclude e.call.name e.landing.returned = .ok P := hResult
    rw [cache_landWith, Cache.get?_land, hConcluded]
    simp

/-- The call is made. Its answer may come at once. -/
theorem Awaiting.launched (env : Setup) (h : e.Awaiting .scheduled [.launch e.flight] s) :
    s.receptions env .tick = [] ∧
      (env.collaborator e.flight e.call = none → e.Awaiting .flying [] (s.act env .tick).1) ∧
      (env.collaborator e.flight e.call = some e.landing → e.Coming (s.act env .tick).1) := by
  have hTick : (s.act env .tick).1 = s.pop.launch env e.flight := by
    simp [State.act, State.tick, perform, pop, h.queue]
  have hHeard : s.receptions env .tick = [] := by
    simp only [receptions, h.queue, jobReceptions]
  have hMade : e.Awaiting .flying []
      ((s.pop.withCache (s.cache.setStage e.flight .flying)).note (.called e.call)) :=
    h.advance rfl (by simp [h.queue]) rfl
  refine ⟨hHeard, fun hLater => ?_, fun hAtOnce => ?_⟩
  · rw [hTick, launch, cache_pop, h.flight]
    simp only [hLater]
    exact hMade
  · rw [hTick, launch, cache_pop, h.flight]
    simp only [hAtOnce]
    exact hMade.land

/-- The answer comes from outside. -/
theorem Awaiting.released (env : Setup) (h : e.Awaiting .flying [] s) :
    e.Awaiting (.landing e.landing) [.land e.flight]
      (s.act env (.release e.flight e.landing)).1 := by
  have hRelease : (s.act env (.release e.flight e.landing)).1 =
      (s.withCache (s.cache.setStage e.flight (.landing e.landing))).enqueue [.land e.flight] := by
    simp only [State.act, State.release, h.flight]
  rw [hRelease]
  exact h.advance rfl (by simp [h.queue]) rfl

theorem Awaiting.landed (env : Setup) (h : e.Awaiting (.landing e.landing) [.land e.flight] s) :
    s.receptions env .tick = [] ∧ e.Coming (s.act env .tick).1 := by
  have hTick : (s.act env .tick).1 = s.pop.land e.flight := by
    simp [State.act, State.tick, perform, pop, h.queue]
  have hHeard : s.receptions env .tick = [] := by
    simp only [receptions, h.queue, jobReceptions]
  have hPopped : e.Awaiting (.landing e.landing) [] s.pop :=
    ⟨by simp [h.queue], h.flight, h.others, h.fresh⟩
  refine ⟨hHeard, ?_⟩
  rw [hTick, State.land, hPopped.flight]
  exact hPopped.land

/-- The import is told, and its compilation is answered. -/
theorem Coming.told (env : Setup) (h : e.Coming s) (hIdle : e.script.isIdle = true) :
    e.Done env.cwd ((s.receptions env .tick).filterMap (Reception.forSession e.session))
      (s.act env .tick).1 := by
  have hTick : (s.act env .tick).1 = (((s.pop.complete env e.session e.specifier e.citation
      (.ofResult e.result)).1).note (.delivered e.ticket (s.pop.complete env e.session e.specifier
        e.citation (.ofResult e.result)).2)) := by
    simp [State.act, State.tick, perform, pop, h.queue, waiter, notify, deliver,
      (runScript_idle hIdle _ _).1]
  have hHeard : (s.receptions env .tick).filterMap (Reception.forSession e.session) =
      [(s.pop.complete env e.session e.specifier e.citation (.ofResult e.result)).2] := by
    simp only [receptions, h.queue, waiter, jobReceptions, (runScript_idle hIdle _ _).2]
    simp [Reception.forSession]
  have hFresh : s.pop.emission e.session = Emission.empty := h.fresh
  rw [hTick, hHeard]
  cases hResult : e.result with
  | error fault =>
    refine ⟨⟨by simp [Settlement.ofResult, complete, h.queue], h.ended⟩, ?_, fun P hP => ?_⟩
    · rw [hResult, answerOf, ← hFresh]
      rfl
    · rw [hResult] at hP
      exact absurd hP (by simp)
  | ok P =>
    obtain ⟨hCache, hQueue⟩ := resolveIn_keeps env s.pop e.session e.specifier P
      e.citation.ingredientName
    have hServe := serve_resolveIn env s.pop e.session e.specifier P e.citation.ingredientName []
    rw [hFresh] at hServe
    refine ⟨⟨?_, ?_⟩, ?_, fun Q hQ => ?_⟩
    · show (s.pop.resolveIn env e.session e.specifier P e.citation.ingredientName).1.queue = []
      rw [hQueue, queue_pop, h.queue]
      rfl
    · show ∀ f ∈ (s.pop.resolveIn env e.session e.specifier P
        e.citation.ingredientName).1.cache.flights, f.live = false
      rw [hCache]
      exact h.ended
    · rw [hResult, answerOf, order, hServe]
      rfl
    · show (s.pop.resolveIn env e.session e.specifier P
        e.citation.ingredientName).1.cache.get? e.call.name = some Q
      rw [hCache]
      exact h.found Q hQ

-- ---------------------------------------------------------------------------
-- Runs
-- ---------------------------------------------------------------------------

/-- As long as the discovery is not under way, no call comes back. -/
theorem Awaiting.release_keeps {stage : Stage} {jobs : List Job} (h : e.Awaiting stage jobs s)
    {j : FlightId} {landing : Landing} (hElse : j = e.flight → stage ≠ .flying) :
    (s.act env (.release j landing)).1 = s := by
  refine release_of_not_flying landing fun f hFlight => ?_
  by_cases hThis : j = e.flight
  · subst hThis
    obtain rfl := Option.some.inj (h.flight.symm.trans hFlight)
    exact hElse rfl
  · exact not_flying_of_ended (h.others j f hFlight hThis)

/-- **An errand goes on** whatever happens: what the compilation hears by an action belongs to
it. -/
theorem Progress.step (h : e.Progress env.cwd heard s) (hIdle : e.script.isIdle = true)
    (hAtOnce : ∀ landing, env.collaborator e.flight e.call = some landing → landing = e.landing)
    (hWaits : a.Waits e.flight e.landing) :
    e.Progress env.cwd
      (heard ++ (s.receptions env a).filterMap (Reception.forSession e.session))
      (s.act env a).1 := by
  -- a call that comes back tells nobody anything
  have hSilent : ∀ {s'}, s.receptions env a = [] → e.Progress env.cwd heard s' →
      e.Progress env.cwd
        (heard ++ (s.receptions env a).filterMap (Reception.forSession e.session)) s' := by
    intro s' hNothing hProgress
    rw [hNothing, List.filterMap_nil, List.append_nil]
    exact hProgress
  cases h with
  | done hDone =>
    obtain ⟨hSame, hNothing⟩ : (s.act env a).1 = s ∧ s.receptions env a = [] :=
      act_of_quiet hDone.quiet hWaits
    refine hSilent hNothing ?_
    rw [hSame]
    exact .done hDone
  | scheduled hAwaiting =>
    rcases hWaits with rfl | ⟨j, other, rfl, _⟩
    · obtain ⟨hNothing, hFlying, hComing⟩ := hAwaiting.launched env
      cases hAnswer : env.collaborator e.flight e.call with
      | none => exact hSilent hNothing (.flying (hFlying hAnswer))
      | some landing =>
        obtain rfl := hAtOnce landing hAnswer
        exact hSilent hNothing (.coming (hComing hAnswer))
    · refine hSilent rfl ?_
      rw [hAwaiting.release_keeps fun _ => by simp]
      exact .scheduled hAwaiting
  | flying hAwaiting =>
    rcases hWaits with rfl | ⟨j, other, rfl, hOther⟩
    · have hSame : (s.act env .tick).1 = s := tick_nil hAwaiting.queue
      refine hSilent (by simp only [receptions, hAwaiting.queue]) ?_
      rw [hSame]
      exact .flying hAwaiting
    · refine hSilent rfl ?_
      by_cases hThis : j = e.flight
      · rw [hThis, hOther hThis]
        exact .landing (hAwaiting.released env)
      · rw [hAwaiting.release_keeps fun hThat => absurd hThat hThis]
        exact .flying hAwaiting
  | landing hAwaiting =>
    rcases hWaits with rfl | ⟨j, other, rfl, _⟩
    · obtain ⟨hNothing, hComing⟩ := hAwaiting.landed env
      exact hSilent hNothing (.coming hComing)
    · refine hSilent rfl ?_
      rw [hAwaiting.release_keeps fun _ => by simp]
      exact .landing hAwaiting
  | coming hComing =>
    rcases hWaits with rfl | ⟨j, other, rfl, _⟩
    · exact .done (hComing.told env hIdle)
    · refine hSilent rfl ?_
      rw [release_of_not_flying other fun f hFlight =>
        not_flying_of_ended (hComing.ended f (List.mem_of_getElem? hFlight))]
      exact .coming hComing

theorem Progress.run (h : e.Progress env.cwd heard s) (hIdle : e.script.isIdle = true)
    (hAtOnce : ∀ landing, env.collaborator e.flight e.call = some landing → landing = e.landing)
    {rest : List Action} (hWaits : ∀ a ∈ rest, a.Waits e.flight e.landing) :
    e.Progress env.cwd (heard ++ answersTo env e.session rest s) (actAll env rest s).1 := by
  induction rest generalizing s heard with
  | nil => simpa [answersTo, allReceptions, actAll] using h
  | cons a rest ih =>
    obtain ⟨hFirst, hRest⟩ := List.forall_mem_cons.mp hWaits
    have hLater := ih (h.step hIdle hAtOnce hFirst) hRest
    rw [answersTo, allReceptions, List.filterMap_append, ← List.append_assoc]
    exact hLater

/-- When the importer is quiet again, the errand is done. -/
theorem Progress.done_of_quiet (h : e.Progress cwd heard s) (hQuiet : s.Quiet) :
    e.Done cwd heard s := by
  obtain ⟨hQueue, hEnded⟩ := hQuiet
  cases h with
  | scheduled hAwaiting => exact absurd (hAwaiting.queue.symm.trans hQueue) (by simp)
  | flying hAwaiting =>
    have hLive := hEnded _ (List.mem_of_getElem? hAwaiting.flight)
    exact absurd hLive (by simp [Flight.live, Flight.result?])
  | landing hAwaiting => exact absurd (hAwaiting.queue.symm.trans hQueue) (by simp)
  | coming hComing => exact absurd (hComing.queue.symm.trans hQueue) (by simp)
  | done hDone => exact hDone

/-- An errand can always be brought to its end. -/
theorem Progress.exists_rest (h : e.Progress env.cwd heard s) (hIdle : e.script.isIdle = true)
    (hAtOnce : ∀ landing, env.collaborator e.flight e.call = some landing → landing = e.landing) :
    ∃ rest, (∀ a ∈ rest, a.Waits e.flight e.landing) ∧ (actAll env rest s).1.Quiet := by
  have hGoOn : ∀ {s : State} (a : Action), a.Waits e.flight e.landing →
      (∃ rest, (∀ a ∈ rest, a.Waits e.flight e.landing) ∧
        (actAll env rest (s.act env a).1).1.Quiet) →
      ∃ rest, (∀ a ∈ rest, a.Waits e.flight e.landing) ∧ (actAll env rest s).1.Quiet := by
    rintro s a hWaits ⟨rest, hRest, hQuiet⟩
    exact ⟨a :: rest, List.forall_mem_cons.mpr ⟨hWaits, hRest⟩, hQuiet⟩
  have hComing : ∀ {s : State}, e.Coming s →
      ∃ rest, (∀ a ∈ rest, a.Waits e.flight e.landing) ∧ (actAll env rest s).1.Quiet := by
    intro s hComing
    exact hGoOn .tick (Or.inl rfl) ⟨[], by simp, (hComing.told env hIdle).quiet⟩
  have hLanding : ∀ {s : State}, e.Awaiting (.landing e.landing) [.land e.flight] s →
      ∃ rest, (∀ a ∈ rest, a.Waits e.flight e.landing) ∧ (actAll env rest s).1.Quiet := by
    intro s hAwaiting
    exact hGoOn .tick (Or.inl rfl) (hComing (hAwaiting.landed env).2)
  have hFlying : ∀ {s : State}, e.Awaiting .flying [] s →
      ∃ rest, (∀ a ∈ rest, a.Waits e.flight e.landing) ∧ (actAll env rest s).1.Quiet := by
    intro s hAwaiting
    exact hGoOn (.release e.flight e.landing) (Or.inr ⟨_, _, rfl, fun _ => rfl⟩)
      (hLanding (hAwaiting.released env))
  cases h with
  | scheduled hAwaiting =>
    refine hGoOn .tick (Or.inl rfl) ?_
    cases hAnswer : env.collaborator e.flight e.call with
    | none => exact hFlying ((hAwaiting.launched env).2.1 hAnswer)
    | some landing =>
      obtain rfl := hAtOnce landing hAnswer
      exact hComing ((hAwaiting.launched env).2.2 hAnswer)
  | flying hAwaiting => exact hFlying hAwaiting
  | landing hAwaiting => exact hLanding hAwaiting
  | coming hNext => exact hComing hNext
  | done hDone => exact ⟨[], by simp, hDone.quiet⟩

end Errand

-- ---------------------------------------------------------------------------
-- Setting out
-- ---------------------------------------------------------------------------

namespace State

/-- The errand of an import that is deferred now. -/
def errand (env : Setup) (s : State) (what : Import) (script : Script) (citation : Citation)
    (landing : Landing) : Errand where
  specifier := what.specifier.text
  citation := citation
  session := what.session
  ticket := s.tickets
  script := script
  flight := s.cache.flights.length
  call := ⟨citation.pantryName, s.cache.targetOf env.searchPaths citation.pantryName⟩
  landing := landing

/-- An import that is deferred sets out on an errand. -/
theorem errand_awaiting (hSound : s.fleet.Sound) (hQuiet : s.Quiet) (hRunning : env.running = true)
    {what : Import} {script : Script} {citation : Citation}
    (hClass : classify env.cwd what.specifier what.file = .ingredient citation)
    (hNone : s.cache.get? citation.pantryName = none)
    (hFresh : s.emission what.session = Emission.empty) (landing : Landing) :
    s.receptions env (.importing what script) = [] ∧
      (s.errand env what script citation landing).Awaiting .scheduled
        [.launch s.cache.flights.length] (s.act env (.importing what script)).1 := by
  obtain ⟨hNothing, hState⟩ := act_importing_deferred hRunning hClass hNone script
  refine ⟨hNothing, ?_⟩
  -- the promise of the new discovery is open, and the import is the only one to wait for it
  have hRequest := request_of_quiet env
    (s := s.note (.deferred s.tickets what.specifier.text citation.pantryName)) hSound hQuiet hNone
  have hOpen : (s.cache.start env.searchPaths citation.pantryName).promise?
      s.cache.flights.length = some (.waiting []) := by
    rw [Cache.promise?, Cache.getElem?_start, if_pos rfl]
    rfl
  have hCache : (s.act env (.importing what script)).1.cache =
      (s.cache.start env.searchPaths citation.pantryName).setPromise s.cache.flights.length
        (.waiting [(s.errand env what script citation landing).waiter]) := by
    rw [hState]
    simp only [defer, Receiver.ticket, hRequest, attach, cache_enqueue, cache_note,
      cache_withCache, hOpen]
    rfl
  have hJobs : (s.act env (.importing what script)).1.queue =
      [.launch s.cache.flights.length] := by
    rw [hState]
    simp only [defer, Receiver.ticket, hRequest, attach, cache_enqueue, cache_note,
      cache_withCache, hOpen]
    simp [hQuiet.1]
  refine ⟨hJobs, ?_, ?_, ?_⟩
  · rw [hCache, Cache.setPromise, Cache.getElem?_modifyFlight]
    show ((s.cache.start env.searchPaths citation.pantryName).flights[s.cache.flights.length]?).map
      _ = _
    rw [Cache.getElem?_start, if_pos rfl]
    simp [Cache.newFlight, errand]
  · intro j f hFlight hOther
    have hNe : s.cache.flights.length ≠ j := Ne.symm hOther
    rw [hCache, Cache.setPromise, Cache.getElem?_modifyFlight, Cache.getElem?_start, if_neg hNe,
      Option.map_eq_some_iff] at hFlight
    obtain ⟨g, hOld, rfl⟩ := hFlight
    rw [if_neg hNe]
    exact hQuiet.2 g (List.mem_of_getElem? hOld)
  · rw [hState]
    show (s.defer env what.session what.specifier.text citation
      (.callback s.tickets script)).emission what.session = _
    rw [emission_of_given (given_defer _ _ _ _), hFresh]

/-- An import whose call is answered at once is answered two jobs later. -/
theorem answersTo_at_once (hSound : s.fleet.Sound) (hQuiet : s.Quiet) (hRunning : env.running = true)
    {what : Import} {script : Script} {citation : Citation} {landing : Landing}
    (hClass : classify env.cwd what.specifier what.file = .ingredient citation)
    (hNone : s.cache.get? citation.pantryName = none)
    (hFresh : s.emission what.session = Emission.empty) (hIdle : script.isIdle = true)
    (hAtOnce : env.collaborator s.cache.flights.length
      ⟨citation.pantryName, s.cache.targetOf env.searchPaths citation.pantryName⟩ = some landing) :
    answersTo env what.session [.importing what script, .tick, .tick] s =
      (answerOf env.cwd (what.specifier.text, citation.ingredientName)
        (conclude citation.pantryName landing.returned)).2 := by
  obtain ⟨hDeferred, hAwaiting⟩ :=
    errand_awaiting hSound hQuiet hRunning hClass hNone hFresh landing
  obtain ⟨hMade, _, hComing⟩ := Errand.Awaiting.launched env hAwaiting
  have hDone := (hComing hAtOnce).told env hIdle
  rw [answersTo, allReceptions, allReceptions, allReceptions, allReceptions, hDeferred, hMade,
    List.nil_append, List.nil_append, List.append_nil]
  exact congrArg Prod.snd hDone.answered

/-- An import of a pantry at hand has nothing to wait for. -/
theorem errand_done (hQuiet : s.Quiet) {what : Import} {script : Script} {citation : Citation}
    (hClass : classify env.cwd what.specifier what.file = .ingredient citation) {P : Pantry}
    (hHand : s.cache.get? citation.pantryName = some P)
    (hFresh : s.emission what.session = Emission.empty) {landing : Landing}
    (hResult : (s.errand env what script citation landing).result = .ok P) :
    (s.errand env what script citation landing).Done env.cwd
      ((s.receptions env (.importing what script)).filterMap (Reception.forSession what.session))
      (s.act env (.importing what script)).1 := by
  have hCites : what.Cites env.cwd what.session citation.pantryName := ⟨rfl, citation, hClass, rfl⟩
  obtain ⟨hCache, hQueue, hServed⟩ := importing_at_hand hCites hHand script []
  have hOrder : what.order? env.cwd = some (what.specifier.text, citation.ingredientName) := by
    simp only [Import.order?, hClass]
  rw [hOrder, hFresh] at hServed
  refine ⟨⟨?_, ?_⟩, ?_, fun Q hQ => ?_⟩
  · exact hQueue.trans hQuiet.1
  · exact hCache ▸ hQuiet.2
  · rw [hResult, answerOf]
    exact hServed.symm
  · obtain rfl := Except.ok.inj (hResult.symm.trans hQ)
    show (s.act env (.importing what script)).1.cache.get? citation.pantryName = some P
    exact hCache ▸ hHand

end State

end Larder
