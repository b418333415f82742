import Larder.Proofs.Importer.Later
import Larder.Proofs.Importer.Losses
import Larder.Proofs.Importer.Pledge
import Larder.Proofs.Importer.Routing

/-!
# Larder — while pantries are loaded

The loop runs its jobs, and discoveries come back when they do: this is all that happens while
pantries are loaded and nobody does anything else. It concerns those who wait for a pantry, except
for prefetches, which wait but only take note.

So in an importer with one task there are three things that may happen next. A discovery goes on or
a prefetch takes note, and the task and everyone who calls for a pantry are left as they are; or a
caller is told; or it is the task's turn. In which order these come is up to the discoveries. But
when what comes back for a name is always the same, then whoever is told of the name is told the
same.

## Results

* `load_cases`: what can happen next.
* `Moves.told_eq`: everyone is told the same of a name.
* `resolveAll_moves`: imports that are resolved with the pantries being loaded are resolved by
  moves.
-/

namespace Larder

-- ---------------------------------------------------------------------------
-- Vocabulary
-- ---------------------------------------------------------------------------

/-- Whether an action is part of loading pantries: the loop runs a job, or a call comes back. -/
def Action.isLoad : Action → Bool
  | .tick => true
  | .release .. => true
  | _ => false

/-- Whether a waiter is a prefetch. -/
def Waiter.isPrefetch : Waiter → Bool
  | .prefetcher => true
  | _ => false

/-- What a pantry comes to, given what looking for it comes back with: one that the configuration
describes is not looked for. -/
def Config.comesTo (config : Config) (result : String → Returned) (name : String) :
    Except Fault Pantry :=
  match config.pantries.get? name with
  | some (.descriptor pantry) => .ok (pantry.named name)
  | _ => conclude name (result name)

namespace State

variable {env : Setup} {cancels : Prop} {config : Config} {s s' s'' : State} {t : Ticket}

/-- Those who wait and are no prefetches. -/
def callers (s : State) : List Waiter := s.waiting.filter fun w => !w.isPrefetch

/-- Whether at most a discovery went on between two states, or a prefetch took note. -/
structure Still (s s' : State) : Prop where
  tasks : s'.tasks = s.tasks
  given : s'.given = s.given
  callers : s.callers.Perm s'.callers
  flights : s'.cache.flights.length = s.cache.flights.length

/-- Whether everything that came back for a name is what a function says of it. -/
def Fixed (s : State) (result : String → Returned) : Prop :=
  ∀ f ∈ s.cache.flights, ∀ returned, f.result? = some returned → returned = result f.call.name

instance (s : State) (result : String → Returned) : Decidable (s.Fixed result) :=
  inferInstanceAs
    (Decidable (∀ f ∈ s.cache.flights, ∀ returned ∈ f.result?, returned = result f.call.name))

theorem Action.not_cancels_of_isLoad {a : Action} (h : a.isLoad = true) : a.cancels = false := by
  cases a <;> simp_all [Action.isLoad, Action.cancels]

-- ---------------------------------------------------------------------------
-- What leaves callers alone
-- ---------------------------------------------------------------------------

theorem callers_of_waiting (h : s.waiting.Perm s'.waiting) : s.callers.Perm s'.callers :=
  h.filter _

/-- A prefetch leaves the queue. -/
theorem callers_pop {job : Job} {rest : List Job} (hQueue : s.queue = job :: rest)
    (hOnly : ∀ w ∈ job.waiting, w.isPrefetch = true) : s.callers.Perm s.pop.callers := by
  have hNone : (job.waiting.filter fun w => !w.isPrefetch) = [] := by
    rw [List.filter_eq_nil_iff]
    intro w hw
    simp [hOnly w hw]
  have hAll := (waiting_pop hQueue).filter fun w => !w.isPrefetch
  rwa [List.filter_append, hNone, List.nil_append] at hAll

/-- A caller leaves it. -/
theorem callers_pop_caller {x : Settlement} {w : Waiter} {rest : List Job}
    (hQueue : s.queue = .notify x w :: rest) (hCalls : w.isPrefetch = false) :
    s.callers.Perm (w :: s.pop.callers) := by
  have hAll := (waiting_pop hQueue).filter fun w => !w.isPrefetch
  rwa [List.filter_append, Job.waiting, List.filter_cons_of_pos (by simp [hCalls])] at hAll

namespace Still

theorem refl (s : State) : Still s s := ⟨rfl, rfl, .refl _, rfl⟩

theorem trans (h : Still s s') (h' : Still s' s'') : Still s s'' :=
  ⟨h'.tasks.trans h.tasks, h'.given.trans h.given, h.callers.trans h'.callers,
    h'.flights.trans h.flights⟩

theorem pop {job : Job} {rest : List Job} (hQueue : s.queue = job :: rest)
    (hOnly : ∀ w ∈ job.waiting, w.isPrefetch = true) : Still s s.pop :=
  ⟨rfl, rfl, callers_pop hQueue hOnly, rfl⟩

/-- A job by which nobody is told leaves the queue. -/
theorem pop_silent {job : Job} {rest : List Job} (hQueue : s.queue = job :: rest)
    (hSilent : job.waiting = []) : Still s s.pop :=
  pop hQueue fun _ hw => absurd (hSilent ▸ hw) List.not_mem_nil

theorem stage (i : FlightId) (stage : Stage) : Still s (s.withCache (s.cache.setStage i stage)) :=
  ⟨rfl, rfl, callers_of_waiting (.of_eq (waiting_setStage i stage).symm), List.length_modify ..⟩

theorem landWith (i : FlightId) (name : String) (landing : Landing) :
    Still s (s.landWith i name landing) := by
  refine ⟨rfl, given_landWith i name landing,
    callers_of_waiting (waiting_landWith s i name landing), ?_⟩
  rw [cache_landWith, Cache.land, Cache.settle_eq, Cache.modifyFlight]
  simp [flights_conclude, Cache.setStage, Cache.modifyFlight]

theorem launch (i : FlightId) : Still s (s.launch env i) := by
  unfold State.launch
  split
  · exact .refl s
  · rename_i f _
    have hFlying : Still s ((s.withCache (s.cache.setStage i .flying)).note (.called f.call)) :=
      (stage i .flying).trans ⟨rfl, given_note rfl, .refl _, rfl⟩
    dsimp only
    split
    · exact hFlying
    · exact hFlying.trans (landWith i _ _)

theorem land (i : FlightId) : Still s (s.land i) := by
  unfold State.land
  split
  · exact landWith i _ _
  · exact .refl s

theorem release (i : FlightId) (landing : Landing) : Still s (s.release i landing).1 := by
  unfold State.release
  split
  · refine (stage i (.landing landing)).trans ⟨rfl, rfl, callers_of_waiting (.of_eq ?_), rfl⟩
    rw [waiting_enqueue]
    exact (List.append_nil _).symm
  · exact .refl s

theorem notify {w : Waiter} (h : w.isPrefetch = true) (x : Settlement) :
    Still s (s.notify env x w) := by
  cases w with
  | prefetcher =>
    cases x with
    | broken fault => exact ⟨rfl, given_note rfl, .refl _, rfl⟩
    | _ => exact .refl s
  | _ => cases h

end Still

-- ---------------------------------------------------------------------------
-- Asking for pantries
-- ---------------------------------------------------------------------------

theorem length_flights_attach (s : State) (handle : Handle) (w : Waiter) :
    (s.attach handle w).cache.flights.length = s.cache.flights.length := by
  rcases attach_cases s handle w with ⟨_, h⟩ | ⟨_, _, _, _, h⟩ | ⟨_, _, _, h⟩ <;> rw [h]
  · rfl
  · exact List.length_modify ..

/-- Asking for a pantry starts one discovery at most. -/
theorem length_flights_request_le (env : Setup) (s : State) (name : String) :
    (s.request env name).1.cache.flights.length ≤ s.cache.flights.length + 1 := by
  rcases request_cases env s name with ⟨_, _, h⟩ | ⟨_, _, _, h⟩ | ⟨_, _, h⟩ <;> rw [h]
  · exact Nat.le_succ _
  · exact Nat.le_succ _
  · simp [Cache.start]

/-- Prefetches do not call for a pantry. -/
theorem callers_prefetchAll (env : Setup) (names : List String) (hSound : s.fleet.Sound) :
    s.callers.Perm (prefetchAll env names s).callers := by
  induction names generalizing s with
  | nil => exact .refl _
  | cons name rest ih =>
    have hSteps : Fleet.Steps env False s.fleet (s.request env name).1.fleet :=
      fleet_request env s name
    have hWaiting := (waiting_attach (hSound.steps hSteps) .prefetcher
      (offers_request env s name)).filter fun w => !w.isPrefetch
    rw [List.filter_cons_of_neg (by simp [Waiter.isPrefetch]), waiting_request] at hWaiting
    have hMoves : Moves env False s ((s.request env name).1.attach (s.request env name).2
      .prefetcher) := request_attach_moves name .prefetcher trivial
    exact hWaiting.trans (ih (hSound.steps hMoves.fleet))

-- ---------------------------------------------------------------------------
-- What can happen
-- ---------------------------------------------------------------------------

/-- What can happen next to an importer with one task while pantries are loaded. -/
theorem load_cases (env : Setup) {a : Action} (hLoad : a.isLoad = true)
    (hAlone : ∀ u, u ≠ t → s.tasks.get? u = none) :
    Still s (s.act env a).1 ∨
    a = .tick ∧ ((∃ x w rest, s.queue = .notify x w :: rest ∧ w.isPrefetch = false) ∨
      ∃ rest, s.queue = .resume t :: rest) := by
  cases a with
  | release i landing => exact Or.inl (.release i landing)
  | tick =>
    show Still s (s.tick env) ∨ _
    unfold tick
    split
    · exact Or.inl (.refl s)
    · rename_i job rest hQueue
      rw [show ({ s with queue := rest } : State) = s.pop by simp [pop, hQueue]]
      cases job with
      | launch i => exact Or.inl ((Still.pop_silent hQueue rfl).trans (.launch i))
      | land i => exact Or.inl ((Still.pop_silent hQueue rfl).trans (.land i))
      | notify x w =>
        cases hKind : w.isPrefetch with
        | true =>
          have hPop : Still s s.pop :=
            .pop hQueue fun w' hw' => by rwa [List.mem_singleton.mp hw']
          exact Or.inl (hPop.trans (.notify hKind x))
        | false => exact Or.inr ⟨rfl, Or.inl ⟨x, w, rest, hQueue, hKind⟩⟩
      | resume u =>
        by_cases hTurn : u = t
        · exact Or.inr ⟨rfl, Or.inr ⟨rest, hTurn ▸ hQueue⟩⟩
        · -- there is no such task
          have hNone : s.pop.tasks.get? u = none := hAlone u hTurn
          have hNothing : s.pop.perform env (.resume u) = s.pop := by
            simp only [perform, State.resume, hNone]
          rw [hNothing]
          exact Or.inl (.pop_silent hQueue rfl)
  | _ => cases hLoad

theorem act_moves_of_isLoad (env : Setup) {a : Action} (hLoad : a.isLoad = true) (s : State) :
    Moves env cancels s (s.act env a).1 :=
  act_moves a (fun hCancels => by simp [Action.not_cancels_of_isLoad hLoad] at hCancels) s

theorem loads_moves (env : Setup) {loads : List Action} (hLoads : ∀ a ∈ loads, a.isLoad = true)
    (s : State) : Moves env cancels s (actAll env loads s).1 :=
  actAll_moves loads
    (fun a ha hCancels => by simp [Action.not_cancels_of_isLoad (hLoads a ha)] at hCancels) s

-- ---------------------------------------------------------------------------
-- Whoever is told of a name is told the same
-- ---------------------------------------------------------------------------

variable {result : String → Returned}

/-- What has come back stays. -/
theorem Fixed.of_moves (h : s'.Fixed result) (hSound : s.fleet.Sound)
    (hMoves : Moves env cancels s s') : s.Fixed result := by
  intro f hf returned hResult
  obtain ⟨i, hFlight⟩ := List.mem_iff_getElem?.mp hf
  have hEnded : f.live = false := by simp [Flight.live, hResult]
  have hStays : s'.cache.flights[i]? = some f := (hSound.stays hMoves.fleet).1 hFlight hEnded
  exact h f (List.mem_of_getElem? hStays) returned hResult

theorem Fixed.of_loads {loads : List Action} (h : (actAll env loads s).1.Fixed result)
    (hSound : s.fleet.Sound) (hLoads : ∀ a ∈ loads, a.isLoad = true) : s.Fixed result := by
  have hMoves : Moves env False s (actAll env loads s).1 := loads_moves env hLoads s
  exact h.of_moves hSound hMoves

/-- What is looked for is not described by the configuration. -/
theorem Moves.comesTo_of_serves (h : Moves env cancels (seeded config) s) {name : String}
    {i : FlightId} {f : Flight} (hServes : s.cache.Serves name i f) :
    config.comesTo result name = conclude name (result name) := by
  unfold Config.comesTo
  split
  · rename_i P hSeed
    refine absurd hServes (h.not_serves_of_seed ?_ i f)
    rw [get?_ofSeeds, hSeed]
    rfl
  · rfl

/-- What is at hand is what the name comes to. -/
theorem Moves.comesTo_of_get? (h : Moves env cancels (seeded config) s) (hFixed : s.Fixed result)
    {name : String} {P : Pantry} (hGet : s.cache.get? name = some P) :
    config.comesTo result name = .ok P := by
  rcases h.mem_versions.mp (h.version_of_uses (.atHand hGet)) with
    ⟨i, f, hServes, hBrings⟩ | hSeed
  · rw [h.comesTo_of_serves hServes]
    unfold Flight.brings at hBrings
    split at hBrings
    · rename_i p hResult
      have hReturned := hFixed f (List.mem_of_getElem? hServes.1) _ hResult
      rw [hServes.2] at hBrings hReturned
      rw [← hReturned, ← Option.some.inj hBrings]
      rfl
    · cases hBrings
  · rw [get?_ofSeeds] at hSeed
    split at hSeed
    · rename_i p hSeeded
      have hComes : config.comesTo result name = .ok (p.named name) := by
        unfold Config.comesTo
        rw [hSeeded]
      rw [hComes, Option.some.inj hSeed]
    · cases hSeed

/-- Whoever is told of a name is told what it comes to. -/
theorem Moves.told_eq (h : Moves env False (seeded config) s) (hFixed : s.Fixed result)
    {x : Settlement} {w : Waiter} {name : String} (hJob : .notify x w ∈ s.queue)
    (hCited : w.cited? = some name) :
    x = .ofResult (config.comesTo result name) := by
  obtain ⟨i, f, returned, hServes, hResult, rfl⟩ :=
    h.reported name x w hJob (by rw [Waiter.cites, hCited, decide_eq_true rfl])
  have hReturned := hFixed f (List.mem_of_getElem? hServes.1) _ hResult
  rw [hServes.2] at hReturned
  rw [h.comesTo_of_serves hServes, hReturned]

-- ---------------------------------------------------------------------------
-- Imports that are resolved while pantries are loaded
-- ---------------------------------------------------------------------------

/-- The same state with other tasks, and another next number. -/
def dress (s : State) (tasks : Registry Ticket Task) (tickets : Ticket) : State :=
  { s with tasks := tasks, tickets := tickets }

section Dress

variable (T : Registry Ticket Task) (n : Ticket)

/-- Asking for a pantry does not look at the tasks. -/
theorem request_dress (env : Setup) (s : State) (name : String) :
    (s.dress T n).request env name =
      ((s.request env name).1.dress T n, (s.request env name).2) := by
  show ((((s.dress T n).withCache _).afterRequest name (s.cache.request env.searchPaths name).2),
    _) = (((s.withCache _).afterRequest name (s.cache.request env.searchPaths name).2).dress T n, _)
  cases (s.cache.request env.searchPaths name).2 <;> rfl

theorem attach_dress (s : State) (handle : Handle) (w : Waiter) :
    (s.dress T n).attach handle w = (s.attach handle w).dress T n := by
  cases handle with
  | ready pantry => rfl
  | shared i =>
    have hPromise : (s.dress T n).cache.promise? i = s.cache.promise? i := rfl
    simp only [attach, hPromise]
    split <;> rfl

theorem prefetchAll_dress (env : Setup) (names : List String) (s : State) :
    prefetchAll env names (s.dress T n) = (prefetchAll env names s).dress T n := by
  induction names generalizing s with
  | nil => rfl
  | cons name rest ih =>
    rw [prefetchAll, request_dress, prefetchAll]
    dsimp only
    rw [attach_dress, ih]

theorem resolve_dress (env : Setup) (s : State) (what : Import) (receiver : Receiver) :
    (s.dress T n).resolve env what receiver =
      ((s.resolve env what receiver).1.dress T n, (s.resolve env what receiver).2) := by
  unfold resolve
  split
  · rfl
  · rfl
  · rename_i path _
    dsimp only
    unfold resolveRelative
    have hIn : (s.dress T n).inPantry env path = s.inPantry env path := rfl
    rw [hIn]
    split <;> rfl
  · rename_i citation _
    have hGet : (s.dress T n).cache.get? citation.pantryName =
        s.cache.get? citation.pantryName := rfl
    dsimp only
    rw [hGet]
    split
    · dsimp only
      unfold resolveIn
      split <;> rfl
    · split
      · dsimp only
        unfold defer
        dsimp only
        rw [← attach_dress]
        have hAsk := request_dress T n env
          (s.note (.deferred receiver.ticket what.specifier.text citation.pantryName))
          citation.pantryName
        have hNoted : (s.dress T n).note
            (.deferred receiver.ticket what.specifier.text citation.pantryName) =
          (s.note (.deferred receiver.ticket what.specifier.text citation.pantryName)).dress T n :=
          rfl
        rw [hNoted, hAsk]
      · rfl

variable {T n}

/-- A task that runs enters what has become of it, whatever was entered before. -/
theorem runImports_dress {T' : Registry Ticket Task}
    (hSame : ∀ task, T.insert t task = T'.insert t task) (rest : List Import)
    (outcomes : List Outcome) (s : State) :
    runImports env t rest outcomes (s.dress T n) =
      runImports env t rest outcomes (s.dress T' n) := by
  have hSet : ∀ (s : State) task, (s.dress T n).setTask t task = (s.dress T' n).setTask t task :=
    fun s task => congrArg (s.dress · n) (hSame task)
  induction rest generalizing outcomes s with
  | nil => rw [runImports, runImports, finish, finish, hSet]
  | cons what rest ih =>
    rw [runImports, runImports, resolve_dress, resolve_dress]
    dsimp only
    split
    · split
      · exact hSet _ _
      · exact ih _ _
    · exact ih _ _
    · exact hSet _ _
    · rw [finish, finish, hSet]

theorem tasks_prefetchAll (env : Setup) (names : List String) (s : State) :
    (prefetchAll env names s).tasks = s.tasks := by
  induction names generalizing s with
  | nil => rfl
  | cons name rest ih => rw [prefetchAll, ih, tasks_attach, tasks_request]

theorem tickets_prefetchAll (env : Setup) (names : List String) (s : State) :
    (prefetchAll env names s).tickets = s.tickets := by
  induction names generalizing s with
  | nil => rfl
  | cons name rest ih => rw [prefetchAll, ih, tickets_attach, tickets_request]

/-- Prefetches go to the end of the queue. -/
theorem prefetchAll_pop (env : Setup) (names : List String) {job : Job} {rest : List Job}
    (hQueue : s.queue = job :: rest) :
    prefetchAll env names s.pop = (prefetchAll env names s).pop ∧
      ∃ rest', (prefetchAll env names s).queue = job :: rest' := by
  induction names generalizing s rest with
  | nil => exact ⟨rfl, rest, hQueue⟩
  | cons name names ih =>
    obtain ⟨hAsk, rest', hQueue'⟩ := request_pop env hQueue name
    obtain ⟨hWait, rest'', hQueue''⟩ := attach_pop hQueue' (s.request env name).2 .prefetcher
    rw [prefetchAll, hAsk, prefetchAll]
    dsimp only
    rw [hWait]
    exact ih hQueue''

/-- **Imports that are resolved while pantries are loaded** are resolved by moves: it is as if a
task of them were started and had its turn at once. -/
theorem resolveAll_moves (hRunning : env.running = true) (hIdle : s.queue = [])
    (first : List String) (imports : List Import) :
    Moves env cancels s ((prefetchAll env first s).resolveAll env imports).1 := by
  let ready : Task := ⟨.imports imports [], .ready⟩
  let T := s.tasks.insert s.tickets ready
  let loaded := prefetchAll env first s
  let names := loaded.cache.locations.keys
  -- the task is started, then the pantries are asked for, while its turn is the next job
  let started := (s.startTask env (.imports imports [])).1
  have hStarted : started = (s.takeTicket.setTask s.tickets ready).enqueue [.resume s.tickets] := by
    simp [started, startTask, hRunning, ready]
  have hQueue : started.queue = .resume s.tickets :: [] := by
    rw [hStarted, queue_enqueue, queue_setTask, queue_takeTicket, hIdle]
    rfl
  have hTaken : started.pop = s.dress T (s.tickets + 1) := by
    rw [hStarted]
    simp [pop, dress, enqueue, setTask, takeTicket, hIdle, T]
  obtain ⟨hFirst, _, hQueue₁⟩ := prefetchAll_pop env first hQueue
  obtain ⟨hNames, _, hQueue₂⟩ := prefetchAll_pop env names hQueue₁
  have hTask : (prefetchAll env names (prefetchAll env first started)).tasks.get? s.tickets =
      some ready := by
    rw [tasks_prefetchAll, tasks_prefetchAll, hStarted]
    exact Registry.get?_insert_self _ _ _
  have hMoves : Moves env cancels s (runImports env s.tickets imports []
      (prefetchAll env names (prefetchAll env first started)).pop) :=
    (((Relation.ReflTransGen.single .startTask).trans (prefetchAll_moves first _)).trans
      (prefetchAll_moves names _)).trans (runImports_moves hQueue₂ hTask rfl trivial)
  rw [← hNames, ← hFirst, hTaken, prefetchAll_dress, prefetchAll_dress] at hMoves
  -- in truth there is no entry of the task before it waits or ends
  have hSame : ∀ task, T.insert s.tickets task = s.tasks.insert s.tickets task :=
    fun task => Registry.insert_insert s.tasks s.tickets ready task
  rw [runImports_dress hSame] at hMoves
  have hLoaded : loaded.takeTicket = loaded.dress s.tasks (s.tickets + 1) := by
    rw [← tasks_prefetchAll env first s, ← tickets_prefetchAll env first s]
    rfl
  rw [resolveAll]
  dsimp only
  rw [tickets_prefetchAll, show (prefetchAll env first s).takeTicket = _ from hLoaded,
    prefetchAll_dress]
  exact hMoves

end Dress

end State

end Larder
