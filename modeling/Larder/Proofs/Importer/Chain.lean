import Larder.Proofs.Importer.Frame

/-!
# Larder — what an importer does is a chain of moves

Each function that an action or a job runs is taken apart into moves, from the ones that answer a
single import up to whole runs. A job that is being run has left the queue, while the moves keep
it there up to the last of them that needs it; answering, asking and waiting look at the head of
the queue at no point, so they may be done before or after it is taken out.

## Results

* `act_moves`: every action is a chain of moves, without cancelling unless the action cancels.
* `create_moves`: so is the creation of an importer.
* `Reachable.moves`, `actAll_moves`: so are runs.
-/

namespace Larder

namespace State

variable {env : Setup} {cancels : Prop} {s : State}

-- ---------------------------------------------------------------------------
-- Asking and waiting
-- ---------------------------------------------------------------------------

theorem admits_congr {s s' : State} {name : String} {w : Waiter} (hTasks : s'.tasks = s.tasks)
    (hTickets : s'.tickets = s.tickets) (h : s.Admits name w) : s'.Admits name w := by
  cases w <;> simp_all [Admits, TaskIs]

theorem request_attach_moves (name : String) (w : Waiter) (h : s.Admits name w) :
    Moves env cancels s ((s.request env name).1.attach (s.request env name).2 w) := by
  have hAdmit : (s.request env name).1.Admits name w :=
    admits_congr (tasks_request _ _ _) (tickets_request _ _ _) h
  exact .tail (.single .request) (.attach (offers_request _ _ _) hAdmit)

theorem prefetchAll_moves (names : List String) (s : State) :
    Moves env cancels s (prefetchAll env names s) := by
  induction names generalizing s with
  | nil => exact .refl
  | cons name rest ih => exact (request_attach_moves name .prefetcher trivial).trans (ih _)

-- ---------------------------------------------------------------------------
-- Imports
-- ---------------------------------------------------------------------------

/-- A relative specifier leads to a path by lexical reasoning. -/
theorem resolveFrom_of_classify {cwd path : Path} {specifier file : Value}
    (h : classify cwd specifier file = .relative path) :
    ∃ document text, cwd.resolveFrom document text = path := by
  unfold classify at h
  split at h
  · split at h
    · exact absurd h (by simp)
    · unfold classifyText at h
      simp only at h
      split at h
      · exact absurd h (by simp)
      · split at h
        · split at h
          · exact ⟨_, _, Reference.relative.inj h⟩
          · exact absurd h (by simp)
        · split at h <;> exact absurd h (by simp)
  · exact absurd h (by simp)

/-- The citation of an ingredient is what the specifier spells, which is a text then. -/
theorem written_of_classify {cwd : Path} {specifier file : Value} {citation : Citation}
    (h : classify cwd specifier file = .ingredient citation) :
    ∃ written, specifier = .str written ∧ Citation.ofString? written = some citation := by
  unfold classify at h
  split at h
  · rename_i written
    refine ⟨written, rfl, ?_⟩
    split at h
    · exact absurd h (by simp)
    · unfold classifyText at h
      simp only at h
      split at h
      · exact absurd h (by simp)
      · split at h
        · split at h <;> exact absurd h (by simp)
        · split at h
          · rename_i hSpelled
            rw [← Reference.ingredient.inj h]
            exact hSpelled
          · exact absurd h (by simp)
  · exact absurd h (by simp)

theorem spelled_of_classify {cwd : Path} {specifier file : Value} {citation : Citation}
    (h : classify cwd specifier file = .ingredient citation) :
    Citation.ofString? specifier.text = some citation := by
  obtain ⟨written, rfl, hSpelled⟩ := written_of_classify h
  exact hSpelled

/-- An import is answered for a path, answered without any change, deferred, or refused because
no event loop is running. -/
theorem resolve_cases (env : Setup) (s : State) (what : Import) (receiver : Receiver) :
    (∃ path fresh, Fresh path fresh ∧ s.resolve env what receiver =
      ((s.giveOnce what.session path fresh).1,
        .answered (s.giveOnce what.session path fresh).2)) ∨
    (∃ outcome, s.resolve env what receiver = (s, .answered outcome)) ∨
    (∃ citation : Citation, s.cache.get? citation.pantryName = none ∧
      classify env.cwd what.specifier what.file = .ingredient citation ∧
      s.resolve env what receiver =
        (s.defer env what.session what.specifier.text citation receiver,
          .deferred receiver.ticket)) ∨
    (env.running = false ∧ ∃ e, Event.isRemark e = true ∧
      s.resolve env what receiver = (s.note e, .noLoop)) := by
  unfold resolve
  split
  · exact Or.inr (Or.inl ⟨_, rfl⟩)
  · exact Or.inr (Or.inl ⟨_, rfl⟩)
  · rename_i path hClass
    unfold resolveRelative
    split
    · have hNormal : path.normalize = path := by
        obtain ⟨document, text, rfl⟩ := resolveFrom_of_classify hClass
        exact Path.normalize_resolveFrom _ _ _
      exact Or.inl ⟨path, .passThrough, ⟨hNormal, Or.inl rfl⟩, rfl⟩
    · exact Or.inr (Or.inl ⟨_, rfl⟩)
  · rename_i citation hClass
    simp only
    split
    · rename_i pantry _
      rcases resolveIn_cases env s what.session what.specifier.text pantry
        citation.ingredientName with ⟨path, _, hNormal, h⟩ | ⟨fault, _, h⟩
      · rw [h]
        exact Or.inl ⟨path, _, ⟨hNormal, Or.inr rfl⟩, rfl⟩
      · rw [h]
        exact Or.inr (Or.inl ⟨_, rfl⟩)
    · rename_i hNone
      split
      · exact Or.inr (Or.inr (Or.inl ⟨citation, hNone, hClass, rfl⟩))
      · rename_i hRun
        exact Or.inr (Or.inr (Or.inr ⟨by simpa using hRun, _, rfl, rfl⟩))

theorem importing_moves (what : Import) (script : Script) (s : State) :
    Moves env cancels s (s.importing env what script).1 := by
  unfold importing
  simp only
  rcases resolve_cases env s what (.callback s.tickets script) with
    ⟨path, fresh, hFresh, h⟩ | ⟨outcome, h⟩ | ⟨citation, hNone, hClass, h⟩ | ⟨_, e, hRemark, h⟩
  · -- an answer for a path; a host that takes nothing for "pass through" takes a number for it
    have hGive : Moves env cancels s (s.giveOnce what.session path fresh).1 :=
      .single (.give hFresh)
    rw [h]
    split
    · exact hGive.tail .number
    · split
      · exact hGive.tail .number
      · exact hGive
    · exact hGive
  · rw [h]
    split
    · exact .single .number
    · split
      · exact .single .number
      · exact .refl
    · exact .refl
  · rw [h]
    exact .single (.defer hNone (spelled_of_classify hClass))
  · rw [h]
    exact .single (.remark hRemark)

theorem runScript_moves (t : Ticket) (script : Script) (s : State) :
    Moves env cancels s (runScript env t script s) := by
  induction script generalizing s with
  | stop => exact .refl
  | fail => exact .refl
  | importing what receive next _ ih =>
    have hImport : Moves env cancels s (s.importing env what receive).1 :=
      importing_moves what receive s
    exact (hImport.tail (.remark rfl)).trans (ih _)

-- ---------------------------------------------------------------------------
-- Tasks
-- ---------------------------------------------------------------------------

/-- Asking looks at the cache alone, and puts its job at the end of the queue. -/
theorem request_pop (env : Setup) {job : Job} {rest : List Job} (hQueue : s.queue = job :: rest)
    (name : String) :
    s.pop.request env name = ((s.request env name).1.pop, (s.request env name).2) ∧
      ∃ rest', (s.request env name).1.queue = job :: rest' := by
  unfold request
  simp only [cache_pop]
  cases (s.cache.request env.searchPaths name).2 with
  | ready pantry => exact ⟨rfl, rest, hQueue⟩
  | joined i => exact ⟨rfl, rest, hQueue⟩
  | started i =>
    refine ⟨?_, rest ++ [.launch i], ?_⟩
    · simp [afterRequest, pop, enqueue, note, withCache, hQueue, Handle.ofRequested]
    · simp [afterRequest, hQueue]

/-- So does waiting. -/
theorem attach_pop {job : Job} {rest : List Job} (hQueue : s.queue = job :: rest)
    (handle : Handle) (w : Waiter) :
    s.pop.attach handle w = (s.attach handle w).pop ∧
      ∃ rest', (s.attach handle w).queue = job :: rest' := by
  cases handle with
  | ready pantry => simp [attach, pop, enqueue, hQueue]
  | shared i =>
    simp only [attach, cache_pop]
    split
    · exact ⟨rfl, rest, hQueue⟩
    · simp [pop, enqueue, hQueue]
    · exact ⟨rfl, rest, hQueue⟩

section Tasks

variable {t : Ticket} {rest : List Job} {work : Work} {phase : Phase}

theorem taskIs_of_get {kind : Work → Prop} (hTask : s.tasks.get? t = some ⟨work, phase⟩)
    (hKind : kind work) : s.TaskIs t kind :=
  ⟨work, phase, hTask, hKind⟩

theorem Phase.isRunnable_of_takesImports {phase : Phase} (h : phase.takesImports = true) :
    phase.isRunnable = true := by
  cases phase <;> simp_all [Phase.takesImports, Phase.isRunnable]

theorem runImports_moves {more : List Import} {outcomes : List Outcome}
    (hQueue : s.queue = .resume t :: rest) (hTask : s.tasks.get? t = some ⟨work, phase⟩)
    (hPhase : phase.takesImports = true) (hWork : work.Continues (.imports more outcomes)) :
    Moves env cancels s (runImports env t more outcomes s.pop) := by
  have hRun := Phase.isRunnable_of_takesImports hPhase
  -- no list of imports is part of what the work says of itself
  have hAny : ∀ more outcomes, work.Continues (.imports more outcomes) := by
    cases work <;> simp_all [Work.Continues]
  induction more generalizing outcomes s with
  | nil => exact .single (.finish hQueue hTask hRun hWork)
  | cons what more ih =>
    unfold runImports
    rcases resolve_cases env s.pop what (.task t) with
      ⟨path, fresh, hFresh, h⟩ | ⟨outcome, h⟩ | ⟨citation, hNone, hClass, h⟩ | ⟨_, e, hRemark, h⟩
    · have hGive : Moves env cancels s (s.giveOnce what.session path fresh).1 :=
        .single (.give hFresh)
      have hGo : ∀ outcomes, Moves env cancels s
          (runImports env t more outcomes (s.pop.giveOnce what.session path fresh).1) :=
        fun outcomes => hGive.trans (ih (s := (s.giveOnce what.session path fresh).1) hQueue hTask
          (hAny _ _))
      rw [h]
      simp only
      split
      · split
        · exact hGive.tail (.park (s := (s.giveOnce what.session path fresh).1) hQueue hTask hRun
            (hAny _ _))
        · exact hGo _
      · exact hGo _
      · rename_i hReply
        exact absurd hReply (by simp)
      · rename_i hReply
        exact absurd hReply (by simp)
    · rw [h]
      simp only
      split
      · split
        · exact .single (.park hQueue hTask hRun (hAny _ _))
        · exact ih hQueue hTask (hAny _ _)
      · exact ih hQueue hTask (hAny _ _)
      · rename_i hReply
        exact absurd hReply (by simp)
      · rename_i hReply
        exact absurd hReply (by simp)
    · rw [h]
      exact .single (.deferTask hQueue hTask hPhase (hAny _ _) hNone (spelled_of_classify hClass))
    · have hNote : Moves env cancels s (s.note e) := .single (.remark hRemark)
      rw [h]
      exact hNote.tail (.finish (s := s.note e) hQueue hTask hRun (hAny _ _))

theorem runUnbound_moves {specifier file : Value} (hQueue : s.queue = .resume t :: rest)
    (hTask : s.tasks.get? t = some ⟨.unbound specifier file, phase⟩)
    (hRun : phase.isRunnable = true) :
    Moves env cancels s (runUnbound env t specifier file s.pop) := by
  have hFinish : ∀ result, Moves env cancels s
      (s.pop.finish t (.unbound specifier file) result) := fun result =>
    .single (.finish hQueue hTask hRun (Work.Continues.refl _))
  have hPass : Moves env cancels s (passUnbound env t (.unbound specifier file) s.pop) := by
    unfold passUnbound
    split
    · exact .single (.park hQueue hTask hRun (Work.Continues.refl _))
    · exact hFinish _
  unfold runUnbound
  simp only
  split
  · exact hPass
  · exact hPass
  · split
    · exact hFinish _
    · exact hPass
  · rename_i citation _
    split
    · split
      · exact hFinish _
      · exact hFinish _
    · unfold deferUnbound
      simp only
      have hNoted : (s.note (.deferredUnbound t specifier.text citation.pantryName)).queue =
        .resume t :: rest := hQueue
      -- note, ask and wait while the job is in the queue, and take it out at the end
      obtain ⟨hAsk, rest', hQueue'⟩ := request_pop env hNoted citation.pantryName
      obtain ⟨hWait, rest'', hQueue''⟩ := attach_pop hQueue'
        ((s.note (.deferredUnbound t specifier.text citation.pantryName)).request env
          citation.pantryName).2 (.unbound specifier.text citation t)
      rw [show s.pop.note (.deferredUnbound t specifier.text citation.pantryName) =
        (s.note (.deferredUnbound t specifier.text citation.pantryName)).pop from rfl, hAsk, hWait]
      have hAsked : Moves env cancels
          (s.note (.deferredUnbound t specifier.text citation.pantryName)) _ :=
        request_attach_moves citation.pantryName (.unbound specifier.text citation t)
          ⟨rfl, taskIs_of_get hTask rfl⟩
      refine (Relation.ReflTransGen.head (.remark rfl) hAsked).tail
        (.park hQueue'' ?_ hRun (Work.Continues.refl _))
      rw [tasks_attach, tasks_request]
      exact hTask

theorem awaitPantry_moves {name : String} (hQueue : s.queue = .resume t :: rest)
    (hTask : s.tasks.get? t = some ⟨.pantry name, phase⟩) (hRun : phase.isRunnable = true) :
    Moves env cancels s (awaitPantry env t name s.pop) := by
  obtain ⟨hAsk, rest', hQueue'⟩ := request_pop env hQueue name
  have hTask' : (s.request env name).1.tasks.get? t = some ⟨.pantry name, phase⟩ := by
    rw [tasks_request]
    exact hTask
  unfold awaitPantry
  simp only [hAsk]
  split
  · exact (Relation.ReflTransGen.single .request).tail
      (.finish hQueue' hTask' hRun (Work.Continues.refl _))
  · rename_i i hHandle
    obtain ⟨hWait, rest'', hQueue''⟩ := attach_pop hQueue' (.shared i) (.resolver t)
    have hBoth : Moves env cancels s ((s.request env name).1.attach (s.request env name).2 _) :=
      request_attach_moves name (.resolver t) (taskIs_of_get hTask rfl)
    rw [hHandle] at hBoth
    rw [hWait]
    refine hBoth.tail (.park hQueue'' ?_ hRun (Work.Continues.refl _))
    rw [tasks_attach]
    exact hTask'

theorem awaitAll_moves (env : Setup) (cancels : Prop) {slots : List (Option Pantry)} (slot : Nat)
    (names : List String)
    (hQueue : s.queue = .resume t :: rest)
    (hTask : s.tasks.get? t = some ⟨.preload slots, .ready⟩) :
    ∃ s', Moves env cancels s s' ∧ awaitAll env t slot names s.pop = s'.pop ∧
      (∃ rest', s'.queue = .resume t :: rest') ∧
      s'.tasks.get? t = some ⟨.preload slots, .ready⟩ := by
  induction names generalizing slot s rest with
  | nil => exact ⟨s, .refl, rfl, ⟨rest, hQueue⟩, hTask⟩
  | cons name names ih =>
    obtain ⟨hAsk, rest', hQueue'⟩ := request_pop env hQueue name
    obtain ⟨hWait, rest'', hQueue''⟩ := attach_pop hQueue' (s.request env name).2
      (.collector t slot)
    have hTask' : ((s.request env name).1.attach (s.request env name).2
        (.collector t slot)).tasks.get? t = some ⟨.preload slots, .ready⟩ := by
      rw [tasks_attach, tasks_request]
      exact hTask
    obtain ⟨s', hMoves, hEq, hRest⟩ := ih (slot + 1) hQueue'' hTask'
    have hAsked : Moves env cancels s _ :=
      request_attach_moves name (.collector t slot) ⟨slots, hTask⟩
    refine ⟨s', hAsked.trans hMoves, ?_, hRest⟩
    rw [awaitAll, hAsk, hWait]
    exact hEq

theorem awaitSeeds_moves {slots : List (Option Pantry)} (hQueue : s.queue = .resume t :: rest)
    (hTask : s.tasks.get? t = some ⟨.preload slots, .ready⟩) :
    Moves env cancels s (awaitSeeds env t s.pop) := by
  unfold awaitSeeds
  simp only
  split
  · exact .single (.finish hQueue hTask rfl trivial)
  · obtain ⟨s', hMoves, hEq, ⟨rest', hQueue'⟩, hTask'⟩ :=
      awaitAll_moves env cancels 0 s.pop.cache.locations.keys hQueue hTask
    rw [hEq]
    exact hMoves.tail (.park hQueue' hTask' rfl trivial)

theorem resume_moves (hQueue : s.queue = .resume t :: rest) :
    Moves env cancels s (s.pop.resume env t) := by
  unfold resume
  simp only [tasks_pop]
  split
  · rename_i work hTask
    cases work with
    | imports more outcomes => exact runImports_moves hQueue hTask rfl trivial
    | unbound specifier file => exact runUnbound_moves hQueue hTask rfl
    | pantry name => exact awaitPantry_moves hQueue hTask rfl
    | preload slots => exact awaitSeeds_moves hQueue hTask
  · rename_i work w hTask
    have hFinish : ∀ result, Moves env cancels s (s.pop.finish t work result) := fun result =>
      .single (.finish hQueue hTask rfl (Work.Continues.refl _))
    cases w with
    | outcome outcome =>
      cases work with
      | imports more outcomes => exact runImports_moves hQueue hTask rfl trivial
      | unbound specifier file => exact hFinish _
      | pantry name => exact hFinish _
      | preload slots => exact hFinish _
    | pantry pantry => exact hFinish _
    | pantries pantries => exact hFinish _
    | fault fault => exact hFinish _
    | cancelled => exact hFinish _
  · -- neither ready nor woken
    rename_i hReady hWoken
    refine .single (.skip hQueue fun task hTask => ?_)
    obtain ⟨work, phase⟩ := task
    cases phase with
    | ready => exact absurd hTask (hReady work)
    | woken w => exact absurd hTask (hWoken work w)
    | suspended => rfl
    | ended result => rfl

end Tasks

-- ---------------------------------------------------------------------------
-- Jobs and actions
-- ---------------------------------------------------------------------------

theorem notify_moves {settlement : Settlement} {w : Waiter} {rest : List Job}
    (hQueue : s.queue = .notify settlement w :: rest) :
    Moves env cancels s (s.pop.notify env settlement w) := by
  cases w with
  | importing specifier citation session receiver =>
    cases receiver with
    | callback t script => exact .head (.deliver hQueue) (runScript_moves t script _)
    | task t => exact .single (.hand hQueue)
  | unbound specifier citation t => exact .single (.tell hQueue rfl)
  | observer t => exact .single (.tell hQueue rfl)
  | resolver t => exact .single (.tell hQueue rfl)
  | collector t slot => exact .single (.tell hQueue rfl)
  | prefetcher => exact .single (.tell hQueue rfl)

theorem launch_moves {i : FlightId} {rest : List Job} (hQueue : s.queue = .launch i :: rest) :
    Moves env cancels s (s.pop.launch env i) := by
  unfold launch
  simp only [cache_pop]
  split
  · rename_i hNone
    exact .single (.skip hQueue hNone)
  · rename_i f hFlight
    have hLaunch : Moves env cancels s
        ((s.pop.withCache (s.cache.setStage i .flying)).note (.called f.call)) :=
      .single (.launch hQueue hFlight)
    split
    · exact hLaunch
    · -- an answer that comes at once takes effect in the same job
      rename_i landing hAnswer
      refine hLaunch.tail (.landNow (f := { f with stage := .flying }) ?_ rfl hAnswer)
      simp [Cache.setStage, Cache.modifyFlight, hFlight]

theorem land_moves {i : FlightId} {rest : List Job} (hQueue : s.queue = .land i :: rest) :
    Moves env cancels s (s.pop.land i) := by
  unfold land
  simp only [cache_pop]
  split
  · rename_i call landing promise hFlight
    exact .single (.land (f := ⟨call, .landing landing, promise⟩) hQueue hFlight rfl)
  · rename_i hOther
    refine .single (.skip hQueue fun f landing hFlight hStage => ?_)
    obtain ⟨call, stage, promise⟩ := f
    subst hStage
    exact hOther _ _ _ hFlight

theorem tick_moves : Moves env cancels s (s.tick env) := by
  unfold tick
  split
  · exact .refl
  · rename_i job rest hQueue
    rw [show ({ s with queue := rest } : State) = s.pop by simp [pop, hQueue]]
    cases job with
    | launch i => exact launch_moves hQueue
    | land i => exact land_moves hQueue
    | notify settlement w => exact notify_moves hQueue
    | resume t => exact resume_moves hQueue

/-- Every action is a chain of moves. -/
theorem act_moves (a : Action) (hCancels : a.cancels = true → cancels) (s : State) :
    Moves env cancels s (s.act env a).1 := by
  cases a with
  | importing what script => exact importing_moves what script s
  | request name =>
    simp only [act, requesting]
    split
    · exact .head .number
        (request_attach_moves name (.observer s.tickets) (Nat.lt_succ_self s.tickets))
    · exact .refl
  | start work => exact .single .startTask
  | prefetch =>
    simp only [act, prefetch]
    split
    · exact .refl
    · split
      · exact prefetchAll_moves _ _
      · exact .refl
  | cancelRequest name =>
    have hRequest : Moves env cancels s (s.request env name).1 := .single .request
    have hOffer := offers_request env s name
    simp only [act, cancelRequest]
    split
    · split
      · exact hRequest
      · rename_i i hHandle
        rw [hHandle] at hOffer
        exact hRequest.tail (.cancel (hCancels rfl) hOffer)
    · exact .refl
  | cancelPromise name =>
    simp only [act, cancelPromise]
    split
    · exact .refl
    · rename_i i hSlot
      exact .single (.cancel (hCancels rfl) hSlot)
  | cancelTask t => exact .single .cancelTask
  | release i landing =>
    simp only [act, release]
    split
    · rename_i call promise hFlight
      exact .single (.comeBack (f := ⟨call, .flying, promise⟩) hFlight rfl)
    · exact .refl
  | tick => exact tick_moves

/-- An importer without work, before anything was asked of it. -/
def seeded (config : Config) : State :=
  ⟨Cache.ofSeeds config.pantries, [], .empty, .empty, 0, []⟩

/-- An importer is created by moves from its seeds alone. -/
theorem create_moves (env : Setup) (config : Config) :
    Moves env cancels (seeded config) (create env config) := by
  unfold create
  simp only
  split
  · exact prefetchAll_moves _ _
  · exact .single (.remark rfl)

/-- A run is a chain of moves. -/
theorem actAll_moves (actions : List Action) (hCancels : ∀ a ∈ actions, a.cancels = true → cancels)
    (s : State) : Moves env cancels s (actAll env actions s).1 := by
  induction actions generalizing s with
  | nil => exact .refl
  | cons a rest ih =>
    exact (act_moves a (hCancels a List.mem_cons_self) s).trans
      (ih (fun b hb => hCancels b (List.mem_cons_of_mem _ hb)) _)

theorem Reachable.moves {config : Config} (h : Reachable env config s) :
    Moves env True (seeded config) s := by
  induction h with
  | create => exact create_moves env config
  | act a _ ih => exact ih.trans (act_moves a (fun _ => trivial) _)

theorem Reachable.actAll {config : Config} (actions : List Action)
    (h : Reachable env config s) : Reachable env config (actAll env actions s).1 := by
  induction actions generalizing s with
  | nil => exact h
  | cons a rest ih => exact ih (.act a h)

end State

/-- An importer in a running event loop whose discoveries are answered from outside. -/
def Setup.manual : Setup where
  cwd := ⟨.single, []⟩
  passThrough := .bool true
  searchPaths := []
  collaborator := fun _ _ => none
  running := true

/-- No pantry is known beforehand. -/
def Config.bare : Config where
  pantries := .empty
  searchPaths := []

end Larder
