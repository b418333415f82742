import Larder.Proofs.Importer.Hearing

/-!
# Larder — an importer without one of its tasks

A task that waits for a pantry is one of many who do. When it is cancelled, its promise, its
discovery and everybody else who waits must go on as if nothing had happened. To say so, one of the
tasks is *left out* of a state: its entry, its turns in the queue, and what the journal tells of its
end. Whatever else is said of the state is still there.

A task that has nothing left to do but to end cannot be noticed: leaving it out before an action or
after it makes no difference, and its own turns and its cancelling change nothing of what is left.
So a run in which it is cancelled and one in which it is not lead to the same state without it,
whenever everybody else does the same in both.

## Results

* `without_act`: leaving a task out and what the others do commute.
* `without_own`: what concerns the task alone is not seen without it.
* `exists_run`: everything that the others can do without the task they can do with it.
* `cancel_unseen`: a run in which a task is cancelled and the same run without that are alike.
-/

namespace Larder

-- ---------------------------------------------------------------------------
-- Registries without a key
-- ---------------------------------------------------------------------------

section Registries

variable {κ α : Type} [DecidableEq κ] {key other : κ}

theorem insertPair_filter_of_ne (h : other ≠ key) (value : α) (ps : List (κ × α)) :
    (insertPair other value ps).filter (fun p => p.1 ≠ key) =
      insertPair other value (ps.filter fun p => p.1 ≠ key) := by
  induction ps with
  | nil => simp [insertPair, h]
  | cons p rest ih =>
    obtain ⟨k, v⟩ := p
    by_cases hOther : k = other
    · subst hOther
      simp [insertPair, h]
    · by_cases hKey : k = key
      · subst hKey
        simpa [insertPair, hOther] using ih
      · simpa [insertPair, hOther, hKey] using ih

theorem insertPair_filter_self (value : α) (ps : List (κ × α)) :
    (insertPair key value ps).filter (fun p => p.1 ≠ key) = ps.filter fun p => p.1 ≠ key := by
  induction ps with
  | nil => simp [insertPair]
  | cons p rest ih =>
    obtain ⟨k, v⟩ := p
    by_cases hKey : k = key
    · subst hKey
      simp [insertPair]
    · simpa [insertPair, hKey] using ih

namespace Registry

/-- Entries under other keys may be made before or after one is struck out. -/
theorem erase_insert_of_ne (r : Registry κ α) (value : α) (h : other ≠ key) :
    (r.insert other value).erase key = (r.erase key).insert other value := by
  simp only [erase, insert, insertPair_filter_of_ne h]

/-- An entry that is struck out leaves no trace. -/
theorem erase_insert_self (r : Registry κ α) (value : α) :
    (r.insert key value).erase key = r.erase key := by
  simp only [erase, insert, insertPair_filter_self]

end Registry

end Registries

-- ---------------------------------------------------------------------------
-- Leaving a task out
-- ---------------------------------------------------------------------------

/-- Whether a job is a turn of a task. -/
def Job.isTurnOf (t : Ticket) : Job → Bool
  | .resume u => u = t
  | _ => false

/-- Whether a task with this work has nothing left to do but to end when it is woken. -/
def Work.isLast : Work → Bool
  | .imports rest _ => rest.isEmpty
  | _ => true

/-- Whether a task ends without going on with its work, or has ended. -/
def Phase.isOver : Phase → Bool
  | .woken .cancelled => true
  | .ended _ => true
  | _ => false

/-- Whether an event tells of the end of a task. -/
def Event.isEndOf (t : Ticket) : Event → Bool
  | .finished u _ => u = t
  | _ => false

namespace State

variable {env : Setup} {config : Config} {s s' : State} {t u : Ticket}

/-- The state with a task left out. -/
def without (s : State) (t : Ticket) : State where
  cache := s.cache
  queue := s.queue.filter fun job => !job.isTurnOf t
  sessions := s.sessions
  tasks := s.tasks.erase t
  tickets := s.tickets
  journal := s.journal.filter fun e => !e.isEndOf t

/-- Whether a task has begun and has nothing left to do but to end. -/
def Waits (s : State) (t : Ticket) : Prop :=
  ∃ work phase, s.tasks.get? t = some ⟨work, phase⟩ ∧ phase ≠ .ready ∧
    (work.isLast = true ∨ phase.isOver = true)

@[simp] theorem cache_without : (s.without t).cache = s.cache := rfl

theorem get?_without_of_ne (h : u ≠ t) : (s.without t).tasks.get? u = s.tasks.get? u :=
  Registry.get?_erase_of_ne _ h

theorem get?_without_self : (s.without t).tasks.get? t = none := Registry.get?_erase_self _ _

theorem note_without {e : Event} (h : e.isEndOf t = false) :
    (s.without t).note e = (s.note e).without t := by
  simp [without, note, h]

theorem enqueue_without {jobs : List Job} (h : ∀ job ∈ jobs, job.isTurnOf t = false) :
    (s.without t).enqueue jobs = (s.enqueue jobs).without t := by
  have hJobs : jobs.filter (fun job => !job.isTurnOf t) = jobs := by
    rw [List.filter_eq_self]
    intro job hJob
    simp [h job hJob]
  simp [without, enqueue, hJobs]

theorem setTask_without (task : Task) (h : u ≠ t) :
    (s.without t).setTask u task = (s.setTask u task).without t := by
  simp only [without, setTask, Registry.erase_insert_of_ne _ _ h]

-- what concerns the task alone

theorem without_turn : (s.enqueue [.resume t]).without t = s.without t := by
  simp [without, enqueue, Job.isTurnOf]

theorem without_setTask (task : Task) : (s.setTask t task).without t = s.without t := by
  simp only [without, setTask, Registry.erase_insert_self]

theorem without_end (result : TaskResult) :
    (s.note (.finished t result)).without t = s.without t := by
  simp [without, note, Event.isEndOf]

theorem without_finish (work : Work) (result : TaskResult) :
    (s.finish t work result).without t = s.without t := by
  rw [finish, without_end, without_setTask]

-- ---------------------------------------------------------------------------
-- Requests and discoveries
-- ---------------------------------------------------------------------------

theorem request_without (env : Setup) (s : State) (t : Ticket) (name : String) :
    (s.without t).request env name =
      ((s.request env name).1.without t, (s.request env name).2) := by
  unfold request
  simp only [cache_without]
  refine Prod.ext ?_ rfl
  cases (s.cache.request env.searchPaths name).2 with
  | ready pantry => rfl
  | joined i => exact note_without (s := s.withCache _) rfl
  | started i =>
    have hNote := note_without (s := s.withCache (s.cache.request env.searchPaths name).1) (t := t)
      (e := .started name) rfl
    refine (congrArg (·.enqueue [.launch i]) hNote).trans (enqueue_without ?_)
    simp [Job.isTurnOf]

theorem attach_without (s : State) (t : Ticket) (handle : Handle) (w : Waiter) :
    (s.without t).attach handle w = (s.attach handle w).without t := by
  have hNotify : ∀ x : Settlement, (s.without t).enqueue [.notify x w] =
      (s.enqueue [.notify x w]).without t := fun x => enqueue_without (by simp [Job.isTurnOf])
  cases handle with
  | ready pantry => exact hNotify _
  | shared i =>
    simp only [attach, cache_without]
    split
    · rfl
    · exact hNotify _
    · rfl

theorem prefetchAll_without (env : Setup) (names : List String) (s : State) (t : Ticket) :
    prefetchAll env names (s.without t) = (prefetchAll env names s).without t := by
  induction names generalizing s with
  | nil => rfl
  | cons name rest ih =>
    simp only [prefetchAll, request_without, attach_without, ih]

theorem settle_without (s : State) (t : Ticket) (i : FlightId) (x : Settlement) :
    (s.without t).settle i x = (s.settle i x).without t := by
  refine enqueue_without (s := s.withCache _) fun job hJob => ?_
  obtain ⟨w, _, rfl⟩ := List.mem_map.mp hJob
  rfl

theorem landWith_without (s : State) (t : Ticket) (i : FlightId) (name : String)
    (landing : Landing) :
    (s.without t).landWith i name landing = (s.landWith i name landing).without t := by
  have hTold : (landing.notes.map Event.told).reverse.filter (fun e => !e.isEndOf t) =
      (landing.notes.map Event.told).reverse := by
    simp [List.filter_eq_self, Event.isEndOf]
  have hAll : (s.without t).noteAll (landing.notes.map Event.told) =
      (s.noteAll (landing.notes.map Event.told)).without t := by
    simp only [without, noteAll, List.filter_append, hTold]
  have hResult : (resultEvent name (conclude name landing.returned)).isEndOf t = false := by
    cases conclude name landing.returned <;> rfl
  have hNote : ∀ c : Cache,
      (((s.noteAll (landing.notes.map Event.told)).without t).withCache c).note
          (resultEvent name (conclude name landing.returned)) =
        (((s.noteAll (landing.notes.map Event.told)).withCache c).note
          (resultEvent name (conclude name landing.returned))).without t :=
    fun c => note_without (s := (s.noteAll (landing.notes.map Event.told)).withCache c) hResult
  simp only [landWith, hAll, cache_without, hNote, settle_without]

theorem launch_without (env : Setup) (s : State) (t : Ticket) (i : FlightId) :
    (s.without t).launch env i = (s.launch env i).without t := by
  simp only [launch, cache_without]
  split
  · rfl
  · rename_i f _
    have hCalled : ((s.without t).withCache (s.cache.setStage i .flying)).note (.called f.call) =
        ((s.withCache (s.cache.setStage i .flying)).note (.called f.call)).without t :=
      note_without (s := s.withCache _) rfl
    rw [hCalled]
    split
    · rfl
    · exact landWith_without _ _ _ _ _

theorem land_without (s : State) (t : Ticket) (i : FlightId) :
    (s.without t).land i = (s.land i).without t := by
  simp only [land, cache_without]
  split
  · exact landWith_without _ _ _ _ _
  · rfl

-- ---------------------------------------------------------------------------
-- Imports
-- ---------------------------------------------------------------------------

theorem giveOnce_without (s : State) (t : Ticket) (session : SessionId) (path : Path)
    (fresh : Outcome) :
    (s.without t).giveOnce session path fresh =
      ((s.giveOnce session path fresh).1.without t, (s.giveOnce session path fresh).2) := by
  refine Prod.ext ?_ rfl
  exact note_without (s := s.setEmission _ _) rfl

theorem resolveIn_without (env : Setup) (s : State) (t : Ticket) (session : SessionId)
    (specifier : String) (pantry : Pantry) (ingredient : String) :
    (s.without t).resolveIn env session specifier pantry ingredient =
      ((s.resolveIn env session specifier pantry ingredient).1.without t,
        (s.resolveIn env session specifier pantry ingredient).2) := by
  unfold resolveIn
  split
  · rfl
  · exact giveOnce_without _ _ _ _ _

theorem defer_without (env : Setup) (s : State) (t : Ticket) (session : SessionId)
    (specifier : String) (citation : Citation) (receiver : Receiver) :
    (s.without t).defer env session specifier citation receiver =
      (s.defer env session specifier citation receiver).without t := by
  simp only [defer]
  rw [note_without rfl, request_without, attach_without]

theorem resolve_without (env : Setup) (s : State) (t : Ticket) (what : Import)
    (receiver : Receiver) :
    (s.without t).resolve env what receiver =
      ((s.resolve env what receiver).1.without t, (s.resolve env what receiver).2) := by
  simp only [resolve, cache_without]
  split
  · rfl
  · rfl
  · rename_i path _
    have hInside : (s.without t).inPantry env path = s.inPantry env path := rfl
    simp only [resolveRelative, hInside]
    split
    · rw [giveOnce_without]
    · rfl
  · split
    · rw [resolveIn_without]
    · split
      · rw [defer_without]
      · rfl

theorem importing_without (env : Setup) (s : State) (t : Ticket) (what : Import)
    (script : Script) :
    (s.without t).importing env what script =
      ((s.importing env what script).1.without t, (s.importing env what script).2) := by
  have hTickets : (s.without t).tickets = s.tickets := rfl
  simp only [importing, hTickets, resolve_without]
  split
  · rfl
  · split <;> rfl
  · rfl

theorem runScript_without (env : Setup) (u : Ticket) (script : Script) (s : State) (t : Ticket) :
    runScript env u script (s.without t) = (runScript env u script s).without t := by
  induction script generalizing s with
  | stop => rfl
  | fail => rfl
  | importing what receive next _ ih =>
    simp only [runScript, importing_without]
    rw [note_without rfl, ih]

theorem complete_without (env : Setup) (s : State) (t : Ticket) (session : SessionId)
    (specifier : String) (citation : Citation) (settlement : Settlement) :
    (s.without t).complete env session specifier citation settlement =
      ((s.complete env session specifier citation settlement).1.without t,
        (s.complete env session specifier citation settlement).2) := by
  cases settlement with
  | kept pantry => exact resolveIn_without _ _ _ _ _ _ _
  | broken fault => rfl
  | cancelled => exact Prod.ext (note_without rfl) rfl

-- ---------------------------------------------------------------------------
-- Waking
-- ---------------------------------------------------------------------------

/-- Waking the task that is left out is not seen, and without it there is nobody to wake. -/
theorem wake_without (s : State) (t u : Ticket) (w : Wake) :
    (s.without t).wake u w = (s.wake u w).without t := by
  by_cases hu : u = t
  · subst hu
    have hAbsent : (s.without u).wake u w = s.without u := by simp [wake, get?_without_self]
    rw [hAbsent]
    rcases wake_cases s u w with ⟨work, _, h⟩ | h <;> rw [h]
    rw [without_turn, without_setTask]
  · simp only [wake, get?_without_of_ne hu]
    split
    · rw [setTask_without _ hu]
      exact enqueue_without (by simp [Job.isTurnOf, hu])
    · rfl

theorem collect_without (s : State) (t u : Ticket) (slot : Nat) (pantry : Pantry) :
    (s.without t).collect u slot pantry = (s.collect u slot pantry).without t := by
  by_cases hu : u = t
  · subst hu
    have hAbsent : (s.without u).collect u slot pantry = s.without u := by
      simp [collect, get?_without_self]
    rw [hAbsent]
    rcases collect_cases s u slot pantry with ⟨_, slots, _, h | ⟨pantries, h⟩⟩ | h <;> rw [h]
    · rw [without_setTask]
    · have hWake := wake_without (s.setTask u ⟨.preload slots, .suspended⟩) u u (.pantries pantries)
      rw [← hWake, without_setTask]
      simp [wake, get?_without_self]
  · simp only [collect, get?_without_of_ne hu]
    split
    · rw [setTask_without _ hu]
      split
      · exact wake_without _ _ _ _
      · rfl
    · rfl

theorem handOver_without (s : State) (t u : Ticket) (outcome : Outcome) :
    (s.without t).handOver u outcome = (s.handOver u outcome).without t := by
  rw [handOver, note_without rfl, wake_without, handOver]

theorem completeUnbound_without (env : Setup) (s : State) (t u : Ticket) (specifier : String)
    (citation : Citation) (settlement : Settlement) :
    (s.without t).completeUnbound env specifier citation u settlement =
      (s.completeUnbound env specifier citation u settlement).without t := by
  cases settlement with
  | kept pantry =>
    simp only [completeUnbound]
    split
    · exact handOver_without _ _ _ _
    · rfl
  | broken fault => exact handOver_without _ _ _ _
  | cancelled =>
    simp only [completeUnbound]
    rw [note_without rfl, handOver_without]

theorem notify_without (env : Setup) (s : State) (t : Ticket) (settlement : Settlement)
    (w : Waiter) :
    (s.without t).notify env settlement w = (s.notify env settlement w).without t := by
  cases w with
  | importing specifier citation session receiver =>
    simp only [notify, complete_without]
    cases receiver with
    | callback u script =>
      simp only [deliver]
      rw [note_without rfl, runScript_without]
    | task u => exact handOver_without _ _ _ _
  | unbound specifier citation u => exact completeUnbound_without _ _ _ _ _ _ _
  | observer u => exact note_without rfl
  | resolver u => cases settlement <;> exact wake_without _ _ _ _
  | collector u slot =>
    cases settlement with
    | kept pantry => exact collect_without _ _ _ _ _
    | broken fault => exact wake_without _ _ _ _
    | cancelled => exact wake_without _ _ _ _
  | prefetcher =>
    cases settlement with
    | kept pantry => rfl
    | broken fault => exact note_without rfl
    | cancelled => rfl

-- ---------------------------------------------------------------------------
-- Other tasks
-- ---------------------------------------------------------------------------

section Others

variable (env : Setup) (s : State) (hOther : u ≠ t)

include hOther

theorem finish_without (work : Work) (result : TaskResult) :
    (s.without t).finish u work result = (s.finish u work result).without t := by
  rw [finish, setTask_without _ hOther]
  exact note_without (by simp [Event.isEndOf, hOther])

theorem runImports_without (rest : List Import) (outcomes : List Outcome) :
    runImports env u rest outcomes (s.without t) =
      (runImports env u rest outcomes s).without t := by
  induction rest generalizing s outcomes with
  | nil => exact finish_without s hOther _ _
  | cons what rest ih =>
    simp only [runImports, resolve_without]
    split
    · split
      · exact setTask_without _ hOther
      · exact ih _ _
    · exact ih _ _
    · exact setTask_without _ hOther
    · exact finish_without _ hOther _ _

theorem runUnbound_without (specifier file : Value) :
    runUnbound env u specifier file (s.without t) =
      (runUnbound env u specifier file s).without t := by
  have hPass : ∀ work, passUnbound env u work (s.without t) =
      (passUnbound env u work s).without t := by
    intro work
    unfold passUnbound
    split
    · exact setTask_without _ hOther
    · exact finish_without _ hOther _ _
  simp only [runUnbound, cache_without]
  split
  · exact hPass _
  · exact hPass _
  · rename_i path _
    have hInside : (s.without t).inPantry env path = s.inPantry env path := rfl
    rw [hInside]
    split
    · exact finish_without _ hOther _ _
    · exact hPass _
  · split
    · split <;> exact finish_without _ hOther _ _
    · simp only [deferUnbound]
      rw [note_without rfl, request_without, attach_without, setTask_without _ hOther]

theorem awaitPantry_without (name : String) :
    awaitPantry env u name (s.without t) = (awaitPantry env u name s).without t := by
  simp only [awaitPantry, request_without]
  split
  · exact finish_without _ hOther _ _
  · rw [attach_without, setTask_without _ hOther]

omit hOther in
theorem awaitAll_without (slot : Nat) (names : List String) :
    awaitAll env u slot names (s.without t) = (awaitAll env u slot names s).without t := by
  induction names generalizing s slot with
  | nil => rfl
  | cons name rest ih => simp only [awaitAll, request_without, attach_without, ih]

theorem awaitSeeds_without : awaitSeeds env u (s.without t) = (awaitSeeds env u s).without t := by
  unfold awaitSeeds
  by_cases hNames : s.cache.locations.keys = []
  · have hNames' : (s.without t).cache.locations.keys = [] := hNames
    simp only [if_pos hNames, if_pos hNames']
    exact finish_without _ hOther _ _
  · have hNames' : (s.without t).cache.locations.keys ≠ [] := hNames
    simp only [if_neg hNames, if_neg hNames']
    rw [cache_without, awaitAll_without, setTask_without _ hOther]

theorem goOn_without (work : Work) (w : Wake) :
    (s.without t).goOn env u work w = (s.goOn env u work w).without t := by
  cases w with
  | outcome outcome =>
    cases work with
    | imports rest outcomes => exact runImports_without env s hOther _ _
    | unbound specifier file => exact finish_without _ hOther _ _
    | pantry name => exact finish_without _ hOther _ _
    | preload slots => exact finish_without _ hOther _ _
  | pantry pantry => exact finish_without _ hOther _ _
  | pantries pantries => exact finish_without _ hOther _ _
  | fault fault => exact finish_without _ hOther _ _
  | cancelled => exact finish_without _ hOther _ _

theorem resume_without : (s.without t).resume env u = (s.resume env u).without t := by
  simp only [resume, get?_without_of_ne hOther]
  split
  · rename_i work _
    cases work with
    | imports rest outcomes => exact runImports_without env s hOther _ _
    | unbound specifier file => exact runUnbound_without env s hOther _ _
    | pantry name => exact awaitPantry_without env s hOther _
    | preload slots => exact awaitSeeds_without env s hOther
  · exact goOn_without env s hOther _ _
  · rfl

end Others

/-- The turn of a task that has nothing left to do ends it, or does nothing. -/
theorem resume_of_waits (env : Setup) (h : s.Waits t) :
    s.resume env t = s ∨ ∃ work result, s.resume env t = s.finish t work result := by
  obtain ⟨work, phase, hTask, hBegun, hLast⟩ := h
  simp only [resume, hTask]
  cases phase with
  | ready => exact absurd rfl hBegun
  | suspended => exact Or.inl rfl
  | ended result => exact Or.inl rfl
  | woken w =>
    refine Or.inr ?_
    cases w with
    | outcome outcome =>
      cases work with
      | imports rest outcomes =>
        obtain rfl : rest = [] := by simpa [Work.isLast, Phase.isOver] using hLast
        exact ⟨_, _, rfl⟩
      | _ => exact ⟨_, _, rfl⟩
    | _ => exact ⟨_, _, rfl⟩

theorem without_resume (h : s.Waits t) : (s.resume env t).without t = s.without t := by
  rcases resume_of_waits env h with hTurn | ⟨work, result, hTurn⟩ <;> rw [hTurn]
  exact without_finish _ _

-- ---------------------------------------------------------------------------
-- Actions
-- ---------------------------------------------------------------------------

theorem perform_without (env : Setup) (s : State) {job : Job} (hOther : job.isTurnOf t = false) :
    (s.without t).perform env job = (s.perform env job).without t := by
  cases job with
  | launch i => exact launch_without env s t i
  | land i => exact land_without s t i
  | notify settlement w => exact notify_without env s t settlement w
  | resume u => exact resume_without env s (of_decide_eq_false hOther)

/-- Whether an action is the cancelling of a task or its turn. -/
def isOwn (s : State) (t : Ticket) : Action → Bool
  | .cancelTask u => u = t
  | .tick => s.queue.head?.any (Job.isTurnOf t)
  | _ => false

theorem queue_of_isOwn (hOwn : s.isOwn t .tick = true) : ∃ rest, s.queue = .resume t :: rest := by
  cases hQueue : s.queue with
  | nil => simp [isOwn, hQueue] at hOwn
  | cons job rest =>
    have hJob : job.isTurnOf t = true := by simpa [isOwn, hQueue] using hOwn
    cases job with
    | resume u => exact ⟨rest, by rw [show u = t from of_decide_eq_true hJob]⟩
    | _ => simp [Job.isTurnOf] at hJob

theorem tick_without (env : Setup) (hOther : s.isOwn t .tick = false) :
    (s.without t).tick env = (s.tick env).without t := by
  cases hQueue : s.queue with
  | nil => simp [tick, without, hQueue]
  | cons job rest =>
    have hJob : job.isTurnOf t = false := by simpa [isOwn, hQueue] using hOther
    have hNext : s.tick env = State.perform env { s with queue := rest } job := by
      simp [tick, hQueue]
    have hNext' : (s.without t).tick env =
        (State.without { s with queue := rest } t).perform env job := by
      simp [tick, without, hQueue, hJob]
    rw [hNext, hNext', perform_without _ _ hJob]

theorem cancelTask_without (hOther : u ≠ t) :
    (s.without t).cancelTask u = ((s.cancelTask u).1.without t, (s.cancelTask u).2) := by
  simp only [cancelTask, get?_without_of_ne hOther]
  split
  · rfl
  · rfl
  · rw [setTask_without _ hOther, enqueue_without (by simp [Job.isTurnOf, hOther])]
  · rw [setTask_without _ hOther]

/-- **Leaving a task out and what the others do commute.** -/
theorem without_act (env : Setup) {a : Action} (hTaken : t < s.tickets)
    (hOther : s.isOwn t a = false) :
    (s.without t).act env a = ((s.act env a).1.without t, (s.act env a).2) := by
  cases a with
  | importing what script => simp only [act, importing_without]
  | request name =>
    simp only [act, requesting]
    split
    · have hTicket : (s.without t).takeTicket = s.takeTicket.without t := rfl
      simp only [hTicket, request_without, attach_without]
      rfl
    · rfl
  | start work =>
    simp only [act, startTask]
    split
    · have hTicket : (s.without t).takeTicket = s.takeTicket.without t := rfl
      have hNe : s.tickets ≠ t := Nat.ne_of_gt hTaken
      show (((s.without t).takeTicket.setTask s.tickets ⟨work, .ready⟩).enqueue
          [.resume s.tickets], Answer.started s.tickets) = _
      rw [hTicket, setTask_without _ hNe, enqueue_without (by simp [Job.isTurnOf, hNe])]
    · rfl
  | prefetch =>
    simp only [act, prefetch, cache_without, prefetchAll_without]
    split
    · rfl
    · split <;> rfl
  | cancelRequest name =>
    simp only [act, cancelRequest, request_without]
    split
    · split
      · rfl
      · rw [settle_without]
    · rfl
  | cancelPromise name =>
    simp only [act, cancelPromise, cache_without]
    split
    · rfl
    · rw [settle_without]
  | cancelTask u => exact cancelTask_without (of_decide_eq_false hOther)
  | release i landing =>
    simp only [act, release, cache_without]
    split
    · have hStage : (s.without t).withCache (s.cache.setStage i (.landing landing)) =
          (s.withCache (s.cache.setStage i (.landing landing))).without t := rfl
      rw [hStage, enqueue_without (by simp [Job.isTurnOf])]
    · rfl
  | tick => exact congrArg (·, Answer.done) (tick_without env hOther)

theorem without_cancelTask (s : State) (t : Ticket) :
    (s.cancelTask t).1.without t = s.without t := by
  unfold cancelTask
  split
  · rfl
  · rfl
  · rw [without_turn, without_setTask]
  · rw [without_setTask]

/-- **What concerns the task alone is not seen without it**, once it only waits. -/
theorem without_own {a : Action} (h : s.Waits t) (hOwn : s.isOwn t a = true) :
    (s.act env a).1.without t = s.without t := by
  cases a with
  | cancelTask u =>
    obtain rfl : u = t := of_decide_eq_true hOwn
    exact without_cancelTask s u
  | tick =>
    obtain ⟨rest, hQueue⟩ := queue_of_isOwn hOwn
    have hNext : s.tick env = State.resume env { s with queue := rest } t := by
      simp [tick, hQueue, perform]
    have hRest : State.without { s with queue := rest } t = s.without t := by
      simp [without, hQueue, Job.isTurnOf]
    show (s.tick env).without t = s.without t
    rw [hNext, without_resume (s := { s with queue := rest }) h, hRest]
  | _ => simp [isOwn] at hOwn

-- ---------------------------------------------------------------------------
-- A task that waits goes on waiting until it ends
-- ---------------------------------------------------------------------------

theorem Waits.congr (h : s.Waits t) (hTask : s'.tasks.get? t = s.tasks.get? t) : s'.Waits t := by
  obtain ⟨work, phase, hGet, hBegun, hLast⟩ := h
  exact ⟨work, phase, hTask.trans hGet, hBegun, hLast⟩

theorem Waits.setTask (h : s.Waits t) {task : Task} {work : Work} {phase : Phase}
    (hTask : s.tasks.get? u = some ⟨work, phase⟩) (hBegun : task.phase ≠ .ready)
    (hGoes : work.isLast = true ∨ phase.isOver = true →
      task.work.isLast = true ∨ task.phase.isOver = true) : (s.setTask u task).Waits t := by
  by_cases hu : t = u
  · subst hu
    obtain ⟨work', phase', hGet, -, hLast⟩ := h
    obtain ⟨rfl, rfl⟩ := Task.mk.inj (Option.some.inj (hTask.symm.trans hGet))
    exact ⟨task.work, task.phase, Registry.get?_insert_self _ _ _, hBegun, hGoes hLast⟩
  · exact h.congr (Registry.get?_insert_of_ne _ _ hu)

theorem Waits.wake (h : s.Waits t) (u : Ticket) (w : Wake) : (s.wake u w).Waits t := by
  rcases wake_cases s u w with ⟨work, hTask, hWake⟩ | hWake <;> rw [hWake]
  · have hSet : (s.setTask u ⟨work, .woken w⟩).Waits t :=
      h.setTask hTask (by simp) fun hLast => Or.inl (by simpa [Phase.isOver] using hLast)
    exact hSet
  · exact h

theorem Waits.collect (h : s.Waits t) (u : Ticket) (slot : Nat) (pantry : Pantry) :
    (s.collect u slot pantry).Waits t := by
  rcases collect_cases s u slot pantry with ⟨slots, slots', hTask, hCollect⟩ | hCollect
  · have hSet : (s.setTask u ⟨.preload slots', .suspended⟩).Waits t :=
      h.setTask hTask (by simp) fun _ => Or.inl rfl
    rcases hCollect with hCollect | ⟨_, hCollect⟩ <;> rw [hCollect]
    · exact hSet
    · exact hSet.wake _ _
  · rw [hCollect]
    exact h

/-- What is nobody's business leaves the task as it is. -/
theorem Waits.onBehalf (h : s.Waits t) (hFrame : OnBehalf none s s') : s'.Waits t :=
  h.congr (hFrame.others t (by simp))

theorem Waits.notify (h : s.Waits t) (settlement : Settlement) (w : Waiter) :
    (s.notify env settlement w).Waits t := by
  have hNote : ∀ {s : State} (e : Event), s.Waits t → (s.note e).Waits t := fun _ h => h
  cases w with
  | importing specifier citation session receiver =>
    have hComplete := h.onBehalf (onBehalf_complete env s session specifier citation settlement)
    cases receiver with
    | callback u script =>
      exact (hNote (.delivered u _) hComplete).onBehalf (onBehalf_runScript u script _)
    | task u => exact (hNote (.handed u _) hComplete).wake _ _
  | unbound specifier citation u =>
    have hHand : ∀ {s : State} (outcome : Outcome), s.Waits t → (s.handOver u outcome).Waits t :=
      fun outcome h => (hNote (.handed u outcome) h).wake _ _
    cases settlement with
    | kept pantry =>
      simp only [State.notify, completeUnbound]
      split
      · exact hHand _ h
      · exact h
    | broken fault => exact hHand _ h
    | cancelled => exact hHand _ (hNote _ h)
  | observer u => exact hNote _ h
  | resolver u => cases settlement <;> exact h.wake _ _
  | collector u slot =>
    cases settlement with
    | kept pantry => exact h.collect _ _ _
    | broken fault => exact h.wake _ _
    | cancelled => exact h.wake _ _
  | prefetcher =>
    cases settlement with
    | broken fault => exact hNote _ h
    | kept pantry => exact h
    | cancelled => exact h

theorem Waits.resume (h : s.Waits t) (u : Ticket) : (s.resume env u).Waits t := by
  by_cases hu : u = t
  · subst hu
    rcases resume_of_waits env h with hTurn | ⟨work, result, hTurn⟩ <;> rw [hTurn]
    · exact h
    · exact ⟨work, .ended result, Registry.get?_insert_self _ _ _, by simp, Or.inr rfl⟩
  · exact h.congr ((onBehalf_resume env s u).others t (by simpa using hu))

theorem Waits.tick (h : s.Waits t) : (s.tick env).Waits t := by
  unfold State.tick
  split
  · exact h
  · rename_i job rest hQueue
    have hPop : State.Waits { s with queue := rest } t := h
    cases job with
    | launch i => exact hPop.onBehalf (onBehalf_launch _ _ _)
    | land i => exact hPop.onBehalf (onBehalf_land _ _)
    | notify settlement w => exact hPop.notify _ _
    | resume u => exact hPop.resume u

theorem Waits.cancelTask (h : s.Waits t) (u : Ticket) : (s.cancelTask u).1.Waits t := by
  unfold State.cancelTask
  split
  · exact h
  · exact h
  · rename_i work hTask
    have hSet : (s.setTask u ⟨work, .woken .cancelled⟩).Waits t :=
      h.setTask hTask (by simp) fun _ => Or.inr rfl
    exact hSet
  · rename_i work phase _ _ hTask
    exact h.setTask hTask (by simp) fun _ => Or.inr rfl

theorem Waits.act (h : s.Waits t) (hRoster : s.Roster) (a : Action) : (s.act env a).1.Waits t := by
  have hNobody : (∀ work, a ≠ .start work) → s.number? a = none → (s.act env a).1.Waits t :=
    fun hOld hNone => h.onBehalf (hNone ▸ act_onBehalf hOld s)
  cases a with
  | start work =>
    have hKnown : s.tasks.get? t ≠ none := by
      obtain ⟨work, phase, hTask, -⟩ := h
      simp [hTask]
    exact h.congr (start_others hRoster hKnown work).1
  | cancelTask u => exact h.cancelTask u
  | tick => exact h.tick
  | _ => exact hNobody (by simp) rfl

-- ---------------------------------------------------------------------------
-- Runs
-- ---------------------------------------------------------------------------

/-- What a run is without what concerns a task alone. -/
def others (env : Setup) (t : Ticket) : List Action → State → List Action
  | [], _ => []
  | a :: rest, s =>
    if s.isOwn t a then others env t rest (s.act env a).1
    else a :: others env t rest (s.act env a).1

theorem Waits.actAll (h : s.Waits t) (hReach : Reachable env config s) (run : List Action) :
    (actAll env run s).1.Waits t := by
  induction run generalizing s with
  | nil => exact h
  | cons a run ih => exact ih (h.act hReach.roster a) (hReach.act a)

theorem Waits.taken (h : s.Waits t) (hRoster : s.Roster) : t < s.tickets := by
  obtain ⟨work, phase, hTask, -⟩ := h
  refine Nat.lt_of_not_le fun hLe => ?_
  simp [hRoster.used hLe] at hTask

theorem length_others_le (run : List Action) (s : State) :
    (others env t run s).length ≤ run.length := by
  induction run generalizing s with
  | nil => exact Nat.le_refl _
  | cons a run ih =>
    unfold others
    split
    · exact Nat.le_succ_of_le (ih _)
    · exact Nat.succ_le_succ (ih _)

theorem tickets_act_le (a : Action) (s : State) : s.tickets ≤ (s.act env a).1.tickets := by
  by_cases hStart : ∃ work, a = .start work
  · obtain ⟨work, rfl⟩ := hStart
    simp only [act, startTask]
    split
    · exact Nat.le_succ _
    · exact Nat.le_refl _
  · exact (act_onBehalf (fun work hEq => hStart ⟨work, hEq⟩) s).tickets

theorem tickets_actAll_le (run : List Action) (s : State) :
    s.tickets ≤ (actAll env run s).1.tickets := by
  induction run generalizing s with
  | nil => exact Nat.le_refl _
  | cons a run ih => exact Nat.le_trans (tickets_act_le a s) (ih _)

/-- **A run leads, without the task, to where the others lead by themselves**, if the task only
waits or if nothing in the run concerns it alone. -/
theorem without_actAll (hReach : Reachable env config s) (hTaken : t < s.tickets)
    {run : List Action} (h : s.Waits t ∨ others env t run s = run) :
    (actAll env run s).1.without t = (actAll env (others env t run s) (s.without t)).1 := by
  induction run generalizing s with
  | nil => rfl
  | cons a run ih =>
    have hTaken' : t < (s.act env a).1.tickets := Nat.lt_of_lt_of_le hTaken (tickets_act_le a s)
    by_cases hOwn : s.isOwn t a = true
    · have hWaits : s.Waits t := by
        refine h.resolve_right fun hAll => ?_
        rw [others, if_pos hOwn] at hAll
        have hLe : (others env t run (s.act env a).1).length ≤ run.length := length_others_le _ _
        rw [hAll, List.length_cons] at hLe
        omega
      have hNext := ih (hReach.act a) hTaken' (Or.inl (hWaits.act hReach.roster a))
      rw [without_own hWaits hOwn] at hNext
      rw [others, if_pos hOwn]
      exact hNext
    · have hRest : (s.act env a).1.Waits t ∨ others env t run (s.act env a).1 = run := by
        refine h.imp (fun hWaits => hWaits.act hReach.roster a) fun hAll => ?_
        rw [others, if_neg hOwn] at hAll
        exact (List.cons.inj hAll).2
      have hAct := without_act env (a := a) hTaken (Bool.eq_false_iff.mpr hOwn)
      rw [others, if_neg hOwn]
      simp only [actAll, hAct]
      exact ih (hReach.act a) hTaken' hRest

theorem queue_own_turn (h : s.Waits t) (hOwn : s.isOwn t .tick = true) :
    (s.tick env).queue = s.queue.tail := by
  obtain ⟨rest, hQueue⟩ := queue_of_isOwn hOwn
  have hNext : s.tick env = State.resume env { s with queue := rest } t := by
    simp [tick, hQueue, perform]
  rcases resume_of_waits (s := { s with queue := rest }) env h with hTurn | ⟨work, result, hTurn⟩
  all_goals
    rw [hNext, hTurn, hQueue]
    rfl

/-- The task takes the turns that stand before those of the others. -/
theorem exists_turns (hReach : Reachable env config s) (h : s.Waits t) :
    ∃ turns, (∀ a ∈ turns, a = .tick) ∧ (actAll env turns s).1.isOwn t .tick = false ∧
      ∀ run, others env t (turns ++ run) s = others env t run (actAll env turns s).1 := by
  generalize hLength : s.queue.length = n
  induction n generalizing s with
  | zero =>
    have hQueue : s.queue = [] := List.length_eq_zero_iff.mp hLength
    exact ⟨[], by simp, by simp [actAll, isOwn, hQueue], fun _ => rfl⟩
  | succ n ih =>
    by_cases hOwn : s.isOwn t .tick = true
    · have hShorter : (s.tick env).queue.length = n := by
        rw [queue_own_turn h hOwn, List.length_tail, hLength, Nat.add_sub_cancel]
      obtain ⟨turns, hTurns, hLast, hRun⟩ := ih (hReach.act .tick) h.tick hShorter
      refine ⟨.tick :: turns, by simpa using hTurns, hLast, fun run => ?_⟩
      rw [List.cons_append, others, if_pos hOwn]
      exact hRun run
    · exact ⟨[], by simp, Bool.eq_false_iff.mpr hOwn, fun _ => rfl⟩

/-- **Everything that the others can do without the task they can do with it.** -/
theorem exists_run (hReach : Reachable env config s) (h : s.Waits t) {actions : List Action}
    (hOthers : ∀ a ∈ actions, a ≠ .cancelTask t) :
    ∃ run, (∀ a ∈ run, a ≠ .cancelTask t) ∧ others env t run s = actions := by
  induction actions generalizing s with
  | nil => exact ⟨[], by simp, rfl⟩
  | cons a actions ih =>
    obtain ⟨hNot, hRest⟩ := List.forall_mem_cons.mp hOthers
    -- before a turn of the others the task has to take its own
    obtain ⟨turns, hTurns, hOwn, hRun⟩ : ∃ turns, (∀ b ∈ turns, b = .tick) ∧
        (actAll env turns s).1.isOwn t a = false ∧
        ∀ run, others env t (turns ++ run) s = others env t run (actAll env turns s).1 := by
      cases a with
      | tick => exact exists_turns hReach h
      | cancelTask u =>
        exact ⟨[], by simp, decide_eq_false fun hu => hNot (hu ▸ rfl), fun _ => rfl⟩
      | _ => exact ⟨[], by simp, rfl, fun _ => rfl⟩
    have hReach' : Reachable env config (actAll env turns s).1 := hReach.actAll turns
    have hWaits' : (actAll env turns s).1.Waits t := h.actAll hReach turns
    obtain ⟨run, hFree, hSame⟩ :=
      ih (hReach'.act a) (hWaits'.act hReach'.roster a) hRest
    refine ⟨turns ++ a :: run, ?_, ?_⟩
    · intro b hb
      rcases List.mem_append.mp hb with hTurn | hLater
      · rw [hTurns b hTurn]
        simp
      · rcases List.mem_cons.mp hLater with rfl | hRunning
        · exact hNot
        · exact hFree b hRunning
    · rw [hRun, others, if_neg (Bool.eq_false_iff.mp hOwn), hSame]

-- ---------------------------------------------------------------------------
-- A task that is cancelled
-- ---------------------------------------------------------------------------

/-- Whether two states agree in everything but one task: what is resolved, pending and known by
location, all discoveries with their calls, their promises and those who wait for them, what each
compilation has been given, what is queued for the others, where their tasks stand, and all that has
happened, the end of that task apart. -/
structure Alike (t : Ticket) (s s' : State) : Prop where
  cache : s'.cache = s.cache
  sessions : s'.sessions = s.sessions
  queue : (s'.queue.filter fun job => !job.isTurnOf t) = s.queue.filter fun job => !job.isTurnOf t
  tasks : ∀ u, u ≠ t → s'.tasks.get? u = s.tasks.get? u
  journal : (s'.journal.filter fun e => !e.isEndOf t) = s.journal.filter fun e => !e.isEndOf t
  -- whatever the others do next, they are answered alike
  answers : ∀ (env : Setup) (a : Action), s.isOwn t a = false → s'.isOwn t a = false →
    (s'.act env a).2 = (s.act env a).2

theorem alike_of_without (hTaken : t < s.tickets) (hSame : s'.without t = s.without t) :
    Alike t s s' := by
  have hField : ∀ {α : Type} (field : State → α), field (s'.without t) = field (s.without t) :=
    fun field => congrArg field hSame
  constructor
  case cache => exact hField State.cache
  case sessions => exact hField State.sessions
  case queue => exact hField State.queue
  case journal => exact hField State.journal
  case tasks =>
    intro u hu
    rw [← get?_without_of_ne hu, hSame, get?_without_of_ne hu]
  case answers =>
    intro env a hOther hOther'
    have hTaken' : t < s'.tickets := (hField State.tickets).symm ▸ hTaken
    have hAct := without_act env hTaken hOther
    have hAct' := without_act env hTaken' hOther'
    rw [hSame, hAct] at hAct'
    exact (congrArg Prod.snd hAct').symm

theorem cancelTask_not_in_others (run : List Action) (s : State) :
    ∀ a ∈ others env t run s, a ≠ .cancelTask t := by
  induction run generalizing s with
  | nil => simp [others]
  | cons a run ih =>
    unfold others
    split
    · exact ih _
    · rename_i hOther
      refine List.forall_mem_cons.mpr ⟨?_, ih _⟩
      rintro rfl
      simp [isOwn] at hOther

theorem waits_cancelTask {work : Work} (hTask : s.tasks.get? t = some ⟨work, .suspended⟩) :
    (s.cancelTask t).1.Waits t := by
  have hCancel : (s.cancelTask t).1 =
      (s.setTask t ⟨work, .woken .cancelled⟩).enqueue [.resume t] := by
    simp [cancelTask, hTask]
  rw [hCancel]
  exact ⟨work, .woken .cancelled, Registry.get?_insert_self _ _ _, by simp, Or.inr rfl⟩

/-- **Cancelling a task that waits is not seen by anybody else.** A run after the cancelling and a
run without it, in which the others do the same, lead to states that agree in everything but the
task; no promise is cancelled with it, and what the others hear is the same. A task that has more
imports to make may go on with them if it is not cancelled, so the runs are compared up to there;
any other task can be compared for ever, and each of the two runs always has its like. -/
theorem cancel_unseen (hReach : Reachable env config s) {work : Work}
    (hTask : s.tasks.get? t = some ⟨work, .suspended⟩) :
    (∀ run run', others env t run (s.cancelTask t).1 = others env t run' s →
      work.isLast = true ∨ others env t run' s = run' →
      Alike t (actAll env run' s).1 (actAll env run (s.cancelTask t).1).1) ∧
    (∀ run', ∃ run, others env t run (s.cancelTask t).1 = others env t run' s) ∧
    (work.isLast = true → ∀ run, ∃ run', (∀ a ∈ run', a ≠ .cancelTask t) ∧
      others env t run' s = others env t run (s.cancelTask t).1) := by
  have hReach' : Reachable env config (s.cancelTask t).1 := hReach.act (.cancelTask t)
  have hWaits' : (s.cancelTask t).1.Waits t := waits_cancelTask hTask
  have hWaits : work.isLast = true → s.Waits t :=
    fun hLast => ⟨work, .suspended, hTask, by simp, Or.inl hLast⟩
  have hTaken : t < s.tickets := by
    refine Nat.lt_of_not_le fun hLe => ?_
    simp [hReach.roster.used hLe] at hTask
  refine ⟨fun run run' hOthers hCompared => ?_, fun run' => ?_, fun hLast run => ?_⟩
  · have hRun := without_actAll hReach hTaken (hCompared.imp_left hWaits)
    have hRun' : (actAll env run (s.cancelTask t).1).1.without t =
        (actAll env (others env t run (s.cancelTask t).1) ((s.cancelTask t).1.without t)).1 :=
      without_actAll hReach' (hWaits'.taken hReach'.roster) (Or.inl hWaits')
    have hTaken' : t < (actAll env run' s).1.tickets :=
      Nat.lt_of_lt_of_le hTaken (tickets_actAll_le run' s)
    refine alike_of_without hTaken' ?_
    rw [hRun, hRun', hOthers, without_cancelTask]
  · obtain ⟨run, _, hOthers⟩ := exists_run hReach' hWaits' (cancelTask_not_in_others run' s)
    exact ⟨run, hOthers⟩
  · exact exists_run hReach (hWaits hLast) (cancelTask_not_in_others run _)

/-- A callback and two tasks wait for the same pantry, one of them to import what the callback is to
have. -/
def sharing : State :=
  let what : Import := ⟨.named "main", .str "p/i", .str "/main.scss"⟩
  (actAll Setup.manual [.importing what .stop, .start (.imports [what] []), .start (.pantry "p"),
    .tick, .tick, .tick] (create Setup.manual Config.bare)).1

/-- A discovery comes back with the pantry. -/
def bringing : Action :=
  .release 0 ⟨[], .pantry ⟨none, some (.ofString "/p"), .ofList [("i",
    ⟨none, .ofString "/p/i", .ofList [("sass", "index.scss")]⟩)]⟩⟩

/-- The importing task is cancelled, or hears that its file was given before; the others go on alike
in both runs, and the pantry comes to the other task. -/
theorem cancel_unseen_sharing :
    let run : List Action := [.tick, bringing, .tick, .tick, .tick, .tick, .tick]
    let run' : List Action := [bringing, .tick, .tick, .tick, .tick, .tick, .tick]
    let s := (actAll Setup.manual run (sharing.cancelTask 1).1).1
    let s' := (actAll Setup.manual run' sharing).1
    Reachable Setup.manual Config.bare sharing ∧
      sharing.tasks.get? 1 = some ⟨.imports [] [], .suspended⟩ ∧
      s.taskResult? 1 = some .cancelled ∧ s'.taskResult? 1 = some (.outcomes [.suppressed]) ∧
      (∃ pantry, s'.taskResult? 2 = some (.pantry pantry)) ∧ Alike 1 s' s := by
  intro run run' s s'
  have hReach : Reachable Setup.manual Config.bare sharing := .actAll _ .create
  have hTask : sharing.tasks.get? 1 = some ⟨.imports [] [], .suspended⟩ := rfl
  have hOthers : others Setup.manual 1 run (sharing.cancelTask 1).1 =
    [bringing, .tick, .tick, .tick, .tick, .tick] := rfl
  have hOthers' : others Setup.manual 1 run' sharing =
    [bringing, .tick, .tick, .tick, .tick, .tick] := rfl
  have hAlike : Alike 1 s' s :=
    (cancel_unseen hReach hTask).1 run run' (hOthers.trans hOthers'.symm) (Or.inl rfl)
  have hEnd : s.taskResult? 1 = some .cancelled := rfl
  have hEnd' : s'.taskResult? 1 = some (.outcomes [.suppressed]) := rfl
  exact ⟨hReach, hTask, hEnd, hEnd', ⟨_, rfl⟩, hAlike⟩

end State

end Larder
