import Larder.Proofs.Importer.Delivery

/-!
# Larder — tasks are called, and those who wait fit them

A task goes on when its turn in the queue comes, and it is woken by whoever waits on its behalf.
So three things must never come apart: a task that can run has its turn in the queue; whoever waits
on behalf of a task of imports is an import; and the number that a callback is called under belongs
to no task. Each move keeps them (`Roster`).

## Results

* `Reachable.roster`: they hold in every reachable state.
-/

namespace Larder

-- ---------------------------------------------------------------------------
-- Vocabulary
-- ---------------------------------------------------------------------------

/-- Whether the work is to resolve imports that belong to compilations. -/
def Work.isImports : Work → Bool
  | .imports .. => true
  | _ => false

/-- The task on whose behalf someone waits. -/
def Waiter.task? : Waiter → Option Ticket
  | .importing _ _ _ (.task t) => some t
  | .unbound _ _ t => some t
  | .resolver t => some t
  | .collector t _ => some t
  | _ => none

/-- The number of the callback that is called when the one who waits is told. -/
def Waiter.callback? : Waiter → Option Ticket
  | .importing _ _ _ (.callback t _) => some t
  | _ => none

theorem Work.Continues.isImports_eq {w w' : Work} (h : w.Continues w') :
    w'.isImports = w.isImports := by
  cases w <;> cases w' <;> simp_all [Continues, isImports]

namespace State

variable {env : Setup} {cancels : Prop} {config : Config} {s s' : State} {t : Ticket}

/-- Whether the work of a task is to resolve imports, if there is such a task. -/
def takesImports? (s : State) (t : Ticket) : Option Bool :=
  (s.tasks.get? t).map fun task => task.work.isImports

structure Roster (s : State) : Prop where
  -- imports wait on behalf of tasks of imports, and no others do
  fits : ∀ w ∈ s.waiting, ∀ t, w.task? = some t → s.takesImports? t = some w.isImport
  apart : ∀ w ∈ s.waiting, ∀ t, w.callback? = some t → t < s.tickets ∧ s.tasks.get? t = none
  called : ∀ {t work phase}, s.tasks.get? t = some ⟨work, phase⟩ → phase.isRunnable = true →
    .resume t ∈ s.queue
  used : ∀ {t}, s.tickets ≤ t → s.tasks.get? t = none

-- ---------------------------------------------------------------------------
-- Changes that leave the tasks alone
-- ---------------------------------------------------------------------------

/-- Nobody new waits, and no turn of a task that can run is lost. -/
theorem Roster.frame (h : s.Roster) (hTasks : s'.tasks = s.tasks)
    (hTickets : s.tickets ≤ s'.tickets)
    (hWaiting : ∀ w ∈ s'.waiting, w ∈ s.waiting)
    (hQueue : ∀ {t work phase}, s.tasks.get? t = some ⟨work, phase⟩ → phase.isRunnable = true →
      .resume t ∈ s.queue → .resume t ∈ s'.queue) : s'.Roster where
  fits := by
    intro w hw t ht
    rw [takesImports?, hTasks]
    exact h.fits w (hWaiting w hw) t ht
  apart := by
    intro w hw t ht
    obtain ⟨hLt, hNone⟩ := h.apart w (hWaiting w hw) t ht
    exact ⟨Nat.lt_of_lt_of_le hLt hTickets, hTasks ▸ hNone⟩
  called := by
    intro t work phase hTask hRun
    rw [hTasks] at hTask
    exact hQueue hTask hRun (h.called hTask hRun)
  used := fun hLe => hTasks ▸ h.used (Nat.le_trans hTickets hLe)

theorem Roster.of_desk (h : s.Roster) (hDesk : s'.desk = s.desk)
    (hQueue : ∀ job ∈ s.queue, job ∈ s'.queue) : s'.Roster := by
  have hWaiting : s'.waiting = s.waiting := congrArg Desk.waiting hDesk
  have hTickets : s'.tickets = s.tickets := congrArg Desk.tickets hDesk
  exact h.frame (congrArg Desk.tasks hDesk) (Nat.le_of_eq hTickets.symm)
    (fun w hw => hWaiting ▸ hw) fun _ _ hTurn => hQueue _ hTurn

/-- A job that is no turn of a task that can run may leave the queue. -/
theorem Roster.pop (h : s.Roster) {job : Job} {rest : List Job} (hQueue : s.queue = job :: rest)
    (hOther : ∀ t work phase, job = .resume t → s.tasks.get? t = some ⟨work, phase⟩ →
      phase.isRunnable = false) : s.pop.Roster := by
  refine h.frame rfl (Nat.le_refl _) (fun w hw => ?_) fun {t work phase} hTask hRun hTurn => ?_
  · exact (waiting_pop hQueue).mem_iff.mpr (List.mem_append_right _ hw)
  · rw [hQueue, List.mem_cons] at hTurn
    rcases hTurn with hHead | hLater
    · simp [hOther t work phase hHead.symm hTask] at hRun
    · simpa [hQueue] using hLater

theorem Roster.enqueue (h : s.Roster) {jobs : List Job} (hNobody : jobs.flatMap Job.waiting = []) :
    (s.enqueue jobs).Roster :=
  h.of_desk (desk_enqueue hNobody) fun _ hJob => List.mem_append_left _ hJob

/-- Someone comes who fits. -/
theorem Roster.join (h : s.Roster) {w : Waiter} (hTasks : s'.tasks = s.tasks)
    (hTickets : s.tickets ≤ s'.tickets) (hWaiting : (w :: s.waiting).Perm s'.waiting)
    (hQueue : ∀ job ∈ s.queue, job ∈ s'.queue)
    (hFits : ∀ t, w.task? = some t → s.takesImports? t = some w.isImport)
    (hApart : ∀ t, w.callback? = some t → t < s'.tickets ∧ s.tasks.get? t = none) :
    s'.Roster where
  fits := by
    intro w' hw' t ht
    rw [takesImports?, hTasks]
    rcases List.mem_cons.mp (hWaiting.mem_iff.mpr hw') with rfl | hOld
    · exact hFits t ht
    · exact h.fits w' hOld t ht
  apart := by
    intro w' hw' t ht
    rw [hTasks]
    rcases List.mem_cons.mp (hWaiting.mem_iff.mpr hw') with rfl | hOld
    · exact hApart t ht
    · obtain ⟨hLt, hNone⟩ := h.apart w' hOld t ht
      exact ⟨Nat.lt_of_lt_of_le hLt hTickets, hNone⟩
  called := by
    intro t work phase hTask hRun
    rw [hTasks] at hTask
    exact hQueue _ (h.called hTask hRun)
  used := fun hLe => hTasks ▸ h.used (Nat.le_trans hTickets hLe)

theorem queue_request (env : Setup) (s : State) (name : String) :
    ∀ job ∈ s.queue, job ∈ (s.request env name).1.queue := by
  intro job hJob
  rcases request_cases env s name with ⟨p, _, h⟩ | ⟨i, _, _, h⟩ | ⟨_, _, h⟩ <;> rw [h]
  · exact hJob
  · exact hJob
  · exact List.mem_append_left _ hJob

theorem queue_attach (s : State) (handle : Handle) (w : Waiter) :
    ∀ job ∈ s.queue, job ∈ (s.attach handle w).queue := by
  intro job hJob
  rcases attach_cases s handle w with ⟨_, h⟩ | ⟨_, _, _, _, h⟩ | ⟨_, _, _, h⟩ <;> rw [h]
  · exact List.mem_append_left _ hJob
  · exact hJob
  · exact hJob

theorem queue_defer (s : State) (session : SessionId) (specifier : String) (citation : Citation)
    (receiver : Receiver) :
    ∀ job ∈ s.queue, job ∈ (s.defer env session specifier citation receiver).queue := by
  intro job hJob
  exact queue_attach _ _ _ job (queue_request env
    (s.note (.deferred receiver.ticket specifier citation.pantryName)) _ job hJob)

theorem tasks_defer (s : State) (session : SessionId) (specifier : String) (citation : Citation)
    (receiver : Receiver) : (s.defer env session specifier citation receiver).tasks = s.tasks :=
  congrArg Desk.tasks (desk_defer session specifier citation receiver)

theorem tickets_defer (s : State) (session : SessionId) (specifier : String) (citation : Citation)
    (receiver : Receiver) :
    (s.defer env session specifier citation receiver).tickets = s.tickets :=
  congrArg Desk.tickets (desk_defer session specifier citation receiver)

theorem queue_complete (env : Setup) (s : State) (session : SessionId) (specifier : String)
    (citation : Citation) (settlement : Settlement) :
    (s.complete env session specifier citation settlement).1.queue = s.queue := by
  rcases complete_cases env s session specifier citation settlement with
    ⟨_, _, _, _, _, h⟩ | ⟨_, h⟩ | ⟨_, _, h⟩ <;> rw [h] <;> rfl

theorem Roster.complete (h : s.Roster) (session : SessionId) (specifier : String)
    (citation : Citation) (settlement : Settlement) :
    (s.complete env session specifier citation settlement).1.Roster :=
  h.of_desk (desk_complete _ _ _ _ _ _) fun _ hJob => by rw [queue_complete]; exact hJob

theorem Roster.takeTicket (h : s.Roster) : s.takeTicket.Roster :=
  h.frame rfl (Nat.le_succ _) (fun _ => id) fun _ _ => id

theorem Roster.settle (h : s.Roster) (i : FlightId) (x : Settlement) : (s.settle i x).Roster :=
  h.frame rfl (Nat.le_refl _) (fun _ hw => (waiting_settle s i x).mem_iff.mpr hw)
    fun _ _ hTurn => List.mem_append_left _ hTurn

theorem Roster.landWith (h : s.Roster) (i : FlightId) (name : String) (landing : Landing) :
    (s.landWith i name landing).Roster :=
  h.frame rfl (Nat.le_refl _) (fun _ hw => (waiting_landWith s i name landing).mem_iff.mpr hw)
    fun _ _ hTurn => List.mem_append_left _ hTurn

-- ---------------------------------------------------------------------------
-- Changes of tasks
-- ---------------------------------------------------------------------------

/-- A task goes on with its work; it may run only when its turn is in the queue. -/
theorem Roster.setTask (h : s.Roster) {work : Work} {phase : Phase} {task : Task}
    (hTask : s.tasks.get? t = some ⟨work, phase⟩) (hWork : work.Continues task.work)
    (hCalled : task.phase.isRunnable = true → .resume t ∈ s.queue) : (s.setTask t task).Roster := by
  have hKind : ∀ u, (s.setTask t task).takesImports? u = s.takesImports? u := by
    intro u
    rw [takesImports?, tasks_setTask, Registry.get?_insert]
    split
    · rename_i hu
      subst hu
      simp [takesImports?, hTask, hWork.isImports_eq]
    · rfl
  have hNone : ∀ u, s.tasks.get? u = none → (s.setTask t task).tasks.get? u = none := by
    intro u hu
    have hNe : u ≠ t := by
      rintro rfl
      simp [hu] at hTask
    rw [tasks_setTask, Registry.get?_insert_of_ne _ _ hNe, hu]
  constructor
  case fits =>
    intro w hw u hu
    rw [hKind]
    exact h.fits w hw u hu
  case apart =>
    intro w hw u hu
    obtain ⟨hLt, hFree⟩ := h.apart w hw u hu
    exact ⟨hLt, hNone u hFree⟩
  case called =>
    intro u work' phase' hGet hRun
    rw [tasks_setTask, Registry.get?_insert] at hGet
    split at hGet
    · rename_i hu
      subst hu
      obtain rfl := Option.some.inj hGet
      exact hCalled hRun
    · exact h.called hGet hRun
  case used => exact fun hLe => hNone _ (h.used hLe)

theorem Roster.wake (h : s.Roster) (t : Ticket) (w : Wake) : (s.wake t w).Roster := by
  rcases wake_cases s t w with ⟨work, hTask, hWake⟩ | hWake <;> rw [hWake]
  · -- the turn is put into the queue first
    show ((s.enqueue [.resume t]).setTask t ⟨work, .woken w⟩).Roster
    exact (h.enqueue rfl).setTask hTask (Work.Continues.refl _) fun _ => by simp
  · exact h

theorem Roster.handOver (h : s.Roster) (t : Ticket) (outcome : Outcome) :
    (s.handOver t outcome).Roster := by
  have hNoted : (s.note (.handed t outcome)).Roster :=
    h.frame rfl (Nat.le_refl _) (fun _ => id) fun _ _ => id
  exact hNoted.wake t (.outcome outcome)

theorem Roster.collect (h : s.Roster) (t : Ticket) (slot : Nat) (pantry : Pantry) :
    (s.collect t slot pantry).Roster := by
  rcases collect_cases s t slot pantry with ⟨slots, slots', hTask, hCollect⟩ | hCollect
  · have hSet : (s.setTask t ⟨.preload slots', .suspended⟩).Roster :=
      h.setTask hTask (show Work.Continues (.preload slots) (.preload slots') from trivial)
        fun hRun => absurd hRun (by simp [Phase.isRunnable])
    rcases hCollect with hCollect | ⟨_, hCollect⟩ <;> rw [hCollect]
    · exact hSet
    · exact hSet.wake _ _
  · rw [hCollect]
    exact h

theorem Roster.notify (h : s.Roster) {w : Waiter} (hOther : w.isImport = false)
    (settlement : Settlement) : (s.notify env settlement w).Roster := by
  have hNote : ∀ e : Event, (s.note e).Roster := fun e =>
    h.frame rfl (Nat.le_refl _) (fun _ => id) fun _ _ => id
  cases w with
  | importing => exact absurd hOther (by simp [Waiter.isImport])
  | unbound specifier citation t =>
    cases settlement with
    | kept pantry =>
      simp only [State.notify, completeUnbound]
      split
      · exact h.handOver _ _
      · exact h
    | broken fault => exact h.handOver _ _
    | cancelled => exact (hNote _).handOver _ _
  | observer t => exact hNote _
  | resolver t => cases settlement <;> exact h.wake _ _
  | collector t slot =>
    cases settlement with
    | kept pantry => exact h.collect _ _ _
    | broken fault => exact h.wake _ _
    | cancelled => exact h.wake _ _
  | prefetcher =>
    cases settlement with
    | broken fault => exact hNote _
    | kept pantry => exact h
    | cancelled => exact h

theorem Roster.startTask (h : s.Roster) (work : Work) : (s.startTask env work).1.Roster := by
  unfold State.startTask
  split
  · have hFree : s.tasks.get? s.tickets = none := h.used (Nat.le_refl _)
    have hWaiting : ((s.takeTicket.setTask s.tickets ⟨work, .ready⟩).enqueue
        [.resume s.tickets]).waiting = s.waiting :=
      (waiting_enqueue _).trans (List.append_nil _)
    constructor
    case fits =>
      intro w hw u hu
      have hw : w ∈ s.waiting := hWaiting ▸ hw
      have hKind := h.fits w hw u hu
      have hNe : u ≠ s.tickets := by
        rintro rfl
        simp [takesImports?, hFree] at hKind
      rw [takesImports?, tasks_enqueue, tasks_setTask, Registry.get?_insert_of_ne _ _ hNe]
      exact hKind
    case apart =>
      intro w hw u hu
      have hw : w ∈ s.waiting := hWaiting ▸ hw
      obtain ⟨hLt, hNone⟩ := h.apart w hw u hu
      refine ⟨Nat.lt_succ_of_lt hLt, ?_⟩
      rw [tasks_enqueue, tasks_setTask, Registry.get?_insert_of_ne _ _ (Nat.ne_of_lt hLt)]
      exact hNone
    case called =>
      intro u work' phase' hGet hRun
      rw [tasks_enqueue, tasks_setTask, Registry.get?_insert] at hGet
      rw [queue_enqueue, List.mem_append]
      split at hGet
      · rename_i hu
        exact Or.inr (by rw [hu]; exact List.mem_singleton_self _)
      · exact Or.inl (h.called hGet hRun)
    case used =>
      intro u hLe
      have hLt : s.tickets < u := hLe
      rw [tasks_enqueue, tasks_setTask, Registry.get?_insert_of_ne _ _ (Nat.ne_of_gt hLt)]
      exact h.used (Nat.le_of_lt hLt)
  · exact h

theorem Roster.cancelTask (h : s.Roster) (t : Ticket) : (s.cancelTask t).1.Roster := by
  unfold State.cancelTask
  split
  · exact h
  · exact h
  · rename_i work hTask
    show ((s.enqueue [.resume t]).setTask t ⟨work, .woken .cancelled⟩).Roster
    exact (h.enqueue rfl).setTask hTask (Work.Continues.refl _) fun _ => by simp
  · rename_i work phase hEnded hSuspended hTask
    refine h.setTask hTask (Work.Continues.refl _) fun _ => h.called hTask ?_
    cases phase with
    | ready => rfl
    | woken w => rfl
    | suspended => exact absurd rfl hSuspended
    | ended result => exact absurd rfl (hEnded result)

/-- A task whose turn it is takes it, and stops. -/
theorem Roster.turn (h : s.Roster) {rest : List Job} {work work' : Work} {phase phase' : Phase}
    (hQueue : s.queue = .resume t :: rest) (hTask : s.tasks.get? t = some ⟨work, phase⟩)
    (hWork : work.Continues work') (hStop : phase'.isRunnable = false) :
    (s.pop.setTask t ⟨work', phase'⟩).Roster := by
  have hSet : (s.setTask t ⟨work', phase'⟩).Roster :=
    h.setTask hTask hWork fun hRun => absurd hRun (by simp [hStop])
  refine hSet.pop hQueue fun u work'' phase'' hJob hGet => ?_
  obtain rfl := Job.resume.inj hJob
  rw [tasks_setTask, Registry.get?_insert_self] at hGet
  obtain ⟨_, rfl⟩ := Task.mk.inj (Option.some.inj hGet)
  exact hStop

-- ---------------------------------------------------------------------------
-- Moves
-- ---------------------------------------------------------------------------

theorem Move.roster (hMove : Move env cancels s s') (hSound : s.fleet.Sound) (h : s.Roster) :
    s'.Roster := by
  -- jobs that are no turns may leave the queue
  have hPop : ∀ {job rest}, s.queue = job :: rest → (∀ t, job ≠ .resume t) → s.pop.Roster :=
    fun hQueue hOther => h.pop hQueue fun t _ _ hJob => absurd hJob (hOther t)
  have hKind : ∀ {t kind}, s.TaskIs t kind → ∀ b, (∀ work, kind work → work.isImports = b) →
      s.takesImports? t = some b := by
    rintro t kind ⟨work, phase, hTask, hWork⟩ b hAll
    simp [takesImports?, hTask, hAll work hWork]
  cases hMove with
  | remark => exact h.frame rfl (Nat.le_refl _) (fun _ => id) fun _ _ => id
  | number => exact h.takeTicket
  | give => exact h.of_desk (desk_giveOnce _ _ _) fun _ => id
  | request => exact h.of_desk (desk_request _ _ _) (queue_request _ _ _)
  | @attach name handle w hOffer hAdmit =>
    refine h.join (tasks_attach _ _ _) (Nat.le_of_eq (tickets_attach _ _ _).symm)
      (waiting_attach hSound w hOffer) (queue_attach _ _ _) (fun t ht => ?_) fun t ht => ?_
    · cases w with
      | importing => exact hAdmit.elim
      | unbound specifier citation u =>
        obtain rfl := Option.some.inj ht
        exact hKind hAdmit.2 false fun work hWork => by
          cases work <;> simp_all [Work.isUnbound, Work.isImports]
      | resolver u =>
        obtain rfl := Option.some.inj ht
        exact hKind hAdmit false fun work hWork => by rw [hWork]; rfl
      | collector u slot =>
        obtain rfl := Option.some.inj ht
        obtain ⟨slots, hTask⟩ := hAdmit
        simp [takesImports?, hTask, Work.isImports, Waiter.isImport]
      | observer => exact absurd ht (by simp [Waiter.task?])
      | prefetcher => exact absurd ht (by simp [Waiter.task?])
    · cases w with
      | importing => exact hAdmit.elim
      | _ => exact absurd ht (by simp [Waiter.callback?])
  | @defer session specifier citation script hNone =>
    have hTickets : ((s.defer env session specifier citation
        (.callback s.tickets script)).takeTicket).tickets = s.tickets + 1 := by
      rw [tickets_takeTicket, tickets_defer]
    refine h.join (tasks_defer _ _ _ _ _) (by rw [hTickets]; exact Nat.le_succ _)
      (waiting_defer hSound session specifier citation _)
      (queue_defer s session specifier citation _)
      (fun t ht => absurd ht (by simp [Waiter.task?])) fun t ht => ?_
    rw [hTickets, ← Option.some.inj ht]
    exact ⟨Nat.lt_succ_self _, h.used (Nat.le_refl _)⟩
  | cancel => exact h.settle _ _
  | @launch i rest f hQueue hFlight =>
    have hPopped : s.pop.Roster := hPop hQueue (by simp)
    have hStage : (s.pop.withCache (s.pop.cache.setStage i .flying)).Roster :=
      hPopped.of_desk (desk_setStage _ _) fun _ => id
    exact hStage.frame rfl (Nat.le_refl _) (fun _ => id) fun _ _ => id
  | landNow => exact h.landWith _ _ _
  | @comeBack i f landing hFlight hFlying =>
    have hStage : (s.withCache (s.cache.setStage i (.landing landing))).Roster :=
      h.of_desk (desk_setStage _ _) fun _ => id
    exact hStage.enqueue rfl
  | land hQueue => exact (hPop hQueue (by simp)).landWith _ _ _
  | deliver hQueue =>
    exact ((hPop hQueue (by simp)).complete _ _ _ _).frame rfl (Nat.le_refl _) (fun _ => id)
      fun _ _ => id
  | hand hQueue => exact ((hPop hQueue (by simp)).complete _ _ _ _).handOver _ _
  | tell hQueue hOther => exact (hPop hQueue (by simp)).notify hOther _
  | startTask => exact h.startTask _
  | cancelTask => exact h.cancelTask _
  | @deferTask t rest work phase session specifier citation more outcomes hQueue hTask hPhase hWork
      hNone =>
    have hSound' : s.pop.fleet.Sound := sound_pop hSound hQueue fun _ => rfl
    have hTurn : (s.pop.setTask t ⟨.imports more outcomes, .suspended⟩).Roster :=
      h.turn hQueue hTask hWork rfl
    have hTasks : ((s.pop.defer env session specifier citation (.task t)).setTask t
        ⟨.imports more outcomes, .suspended⟩).tasks =
        (s.pop.setTask t ⟨.imports more outcomes, .suspended⟩).tasks := by
      rw [tasks_setTask, tasks_setTask, tasks_defer]
    have hTickets : ((s.pop.defer env session specifier citation (.task t)).setTask t
        ⟨.imports more outcomes, .suspended⟩).tickets = s.tickets := by
      rw [tickets_setTask, tickets_defer, tickets_pop]
    refine hTurn.join hTasks (Nat.le_of_eq hTickets.symm)
      (waiting_defer hSound' session specifier citation (.task t))
      (queue_defer s.pop session specifier citation (.task t))
      (fun u hu => ?_) fun u hu => absurd hu (by simp [Waiter.callback?])
    rw [← Option.some.inj hu, takesImports?, tasks_setTask, Registry.get?_insert_self]
    rfl
  | park hQueue hTask _ hWork => exact h.turn hQueue hTask hWork rfl
  | finish hQueue hTask _ hWork =>
    exact (h.turn hQueue hTask hWork rfl).frame rfl (Nat.le_refl _) (fun _ => id) fun _ _ => id
  | @skip job rest hQueue hIdle =>
    refine h.pop hQueue fun t work phase hJob hTask => ?_
    subst hJob
    exact hIdle _ hTask

theorem roster_seeded (config : Config) : (seeded config).Roster := by
  have hNobody : (seeded config).waiting = [] := by
    show (Cache.ofSeeds config.pantries).flights.flatMap Flight.waiting ++ [] = []
    rw [(Cache.ofSeeds_empty config.pantries).2]
    rfl
  constructor
  case fits => exact fun w hw => absurd hw (by simp [hNobody])
  case apart => exact fun w hw => absurd hw (by simp [hNobody])
  case called => exact fun hTask => absurd hTask (by simp [seeded])
  case used => exact fun _ => rfl

theorem Moves.roster (h : Moves env cancels (seeded config) s) : s.Roster := by
  induction h with
  | refl => exact roster_seeded config
  | tail hMoves hMove ih => exact hMove.roster (Moves.sound hMoves) ih

theorem Reachable.roster (h : Reachable env config s) : s.Roster := h.moves.roster

end State

end Larder
