import Larder.Proofs.Importer.Roster

/-!
# Larder — on whose behalf something happens

An action, and a job when its turn comes, is the business of one number at most: of the task that
goes on, or of the deferred import that is told. Other tasks stay as they are, nobody comes to wait
under another number, and of the imports deferred under other numbers nothing is told, except under
numbers that were not taken before. Only the start of a task makes a new task.

## Results

* `act_onBehalf`: this frame holds for every action.
* `concern_cases`, `act_others`: what concerns a task, and what does not.
-/

namespace Larder

/-- The number of a task or a callback whose business a waiter is. -/
def Waiter.number? : Waiter → Option Ticket
  | .importing _ _ _ receiver => some receiver.ticket
  | .unbound _ _ t => some t
  | .resolver t => some t
  | .collector t _ => some t
  | _ => none

/-- The number whose business a job is. -/
def Job.number? : Job → Option Ticket
  | .notify _ w => w.number?
  | .resume t => some t
  | _ => none

namespace State

variable {env : Setup} {s s' s'' : State} {who : Option Ticket} {t : Ticket}

/-- The number whose business an action is. -/
def number? (s : State) : Action → Option Ticket
  | .cancelTask t => some t
  | .tick => s.queue.head?.bind Job.number?
  | _ => none

/-- Whether what happened between two states is the business of one number, if of any. -/
structure OnBehalf (who : Option Ticket) (s s' : State) : Prop where
  tickets : s.tickets ≤ s'.tickets
  kinds : ∀ t, s'.takesImports? t = s.takesImports? t
  others : ∀ t, who ≠ some t → s'.tasks.get? t = s.tasks.get? t
  log : ∀ t, who ≠ some t → t < s.tickets →
    s'.deferralsOf t = s.deferralsOf t ∧ s'.answersOf t = s.answersOf t
  waits : ∀ w ∈ s'.waiting, ∀ t, w.number? = some t → who ≠ some t → t < s.tickets →
    w ∈ s.waiting

namespace OnBehalf

theorem refl (who : Option Ticket) (s : State) : OnBehalf who s s :=
  ⟨Nat.le_refl _, fun _ => rfl, fun _ _ => rfl, fun _ _ _ => ⟨rfl, rfl⟩, fun _ hw _ _ _ _ => hw⟩

theorem trans (h : OnBehalf who s s') (h' : OnBehalf who s' s'') : OnBehalf who s s'' where
  tickets := Nat.le_trans h.tickets h'.tickets
  kinds := fun t => (h'.kinds t).trans (h.kinds t)
  others := fun t hOther => (h'.others t hOther).trans (h.others t hOther)
  log := fun t hOther hTaken => by
    obtain ⟨hDeferrals, hAnswers⟩ := h.log t hOther hTaken
    obtain ⟨hDeferrals', hAnswers'⟩ := h'.log t hOther (Nat.lt_of_lt_of_le hTaken h.tickets)
    exact ⟨hDeferrals'.trans hDeferrals, hAnswers'.trans hAnswers⟩
  waits := fun w hw t hNumber hOther hTaken =>
    h.waits w (h'.waits w hw t hNumber hOther (Nat.lt_of_lt_of_le hTaken h.tickets)) t hNumber
      hOther hTaken

/-- Where the tasks stay as they are, nobody comes to wait under another number, and nothing is told
of deferred imports. -/
theorem of_log (hTasks : s'.tasks = s.tasks) (hTickets : s.tickets ≤ s'.tickets)
    (hLog : s'.journal.filter Event.isDelivery = s.journal.filter Event.isDelivery)
    (hWaits : ∀ w ∈ s'.waiting, ∀ t, w.number? = some t → who ≠ some t → t < s.tickets →
      w ∈ s.waiting) : OnBehalf who s s' where
  tickets := hTickets
  kinds := fun t => by rw [takesImports?, takesImports?, hTasks]
  others := fun t _ => by rw [hTasks]
  log := fun t _ _ => by
    have hDesk : s'.desk.log = s.desk.log := hLog
    constructor
    · rw [← deferrals_desk, ← deferrals_desk, Desk.deferrals, Desk.deferrals, hDesk]
    · rw [← answers_desk, ← answers_desk, Desk.answers, Desk.answers, hDesk]
  waits := hWaits

/-- Where moreover nobody comes to wait at all. -/
theorem of_perm (hTasks : s'.tasks = s.tasks) (hTickets : s.tickets ≤ s'.tickets)
    (hLog : s'.journal.filter Event.isDelivery = s.journal.filter Event.isDelivery)
    (hWaiting : s.waiting.Perm s'.waiting) : OnBehalf who s s' :=
  .of_log hTasks hTickets hLog fun _ hw _ _ _ _ => hWaiting.mem_iff.mpr hw

theorem of_desk (h : s'.desk = s.desk) : OnBehalf who s s' := by
  have hTickets : s'.tickets = s.tickets := congrArg Desk.tickets h
  exact .of_perm (congrArg Desk.tasks h) (Nat.le_of_eq hTickets.symm) (congrArg Desk.log h)
    (.of_eq (congrArg Desk.waiting h).symm)

/-- A task that is there goes on with work of its kind. -/
theorem setTask (hWho : who = some t) {task : Task}
    (hKind : s.takesImports? t = some task.work.isImports) :
    OnBehalf who s (s.setTask t task) where
  tickets := Nat.le_refl _
  kinds := by
    intro u
    rw [takesImports?, tasks_setTask, Registry.get?_insert]
    split
    · rename_i hu
      rw [hu, hKind]
      rfl
    · rfl
  others := by
    intro u hOther
    have hNe : u ≠ t := fun hEq => hOther (hEq ▸ hWho)
    rw [tasks_setTask, Registry.get?_insert_of_ne _ _ hNe]
  log := fun _ _ _ => ⟨rfl, rfl⟩
  waits := fun _ hw _ _ _ _ => hw

/-- An event is told under one number, or under one that is new. -/
theorem note {e : Event} (h : ∀ t, who ≠ some t → t < s.tickets →
      e.isDeferralOf t = false ∧ e.isAnswerOf t = false) : OnBehalf who s (s.note e) where
  tickets := Nat.le_refl _
  kinds := fun _ => rfl
  others := fun _ _ => rfl
  log := by
    intro t hOther hTaken
    obtain ⟨hDeferral, hAnswer⟩ := h t hOther hTaken
    exact ⟨List.countP_cons_of_neg (by simp [hDeferral]),
      List.countP_cons_of_neg (by simp [hAnswer])⟩
  waits := fun _ hw _ _ _ _ => hw

theorem remark {e : Event} (h : e.isDelivery = false) : OnBehalf who s (s.note e) :=
  .of_desk (desk_note h)

end OnBehalf

-- ---------------------------------------------------------------------------
-- Nobody's business
-- ---------------------------------------------------------------------------

theorem onBehalf_request (env : Setup) (s : State) (name : String) :
    OnBehalf who s (s.request env name).1 :=
  .of_desk (desk_request env s name)

/-- Those who wait when someone has come to wait. -/
theorem mem_waiting_attach {handle : Handle} {w w' : Waiter}
    (h : w' ∈ (s.attach handle w).waiting) : w' ∈ s.waiting ∨ w' = w := by
  rcases attach_cases s handle w with
    ⟨x, hAttach⟩ | ⟨i, ws, _, hOpen, hAttach⟩ | ⟨_, _, _, hAttach⟩ <;> rw [hAttach] at h
  · rw [waiting_enqueue] at h
    rcases List.mem_append.mp h with hOld | hNew
    · exact Or.inl hOld
    · exact Or.inr (List.mem_singleton.mp hNew)
  · rcases List.mem_append.mp h with hPromise | hJob
    · obtain ⟨f', hf', hWaits⟩ := List.mem_flatMap.mp hPromise
      obtain ⟨j, hj⟩ := List.mem_iff_getElem?.mp hf'
      rw [cache_withCache, Cache.setPromise, Cache.getElem?_modifyFlight,
        Option.map_eq_some_iff] at hj
      obtain ⟨f, hGet, rfl⟩ := hj
      have hOld : w' ∈ f.waiting → w' ∈ s.waiting := fun hw' =>
        List.mem_append_left _ (List.mem_flatMap.mpr ⟨f, List.mem_of_getElem? hGet, hw'⟩)
      split at hWaits
      · rename_i hij
        subst hij
        rw [Cache.promise?, hGet, Option.map_some] at hOpen
        rcases List.mem_append.mp hWaits with hBefore | hNew
        · exact Or.inl (hOld (by simpa [Flight.waiting, Option.some.inj hOpen] using hBefore))
        · exact Or.inr (List.mem_singleton.mp hNew)
      · exact Or.inl (hOld hWaits)
    · exact Or.inl (List.mem_append_right _ hJob)
  · exact Or.inl h

theorem onBehalf_attach (s : State) (handle : Handle) {w : Waiter}
    (hWho : ∀ t, w.number? = some t → who = some t ∨ s.tickets ≤ t) :
    OnBehalf who s (s.attach handle w) := by
  refine .of_log (tasks_attach _ _ _) (Nat.le_of_eq (tickets_attach _ _ _).symm)
    (by rw [journal_attach]) fun w' hw' t hNumber hOther hTaken => ?_
  refine (mem_waiting_attach hw').resolve_right ?_
  rintro rfl
  rcases hWho t hNumber with hSame | hNew
  · exact hOther hSame
  · exact absurd hTaken (Nat.not_lt.mpr hNew)

theorem onBehalf_request_attach (env : Setup) (s : State) (name : String) {w : Waiter}
    (hWho : ∀ t, w.number? = some t → who = some t ∨ s.tickets ≤ t) :
    OnBehalf who s ((s.request env name).1.attach (s.request env name).2 w) :=
  (onBehalf_request env s name).trans
    (onBehalf_attach _ _ fun t hNumber => by rw [tickets_request]; exact hWho t hNumber)

theorem onBehalf_prefetchAll (names : List String) (s : State) :
    OnBehalf who s (prefetchAll env names s) := by
  induction names generalizing s with
  | nil => exact .refl _ _
  | cons name rest ih =>
    have hAsked : OnBehalf who s
        ((s.request env name).1.attach (s.request env name).2 .prefetcher) :=
      onBehalf_request_attach env s name (by simp [Waiter.number?])
    exact hAsked.trans (ih _)

theorem onBehalf_takeTicket (s : State) : OnBehalf who s s.takeTicket :=
  .of_perm rfl (Nat.le_succ _) rfl (.refl _)

theorem onBehalf_landWith (s : State) (i : FlightId) (name : String) (landing : Landing) :
    OnBehalf who s (s.landWith i name landing) := by
  have hResult : (resultEvent name (conclude name landing.returned)).isDelivery = false := by
    cases conclude name landing.returned <;> rfl
  refine .of_perm rfl (Nat.le_refl _) ?_ (waiting_landWith s i name landing)
  rw [filter_journal_landWith Event.isDelivery (fun _ => rfl)]
  simp [hResult]

theorem onBehalf_launch (env : Setup) (s : State) (i : FlightId) :
    OnBehalf who s (s.launch env i) := by
  unfold launch
  split
  · exact .refl _ _
  · rename_i f _
    have hCalled : OnBehalf who s
        ((s.withCache (s.cache.setStage i .flying)).note (.called f.call)) :=
      .of_perm rfl (Nat.le_refl _) rfl (.of_eq (waiting_setStage i .flying).symm)
    simp only
    split
    · exact hCalled
    · exact hCalled.trans (onBehalf_landWith _ _ _ _)

theorem onBehalf_land (s : State) (i : FlightId) : OnBehalf who s (s.land i) := by
  unfold land
  split
  · exact onBehalf_landWith _ _ _ _
  · exact .refl _ _

theorem onBehalf_complete (env : Setup) (s : State) (session : SessionId) (specifier : String)
    (citation : Citation) (settlement : Settlement) :
    OnBehalf who s (s.complete env session specifier citation settlement).1 :=
  .of_desk (desk_complete _ _ _ _ _ _)

-- ---------------------------------------------------------------------------
-- Imports
-- ---------------------------------------------------------------------------

/-- Deferring an import is told under its number. -/
theorem onBehalf_defer (s : State) (session : SessionId) (specifier : String) (citation : Citation)
    {receiver : Receiver} (hWho : who = some receiver.ticket ∨ s.tickets ≤ receiver.ticket) :
    OnBehalf who s (s.defer env session specifier citation receiver) := by
  refine OnBehalf.trans (.note fun t hOther hTaken => ⟨?_, rfl⟩)
    (onBehalf_request_attach env _ citation.pantryName fun t hNumber => ?_)
  case refine_2 => rwa [← Option.some.inj hNumber]
  have hNe : receiver.ticket ≠ t := by
    rintro rfl
    rcases hWho with hSame | hNew
    · exact hOther hSame
    · exact absurd hTaken (Nat.not_lt.mpr hNew)
  simp [Event.isDeferralOf, hNe]

theorem onBehalf_resolve (env : Setup) (s : State) (what : Import) {receiver : Receiver}
    (hWho : who = some receiver.ticket ∨ s.tickets ≤ receiver.ticket) :
    OnBehalf who s (s.resolve env what receiver).1 := by
  rcases resolve_cases env s what receiver with
    ⟨path, fresh, _, h⟩ | ⟨outcome, h⟩ | ⟨citation, _, _, h⟩ | ⟨_, _, hRemark, h⟩ <;> rw [h]
  · exact .of_desk (desk_giveOnce _ _ _)
  · exact .refl _ _
  · exact onBehalf_defer _ _ _ _ hWho
  · exact .remark (Event.isDelivery_of_isRemark hRemark)

theorem importing_eq (env : Setup) (s : State) (what : Import) (script : Script) :
    (s.importing env what script).1 = (s.resolve env what (.callback s.tickets script)).1 ∨
    (s.importing env what script).1 =
      (s.resolve env what (.callback s.tickets script)).1.takeTicket := by
  unfold importing
  simp only
  split
  · exact Or.inr rfl
  · split
    · exact Or.inr rfl
    · exact Or.inl rfl
  · exact Or.inl rfl

theorem onBehalf_importing (env : Setup) (s : State) (what : Import) (script : Script) :
    OnBehalf who s (s.importing env what script).1 := by
  have hResolve : OnBehalf who s (s.resolve env what (.callback s.tickets script)).1 :=
    onBehalf_resolve env s what (Or.inr (Nat.le_refl _))
  rcases importing_eq env s what script with h | h <;> rw [h]
  · exact hResolve
  · exact hResolve.trans (onBehalf_takeTicket _)

theorem onBehalf_runScript (t : Ticket) (script : Script) (s : State) :
    OnBehalf who s (runScript env t script s) := by
  induction script generalizing s with
  | stop => exact .refl _ _
  | fail => exact .refl _ _
  | importing what receive next _ ih =>
    exact ((onBehalf_importing env s what receive).trans (.remark rfl)).trans (ih _)

-- ---------------------------------------------------------------------------
-- Tasks
-- ---------------------------------------------------------------------------

theorem takesImports?_eq {work : Work} {phase : Phase}
    (hTask : s.tasks.get? t = some ⟨work, phase⟩) : s.takesImports? t = some work.isImports := by
  rw [takesImports?, hTask, Option.map_some]

theorem onBehalf_wake (s : State) (t : Ticket) (w : Wake) :
    OnBehalf (some t) s (s.wake t w) := by
  rcases wake_cases s t w with ⟨work, hTask, h⟩ | h <;> rw [h]
  · exact (OnBehalf.setTask rfl (takesImports?_eq hTask)).trans (.of_desk (desk_enqueue rfl))
  · exact .refl _ _

theorem onBehalf_collect (s : State) (t : Ticket) (slot : Nat) (pantry : Pantry) :
    OnBehalf (some t) s (s.collect t slot pantry) := by
  rcases collect_cases s t slot pantry with ⟨slots, slots', hTask, hCollect⟩ | h
  · have hKind : s.takesImports? t = some false := takesImports?_eq hTask
    have hSet : OnBehalf (some t) s (s.setTask t ⟨.preload slots', .suspended⟩) :=
      .setTask rfl hKind
    rcases hCollect with h | ⟨_, h⟩ <;> rw [h]
    · exact hSet
    · exact hSet.trans (onBehalf_wake _ _ _)
  · rw [h]
    exact .refl _ _

theorem onBehalf_handOver (s : State) (t : Ticket) (outcome : Outcome) :
    OnBehalf (some t) s (s.handOver t outcome) := by
  refine OnBehalf.trans (.note fun u hOther _ => ⟨rfl, ?_⟩) (onBehalf_wake _ _ _)
  have hNe : t ≠ u := fun hEq => hOther (hEq ▸ rfl)
  simp [Event.isAnswerOf, hNe]

theorem onBehalf_finish {work : Work} (hKind : s.takesImports? t = some work.isImports)
    (result : TaskResult) : OnBehalf (some t) s (s.finish t work result) :=
  (OnBehalf.setTask rfl hKind).trans (.remark rfl)

theorem onBehalf_notify (s : State) (settlement : Settlement) (w : Waiter) :
    OnBehalf w.number? s (s.notify env settlement w) := by
  cases w with
  | importing specifier citation session receiver =>
    refine (onBehalf_complete env s session specifier citation settlement).trans ?_
    cases receiver with
    | callback t script =>
      refine OnBehalf.trans (.note fun u hOther _ => ⟨rfl, ?_⟩) (onBehalf_runScript t script _)
      have hNe : t ≠ u := fun hEq => hOther (hEq ▸ rfl)
      simp [Event.isAnswerOf, hNe]
    | task t => exact onBehalf_handOver _ _ _
  | unbound specifier citation t =>
    cases settlement with
    | kept pantry =>
      simp only [notify, completeUnbound]
      split
      · exact onBehalf_handOver _ _ _
      · exact .refl _ _
    | broken fault => exact onBehalf_handOver _ _ _
    | cancelled => exact (OnBehalf.remark rfl).trans (onBehalf_handOver _ _ _)
  | observer t => exact .remark rfl
  | resolver t => cases settlement <;> exact onBehalf_wake _ _ _
  | collector t slot =>
    cases settlement with
    | kept pantry => exact onBehalf_collect _ _ _ _
    | broken fault => exact onBehalf_wake _ _ _
    | cancelled => exact onBehalf_wake _ _ _
  | prefetcher =>
    cases settlement with
    | broken fault => exact .remark rfl
    | kept pantry => exact .refl _ _
    | cancelled => exact .refl _ _

theorem onBehalf_runImports (rest : List Import) (outcomes : List Outcome) (s : State)
    (hKind : s.takesImports? t = some true) :
    OnBehalf (some t) s (runImports env t rest outcomes s) := by
  induction rest generalizing s outcomes with
  | nil => exact onBehalf_finish hKind _
  | cons what rest ih =>
    have hResolve : OnBehalf (some t) s (s.resolve env what (.task t)).1 :=
      onBehalf_resolve env s what (Or.inl rfl)
    have hKind' : (s.resolve env what (.task t)).1.takesImports? t = some true :=
      (hResolve.kinds t).trans hKind
    have hPark : OnBehalf (some t) s
        ((s.resolve env what (.task t)).1.setTask t ⟨.imports rest outcomes, .suspended⟩) :=
      hResolve.trans (.setTask rfl hKind')
    unfold runImports
    simp only
    split
    · split
      · exact hPark
      · exact hResolve.trans (ih _ _ hKind')
    · exact hResolve.trans (ih _ _ hKind')
    · exact hPark
    · exact hResolve.trans (onBehalf_finish hKind' _)

theorem onBehalf_runUnbound (specifier file : Value) (s : State)
    (hKind : s.takesImports? t = some false) :
    OnBehalf (some t) s (runUnbound env t specifier file s) := by
  have hPass : OnBehalf (some t) s (passUnbound env t (.unbound specifier file) s) := by
    unfold passUnbound
    split
    · exact .setTask rfl hKind
    · exact onBehalf_finish hKind _
  unfold runUnbound
  simp only
  split
  · exact hPass
  · exact hPass
  · split
    · exact onBehalf_finish hKind _
    · exact hPass
  · rename_i citation _
    split
    · split <;> exact onBehalf_finish hKind _
    · have hNoted : OnBehalf (some t) s
          (s.note (.deferredUnbound t specifier.text citation.pantryName)) := .remark rfl
      have hAsked := hNoted.trans (onBehalf_request_attach env _ citation.pantryName
        (w := .unbound specifier.text citation t) fun _ => Or.inl)
      exact hAsked.trans (.setTask rfl ((hAsked.kinds t).trans hKind))

theorem onBehalf_awaitPantry (name : String) (s : State) (hKind : s.takesImports? t = some false) :
    OnBehalf (some t) s (awaitPantry env t name s) := by
  have hRequest : OnBehalf (some t) s (s.request env name).1 := onBehalf_request env s name
  unfold awaitPantry
  simp only
  split
  · have hKind' : (s.request env name).1.takesImports? t = some false :=
      (hRequest.kinds t).trans hKind
    exact hRequest.trans (onBehalf_finish hKind' _)
  · rename_i i _
    have hAsked := hRequest.trans (onBehalf_attach _ (.shared i) (w := .resolver t) fun _ => Or.inl)
    exact hAsked.trans (.setTask rfl ((hAsked.kinds t).trans hKind))

theorem onBehalf_awaitAll (env : Setup) (t : Ticket) (slot : Nat) (names : List String)
    (s : State) : OnBehalf (some t) s (awaitAll env t slot names s) := by
  induction names generalizing s slot with
  | nil => exact .refl _ _
  | cons name names ih =>
    have hAsked := onBehalf_request_attach env s name (w := .collector t slot) fun _ => Or.inl
    exact hAsked.trans (ih _ _)

theorem onBehalf_awaitSeeds (s : State) (hKind : s.takesImports? t = some false) :
    OnBehalf (some t) s (awaitSeeds env t s) := by
  unfold awaitSeeds
  simp only
  split
  · exact onBehalf_finish hKind _
  · have hAll : OnBehalf (some t) s (awaitAll env t 0 s.cache.locations.keys s) :=
      onBehalf_awaitAll env t 0 _ s
    exact hAll.trans (.setTask rfl ((hAll.kinds t).trans hKind))

theorem onBehalf_resume (env : Setup) (s : State) (t : Ticket) :
    OnBehalf (some t) s (s.resume env t) := by
  unfold resume
  split
  · rename_i work hTask
    have hKind := takesImports?_eq hTask
    cases work with
    | imports rest outcomes => exact onBehalf_runImports _ _ _ hKind
    | unbound specifier file => exact onBehalf_runUnbound _ _ _ hKind
    | pantry name => exact onBehalf_awaitPantry _ _ hKind
    | preload slots => exact onBehalf_awaitSeeds _ hKind
  · rename_i work w hTask
    have hKind := takesImports?_eq hTask
    unfold goOn
    split
    · split
      · exact onBehalf_runImports _ _ _ hKind
      · exact onBehalf_finish hKind _
    all_goals exact onBehalf_finish hKind _
  · exact .refl _ _

-- ---------------------------------------------------------------------------
-- Actions
-- ---------------------------------------------------------------------------

theorem onBehalf_cancelTask (s : State) (t : Ticket) :
    OnBehalf (some t) s (s.cancelTask t).1 := by
  unfold cancelTask
  split
  · exact .refl _ _
  · exact .refl _ _
  · rename_i work hTask
    exact (OnBehalf.setTask rfl (takesImports?_eq hTask)).trans (.of_desk (desk_enqueue rfl))
  · rename_i work phase _ _ hTask
    exact .setTask rfl (takesImports?_eq hTask)

theorem onBehalf_tick (env : Setup) (s : State) :
    OnBehalf (s.number? .tick) s (s.tick env) := by
  show OnBehalf (s.queue.head?.bind Job.number?) s (s.tick env)
  unfold tick
  split
  · exact .refl _ _
  · rename_i job rest hQueue
    have hPop : OnBehalf job.number? s { s with queue := rest } :=
      .of_log rfl (Nat.le_refl _) rfl fun w hw _ _ _ _ => by
        rcases List.mem_append.mp hw with hPromise | hJob
        · exact List.mem_append_left _ hPromise
        · refine List.mem_append_right _ ?_
          rw [hQueue, List.flatMap_cons]
          exact List.mem_append_right _ hJob
    rw [hQueue, List.head?_cons, Option.bind_some]
    refine hPop.trans ?_
    cases job with
    | launch i => exact onBehalf_launch _ _ _
    | land i => exact onBehalf_land _ _
    | notify settlement w => exact onBehalf_notify _ _ _
    | resume t => exact onBehalf_resume _ _ _

/-- **What an action does is the business of one number at most**, unless it starts a task. -/
theorem act_onBehalf {a : Action} (hOld : ∀ work, a ≠ .start work) (s : State) :
    OnBehalf (s.number? a) s (s.act env a).1 := by
  cases a with
  | importing what script => exact onBehalf_importing _ _ _ _
  | request name =>
    simp only [act, requesting]
    split
    · exact (onBehalf_takeTicket s).trans
        (onBehalf_request_attach env _ name (by simp [Waiter.number?]))
    · exact .refl _ _
  | start work => exact absurd rfl (hOld work)
  | prefetch =>
    simp only [act, prefetch]
    split
    · exact .refl _ _
    · split
      · exact onBehalf_prefetchAll _ _
      · exact .refl _ _
  | cancelRequest name =>
    simp only [act, cancelRequest]
    split
    · split
      · exact onBehalf_request _ _ _
      · exact (onBehalf_request _ _ _).trans
          (.of_perm rfl (Nat.le_refl _) rfl (waiting_settle _ _ _))
    · exact .refl _ _
  | cancelPromise name =>
    simp only [act, cancelPromise]
    split
    · exact .refl _ _
    · exact .of_perm rfl (Nat.le_refl _) rfl (waiting_settle _ _ _)
  | cancelTask t => exact onBehalf_cancelTask _ _
  | release i landing =>
    simp only [act, release]
    split
    · exact .of_desk ((desk_enqueue rfl).trans (desk_setStage i _))
    · exact .refl _ _
  | tick => exact onBehalf_tick _ _

/-- A task that is there is none of those that are started. -/
theorem start_others (hRoster : s.Roster) (hKnown : s.tasks.get? t ≠ none) (work : Work) :
    (s.startTask env work).1.tasks.get? t = s.tasks.get? t ∧
      (s.startTask env work).1.journal = s.journal := by
  have hNe : t ≠ s.tickets := fun hEq => hKnown (hEq ▸ hRoster.used (Nat.le_refl _))
  unfold startTask
  split
  · exact ⟨Registry.get?_insert_of_ne _ _ hNe, rfl⟩
  · exact ⟨rfl, rfl⟩

/-- What concerns a number: the cancellation of its task, its turn, and telling someone whose
business it is. -/
theorem concern_cases {a : Action} (hMine : s.number? a = some t) :
    a = .cancelTask t ∨ a = .tick ∧ ((∃ rest, s.queue = .resume t :: rest) ∨
      ∃ x w rest, s.queue = .notify x w :: rest ∧ w ∈ s.waiting ∧ w.number? = some t) := by
  cases a with
  | cancelTask u => exact Or.inl (congrArg Action.cancelTask (Option.some.inj hMine))
  | tick =>
    refine Or.inr ⟨rfl, ?_⟩
    replace hMine : s.queue.head?.bind Job.number? = some t := hMine
    cases hQueue : s.queue with
    | nil => simp [hQueue] at hMine
    | cons job rest =>
      rw [hQueue, List.head?_cons, Option.bind_some] at hMine
      cases job with
      | launch i => exact absurd hMine (by simp [Job.number?])
      | land i => exact absurd hMine (by simp [Job.number?])
      | resume u => exact Or.inl ⟨rest, by rw [Option.some.inj hMine]⟩
      | notify x w =>
        have hIn : w ∈ s.waiting :=
          (waiting_pop hQueue).mem_iff.mpr (List.mem_append_left _ (List.mem_singleton_self w))
        exact Or.inr ⟨x, w, rest, rfl, hIn, hMine⟩
  | _ => exact absurd hMine (by simp [number?])

/-- Whatever does not concern a task that is there leaves it as it is, and nobody comes to wait on
its behalf. -/
theorem act_others (env : Setup) (hRoster : s.Roster) (hKnown : s.tasks.get? t ≠ none) {a : Action}
    (hOther : s.number? a ≠ some t) :
    (s.act env a).1.tasks.get? t = s.tasks.get? t ∧
      ∀ w ∈ (s.act env a).1.waiting, w.number? = some t → w ∈ s.waiting := by
  by_cases hStart : ∃ work, a = .start work
  · obtain ⟨work, rfl⟩ := hStart
    have hWaiting : (s.startTask env work).1.waiting = s.waiting :=
      waiting_of_aside (aside_startTask work)
    exact ⟨(start_others hRoster hKnown work).1, fun w hw _ => hWaiting ▸ hw⟩
  · have hFrame : OnBehalf (s.number? a) s (s.act env a).1 :=
      act_onBehalf (fun work hEq => hStart ⟨work, hEq⟩) s
    have hTaken : t < s.tickets := Nat.lt_of_not_le fun hLe => hKnown (hRoster.used hLe)
    exact ⟨hFrame.others t hOther, fun w hw hNumber => hFrame.waits w hw t hNumber hOther hTaken⟩

end State

end Larder
