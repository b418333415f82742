import Larder.Proofs.Importer.Chronicle

/-!
# Larder — those who wait, by themselves

Whether every deferred import is answered depends on who waits, be it for a promise or in the queue
to be told, on the tasks, and on what the journal tells of deferrals and answers. This part of a
state is its *desk*. A move of the importer is a chain of steps of the desk, of which there are
few: someone comes, someone is told, a task goes on. In which order those who wait stand does not
matter here.

## Results

* `Move.desk`: a move is a chain of steps of the desk.
* `waiting_of_quiet`: when nothing is under way, nobody waits.
-/

namespace Larder

-- ---------------------------------------------------------------------------
-- Vocabulary
-- ---------------------------------------------------------------------------

/-- Whether an event is about the deferral of an import or its answer. -/
def Event.isDelivery : Event → Bool
  | .deferred .. => true
  | .delivered .. => true
  | .handed .. => true
  | _ => false

theorem Event.isDelivery_of_isRemark {e : Event} (h : e.isRemark = true) :
    e.isDelivery = false := by
  cases e <;> simp_all [isRemark, isDelivery]

/-- Whether a completion can be given an outcome: a file, empty contents, or a failure. -/
def Outcome.IsDelivered (outcome : Outcome) : Prop :=
  (∃ path, outcome = .file path) ∨ outcome = .suppressed ∨
    ∃ specifier fault, outcome = .failure specifier fault

/-- Whether a waiter is a deferred import with this number. -/
def Waiter.isImportOf (t : Ticket) : Waiter → Bool
  | .importing _ _ _ receiver => receiver.ticket = t
  | _ => false

/-- Those who wait for the promise of a discovery. -/
def Flight.waiting (f : Flight) : List Waiter :=
  match f.promise with
  | .waiting ws => ws
  | .settled _ => []

/-- The one whom a job is to tell. -/
def Job.waiting : Job → List Waiter
  | .notify _ w => [w]
  | _ => []

/-- Whether a task is an import that is bound to no compilation. -/
def IsUnbound (tasks : Registry Ticket Task) (t : Ticket) : Prop :=
  ∃ work phase, tasks.get? t = some ⟨work, phase⟩ ∧ work.isUnbound = true

/-- Those who wait, and what is known of their numbers. -/
structure Desk where
  /-- Those who wait for a promise or are about to be told. -/
  waiting : List Waiter
  /-- What happened to deferred imports, the newest first. -/
  log : List Event
  /-- The tasks. -/
  tasks : Registry Ticket Task
  /-- The next number. -/
  tickets : Ticket

namespace Desk

/-- One change of a desk. -/
inductive Step : Desk → Desk → Prop where
  | shuffle {D ws} (hPerm : D.waiting.Perm ws) : Step D { D with waiting := ws }
  | number {D} : Step D { D with tickets := D.tickets + 1 }
  -- someone who is no import comes, or goes
  | come {D w} (hOther : w.isImport = false)
      (hBound : ∀ specifier citation t, w = .unbound specifier citation t → IsUnbound D.tasks t) :
      Step D { D with waiting := w :: D.waiting }
  | go {D w ws} (hWaiting : D.waiting = w :: ws) (hOther : w.isImport = false) :
      Step D { D with waiting := ws }
  -- an import is deferred for a callback, or for a task
  | deferCallback {D specifier citation session script}
      (hSpelled : Citation.ofString? specifier = some citation) :
      Step D ⟨.importing specifier citation session (.callback D.tickets script) :: D.waiting,
        .deferred D.tickets specifier citation.pantryName :: D.log, D.tasks, D.tickets + 1⟩
  | deferTask {D t work phase specifier citation session more outcomes}
      (hTask : D.tasks.get? t = some ⟨work, phase⟩) (hPhase : phase.takesImports = true)
      (hWork : work.Continues (.imports more outcomes))
      (hSpelled : Citation.ofString? specifier = some citation) :
      Step D ⟨.importing specifier citation session (.task t) :: D.waiting,
        .deferred t specifier citation.pantryName :: D.log,
        D.tasks.insert t ⟨.imports more outcomes, .suspended⟩, D.tickets⟩
  -- its outcome is delivered, or handed to the task
  | deliver {D specifier citation session t script ws outcome}
      (hWaiting : D.waiting = .importing specifier citation session (.callback t script) :: ws)
      (hOutcome : outcome.IsDelivered) :
      Step D { D with waiting := ws, log := .delivered t outcome :: D.log }
  | hand {D w t ws outcome tasks} (hWaiting : D.waiting = w :: ws)
      (hWaiter : (∃ specifier citation session, w = .importing specifier citation session (.task t)) ∨
        ∃ specifier citation, w = .unbound specifier citation t)
      (hOutcome : outcome.IsDelivered)
      (hTasks : tasks = D.tasks ∨ ∃ work, D.tasks.get? t = some ⟨work, .suspended⟩ ∧
        tasks = D.tasks.insert t ⟨work, .woken (.outcome outcome)⟩) :
      Step D ⟨ws, .handed t outcome :: D.log, tasks, D.tickets⟩
  -- a task begins, goes on or ends
  | begin {D work} :
      Step D ⟨D.waiting, D.log, D.tasks.insert D.tickets ⟨work, .ready⟩, D.tickets + 1⟩
  | task {D t work phase} {task : Task} (hTask : D.tasks.get? t = some ⟨work, phase⟩)
      (hWork : work.Continues task.work) (hPhase : task.phase.takesImports = false) :
      Step D { D with tasks := D.tasks.insert t task }

/-- A chain of changes. -/
abbrev Steps : Desk → Desk → Prop := Relation.ReflTransGen Step

end Desk

namespace State

/-- Those who wait for a promise, and those whom the queue is to tell. -/
def waiting (s : State) : List Waiter :=
  s.cache.flights.flatMap Flight.waiting ++ s.queue.flatMap Job.waiting

/-- Whether no job is left and no discovery is in flight. -/
def Quiet (s : State) : Prop :=
  s.queue = [] ∧ ∀ f ∈ s.cache.flights, f.live = false

/-- The desk of an importer. -/
def desk (s : State) : Desk where
  waiting := s.waiting
  log := s.journal.filter Event.isDelivery
  tasks := s.tasks
  tickets := s.tickets

variable {env : Setup} {cancels : Prop} {s s' : State}

-- ---------------------------------------------------------------------------
-- Who waits after a change
-- ---------------------------------------------------------------------------

theorem waiting_enqueue (jobs : List Job) :
    (s.enqueue jobs).waiting = s.waiting ++ jobs.flatMap Job.waiting := by
  simp [waiting, List.append_assoc]

theorem waiting_pop {job : Job} {rest : List Job} (hQueue : s.queue = job :: rest) :
    s.waiting.Perm (job.waiting ++ s.pop.waiting) := by
  simp only [waiting, cache_pop, queue_pop, hQueue, List.flatMap_cons, List.tail_cons]
  rw [← List.append_assoc, ← List.append_assoc]
  exact List.perm_append_comm.append_right _

theorem waiting_of_aside (h : Aside s s') : s'.waiting = s.waiting := by
  obtain ⟨hCache, _, ⟨ts, hQueue⟩, _⟩ := h
  have hNone : (ts.map Job.resume).flatMap Job.waiting = [] := by
    simp [List.flatMap_map, Job.waiting]
  simp [waiting, hCache, hQueue, hNone]

theorem waiting_setStage (i : FlightId) (stage : Stage) :
    (s.withCache (s.cache.setStage i stage)).waiting = s.waiting := by
  have hFlights : ∀ flights : List Flight,
      (flights.modify i fun f => { f with stage := stage }).flatMap Flight.waiting =
        flights.flatMap Flight.waiting := by
    intro flights
    induction flights generalizing i with
    | nil => simp
    | cons f flights ih =>
      cases i with
      | zero => simp [Flight.waiting]
      | succ i => simp [ih]
  simp [waiting, Cache.setStage, Cache.modifyFlight, hFlights]

theorem waiting_request (env : Setup) (s : State) (name : String) :
    (s.request env name).1.waiting = s.waiting := by
  rcases request_cases env s name with ⟨p, _, h⟩ | ⟨i, _, _, h⟩ | ⟨_, _, h⟩ <;> rw [h]
  · rfl
  · rw [waiting_enqueue]
    simp [waiting, Cache.start, Cache.newFlight, Flight.waiting, Job.waiting]

theorem waiters_eq {c : Cache} {i : FlightId} {f : Flight} (hFlight : c.flights[i]? = some f) :
    c.waiters i = f.waiting := by
  obtain ⟨call, stage, promise⟩ := f
  unfold Cache.waiters Cache.promise?
  rw [hFlight]
  cases promise <;> rfl

theorem waiting_settledWith (f : Flight) (x : Settlement) : (f.settledWith x).waiting = [] := by
  obtain ⟨call, stage, promise⟩ := f
  cases promise <;> rfl

/-- Those who wait for a promise are put into the queue when it is settled. -/
theorem waiting_settle (s : State) (i : FlightId) (x : Settlement) :
    s.waiting.Perm (s.settle i x).waiting := by
  have hJobs : ∀ ws : List Waiter, (ws.map fun w => Job.notify x w).flatMap Job.waiting = ws := by
    intro ws
    simp [List.flatMap_map, Job.waiting]
  rw [settle, waiting_enqueue, hJobs]
  simp only [waiting, cache_withCache, queue_withCache, Cache.settle_eq, Cache.modifyFlight]
  cases hFlight : s.cache.flights[i]? with
  | none =>
    have hNobody : s.cache.waiters i = [] := by simp [Cache.waiters, Cache.promise?, hFlight]
    rw [List.modify_eq_self (List.getElem?_eq_none_iff.mp hFlight), hNobody, List.append_nil]
  | some f =>
    obtain ⟨rest, hOld, hNew⟩ := flatMap_modify Flight.waiting (·.settledWith x) hFlight
    rw [waiting_settledWith, List.nil_append] at hNew
    rw [waiters_eq hFlight]
    refine (hOld.append_right _).trans ?_
    refine List.Perm.trans ?_ ((hNew.symm.append_right _).append_right _)
    rw [List.append_assoc]
    exact List.perm_append_comm

theorem waiting_landWith (s : State) (i : FlightId) (name : String) (landing : Landing) :
    s.waiting.Perm (s.landWith i name landing).waiting := by
  refine List.Perm.trans (List.Perm.of_eq ?_) (waiting_settle _ _ _)
  show s.waiting = State.waiting (State.withCache s
    ((s.cache.setStage i (.landed landing.returned)).conclude name i
      (conclude name landing.returned)))
  rw [← waiting_setStage i (.landed landing.returned)]
  simp only [waiting, cache_withCache, queue_withCache, flights_conclude]

/-- One who waits for what the cache has to offer is among those who wait. -/
theorem waiting_attach (hSound : s.fleet.Sound) {name : String} {handle : Handle} (w : Waiter)
    (hOffer : s.cache.Offers name handle) : (w :: s.waiting).Perm (s.attach handle w).waiting := by
  rcases attach_cases s handle w with ⟨x, h⟩ | ⟨i, ws, _, hPromise, h⟩ | ⟨i, hHandle, hNone, _⟩
  · rw [h, waiting_enqueue]
    exact (List.perm_append_singleton w s.waiting).symm
  · rw [h]
    rw [Cache.promise?, Option.map_eq_some_iff] at hPromise
    obtain ⟨f, hFlight, hPromise⟩ := hPromise
    obtain ⟨rest, hOld, hNew⟩ := flatMap_modify Flight.waiting
      (fun f => { f with promise := .waiting (ws ++ [w]) }) hFlight
    have hBefore : f.waiting = ws := by simp [Flight.waiting, hPromise]
    have hAfter : Flight.waiting { f with promise := .waiting (ws ++ [w]) } = ws ++ [w] := rfl
    rw [hBefore] at hOld
    rw [hAfter] at hNew
    have hMore : (w :: (ws ++ rest)).Perm (ws ++ [w] ++ rest) := by
      rw [List.append_assoc]
      exact List.perm_middle.symm
    show (w :: (_ ++ _)).Perm (List.flatMap _ _ ++ _)
    rw [← List.cons_append]
    exact (((hOld.cons w).trans hMore).trans hNew.symm).append_right _
  · -- what is in a slot is there
    subst hHandle
    obtain ⟨f, hServes, _⟩ := hSound.coherent.slot hOffer
    have hFlight : s.cache.flights[i]? = some f := hServes.1
    simp [Cache.promise?, hFlight] at hNone

-- ---------------------------------------------------------------------------
-- Changes that leave the desk alone, and those that only move waiters
-- ---------------------------------------------------------------------------

theorem desk_eq (hWaiting : s'.waiting = s.waiting)
    (hLog : s'.journal.filter Event.isDelivery = s.journal.filter Event.isDelivery)
    (hTasks : s'.tasks = s.tasks) (hTickets : s'.tickets = s.tickets) : s'.desk = s.desk := by
  simp only [desk, hWaiting, hLog, hTasks, hTickets]

theorem desk_note {e : Event} (h : e.isDelivery = false) : (s.note e).desk = s.desk :=
  desk_eq rfl (by simp [h]) rfl rfl

theorem desk_note_delivery {e : Event} (h : e.isDelivery = true) :
    (s.note e).desk = { s.desk with log := e :: s.desk.log } := by
  simp only [desk, journal_note, List.filter_cons, h, if_true]
  rfl

theorem desk_giveOnce (session : SessionId) (path : Path) (fresh : Outcome) :
    (s.giveOnce session path fresh).1.desk = s.desk := rfl

theorem desk_complete (env : Setup) (s : State) (session : SessionId) (specifier : String)
    (citation : Citation) (settlement : Settlement) :
    (s.complete env session specifier citation settlement).1.desk = s.desk := by
  rcases complete_cases env s session specifier citation settlement with
    ⟨_, _, _, _, _, h⟩ | ⟨_, h⟩ | ⟨_, _, h⟩ <;> rw [h]
  · exact desk_giveOnce _ _ _
  · exact desk_note rfl

theorem desk_request (env : Setup) (s : State) (name : String) :
    (s.request env name).1.desk = s.desk := by
  refine desk_eq (waiting_request _ _ _) ?_ (tasks_request _ _ _) (tickets_request _ _ _)
  rcases request_cases env s name with ⟨p, _, h⟩ | ⟨i, _, _, h⟩ | ⟨_, _, h⟩ <;> rw [h]
  · simp [Event.isDelivery]
  · simp [Event.isDelivery]

theorem desk_setStage (i : FlightId) (stage : Stage) :
    (s.withCache (s.cache.setStage i stage)).desk = s.desk :=
  desk_eq (waiting_setStage i stage) rfl rfl rfl

theorem desk_enqueue {jobs : List Job} (h : jobs.flatMap Job.waiting = []) :
    (s.enqueue jobs).desk = s.desk :=
  desk_eq (by rw [waiting_enqueue, h, List.append_nil]) rfl rfl rfl

theorem desk_pop {job : Job} {rest : List Job} (hQueue : s.queue = job :: rest)
    (hNobody : job.waiting = []) : s.pop.desk = s.desk := by
  refine desk_eq ?_ rfl rfl rfl
  simp [waiting, hQueue, hNobody]

theorem desk_settle (s : State) (i : FlightId) (x : Settlement) :
    Desk.Steps s.desk (s.settle i x).desk :=
  .single (.shuffle (waiting_settle s i x))

theorem desk_landWith (s : State) (i : FlightId) (name : String) (landing : Landing) :
    Desk.Steps s.desk (s.landWith i name landing).desk := by
  have hResult : (resultEvent name (conclude name landing.returned)).isDelivery = false := by
    cases conclude name landing.returned <;> rfl
  have hLog := filter_journal_landWith Event.isDelivery (fun _ => rfl) s i name landing
  rw [List.filter_cons_of_neg (by simp [hResult]), List.filter_nil, List.nil_append] at hLog
  have hStep : Desk.Step s.desk _ := .shuffle (waiting_landWith s i name landing)
  refine .single ?_
  simp only [desk, hLog]
  exact hStep

/-- Those who wait when an import has been deferred. -/
theorem waiting_defer (hSound : s.fleet.Sound) (session : SessionId) (specifier : String)
    (citation : Citation) (receiver : Receiver) :
    (.importing specifier citation session receiver :: s.waiting).Perm
      (s.defer env session specifier citation receiver).waiting := by
  have hSteps : Fleet.Steps env True s.fleet _ :=
    fleet_request env (s.note (.deferred receiver.ticket specifier citation.pantryName))
      citation.pantryName
  have hAttach := waiting_attach (hSound.steps hSteps)
    (.importing specifier citation session receiver) (offers_request _ _ _)
  rw [waiting_request] at hAttach
  exact hAttach

/-- What else there is on the desk then. -/
theorem desk_defer (session : SessionId) (specifier : String) (citation : Citation)
    (receiver : Receiver) :
    (s.defer env session specifier citation receiver).desk =
      ⟨(s.defer env session specifier citation receiver).waiting,
        .deferred receiver.ticket specifier citation.pantryName :: s.desk.log, s.tasks,
        s.tickets⟩ := by
  have hAsked : ((s.note (.deferred receiver.ticket specifier citation.pantryName)).request env
      citation.pantryName).1.desk = (s.note (.deferred receiver.ticket specifier _)).desk :=
    desk_request _ _ _
  rw [desk_note_delivery rfl] at hAsked
  have hLog := congrArg Desk.log hAsked
  simp only [desk] at hLog
  simp only [desk, defer, journal_attach, hLog, tasks_attach, tasks_request, tasks_note,
    tickets_attach, tickets_request, tickets_note]

-- ---------------------------------------------------------------------------
-- Tasks
-- ---------------------------------------------------------------------------

variable {t : Ticket}

theorem desk_setTask {work : Work} {phase : Phase} {task : Task}
    (hTask : s.tasks.get? t = some ⟨work, phase⟩) (hWork : work.Continues task.work)
    (hPhase : task.phase.takesImports = false) :
    Desk.Step s.desk (s.setTask t task).desk :=
  .task hTask hWork hPhase

theorem desk_wake (t : Ticket) {w : Wake} (hOther : (Phase.woken w).takesImports = false) :
    Desk.Steps s.desk (s.wake t w).desk := by
  rcases wake_cases s t w with ⟨work, hTask, h⟩ | h <;> rw [h]
  · rw [desk_enqueue rfl]
    exact .single (desk_setTask hTask (Work.Continues.refl _) hOther)

theorem desk_collect (t : Ticket) (slot : Nat) (pantry : Pantry) :
    Desk.Steps s.desk (s.collect t slot pantry).desk := by
  rcases collect_cases s t slot pantry with ⟨slots, slots', hTask, hCollect⟩ | h
  · have hStep : Desk.Step s.desk (s.setTask t ⟨.preload slots', .suspended⟩).desk :=
      desk_setTask hTask (show Work.Continues (.preload slots) (.preload slots') from trivial) rfl
    rcases hCollect with h | ⟨_, h⟩ <;> rw [h]
    · exact .single hStep
    · exact (Relation.ReflTransGen.single hStep).trans (desk_wake t rfl)
  · rw [h]

theorem desk_cancelTask (t : Ticket) : Desk.Steps s.desk (s.cancelTask t).1.desk := by
  unfold cancelTask
  split
  · exact .refl
  · exact .refl
  · rename_i work hTask
    rw [desk_enqueue rfl]
    exact .single (desk_setTask hTask (Work.Continues.refl _) rfl)
  · rename_i work phase _ _ hTask
    exact .single (desk_setTask hTask (Work.Continues.refl _) rfl)

theorem desk_startTask (work : Work) : Desk.Steps s.desk (s.startTask env work).1.desk := by
  unfold startTask
  split
  · rw [desk_enqueue rfl]
    exact .single .begin
  · exact .refl

/-- An outcome is handed to a task, which goes on with it if it waits. -/
theorem desk_handOver (t : Ticket) (outcome : Outcome) :
    (s.handOver t outcome).desk =
      ⟨s.waiting, .handed t outcome :: s.desk.log, (s.handOver t outcome).tasks, s.tickets⟩ ∧
    ((s.handOver t outcome).tasks = s.tasks ∨ ∃ work, s.tasks.get? t = some ⟨work, .suspended⟩ ∧
      (s.handOver t outcome).tasks = s.tasks.insert t ⟨work, .woken (.outcome outcome)⟩) := by
  have hWaiting : (s.handOver t outcome).waiting = s.waiting :=
    waiting_of_aside (aside_handOver t outcome)
  constructor
  · simp only [desk, hWaiting]
    simp [handOver, Event.isDelivery, List.filter_cons]
  · rw [handOver]
    rcases wake_cases (s.note (.handed t outcome)) t (.outcome outcome) with ⟨work, hTask, h⟩ | h
    · exact Or.inr ⟨work, hTask, by rw [h]; rfl⟩
    · exact Or.inl (by rw [h]; rfl)

-- ---------------------------------------------------------------------------
-- Those who are told
-- ---------------------------------------------------------------------------

variable {settlement : Settlement} {w : Waiter} {rest : List Job} {outcome : Outcome}

/-- The one who is told is the next to go. -/
theorem desk_next (hQueue : s.queue = .notify settlement w :: rest) :
    Desk.Step s.desk { s.desk with waiting := w :: s.pop.waiting } :=
  .shuffle (waiting_pop hQueue)

theorem desk_go (hQueue : s.queue = .notify settlement w :: rest) (hOther : w.isImport = false) :
    Desk.Steps s.desk s.pop.desk :=
  (Relation.ReflTransGen.single (desk_next hQueue)).tail (.go rfl hOther)

/-- The outcome is handed to the task that the one who is told stands for. -/
theorem desk_hand {s₁ : State} (hQueue : s.queue = .notify settlement w :: rest)
    (hDesk : s₁.desk = s.pop.desk)
    (hWaiter : (∃ specifier citation session, w = .importing specifier citation session (.task t)) ∨
      ∃ specifier citation, w = .unbound specifier citation t)
    (hOutcome : outcome.IsDelivered) : Desk.Steps s.desk (s₁.handOver t outcome).desk := by
  obtain ⟨hEq, hTasks⟩ := desk_handOver (s := s₁) t outcome
  have hWaiting : s₁.waiting = s.pop.waiting := congrArg Desk.waiting hDesk
  have hOld : s₁.tasks = s.tasks := congrArg Desk.tasks hDesk
  have hTickets : s₁.tickets = s.tickets := congrArg Desk.tickets hDesk
  rw [hOld] at hTasks
  rw [hEq, hWaiting, hTickets, hDesk]
  exact (Relation.ReflTransGen.single (desk_next hQueue)).tail (.hand rfl hWaiter hOutcome hTasks)

theorem isDelivered_resolveUnbound {specifier ingredient : String} {pantry : Pantry}
    (h : resolveUnbound env specifier pantry ingredient = .ok outcome) : outcome.IsDelivered := by
  unfold resolveUnbound at h
  split at h
  · obtain rfl := Except.ok.inj h
    exact Or.inr (Or.inr ⟨_, _, rfl⟩)
  · exact absurd h (by simp)

theorem isDelivered_complete (env : Setup) (s : State) (session : SessionId) (specifier : String)
    (citation : Citation) (settlement : Settlement) :
    (s.complete env session specifier citation settlement).2.IsDelivered := by
  rcases complete_cases env s session specifier citation settlement with
    ⟨_, path, _, _, _, h⟩ | ⟨_, h⟩ | ⟨_, _, h⟩ <;> rw [h]
  · show (if ((s.emission session).record path).2 then _ else _ : Outcome).IsDelivered
    split
    · exact Or.inl ⟨_, rfl⟩
    · exact Or.inr (Or.inl rfl)
  · exact Or.inr (Or.inr ⟨_, _, rfl⟩)
  · exact Or.inr (Or.inr ⟨_, _, rfl⟩)

/-- Someone who is no import is told. -/
theorem desk_notify (hQueue : s.queue = .notify settlement w :: rest)
    (hOther : w.isImport = false) : Desk.Steps s.desk (s.pop.notify env settlement w).desk := by
  have hGo : Desk.Steps s.desk s.pop.desk := desk_go hQueue hOther
  cases w with
  | importing => exact absurd hOther (by simp [Waiter.isImport])
  | unbound specifier citation t =>
    have hFailure : ∀ fault, (Outcome.failure specifier fault).IsDelivered :=
      fun fault => Or.inr (Or.inr ⟨_, _, rfl⟩)
    cases settlement with
    | kept pantry =>
      simp only [notify, completeUnbound]
      split
      · rename_i outcome hOutcome
        exact desk_hand hQueue rfl (Or.inr ⟨_, _, rfl⟩) (isDelivered_resolveUnbound hOutcome)
      · exact hGo
    | broken fault => exact desk_hand hQueue rfl (Or.inr ⟨_, _, rfl⟩) (hFailure _)
    | cancelled => exact desk_hand hQueue (desk_note rfl) (Or.inr ⟨_, _, rfl⟩) (hFailure _)
  | observer t =>
    simp only [notify]
    rw [desk_note rfl]
    exact hGo
  | resolver t =>
    cases settlement with
    | kept pantry => exact hGo.trans (desk_wake t rfl)
    | broken fault => exact hGo.trans (desk_wake t rfl)
    | cancelled => exact hGo.trans (desk_wake t rfl)
  | collector t slot =>
    cases settlement with
    | kept pantry => exact hGo.trans (desk_collect t slot pantry)
    | broken fault => exact hGo.trans (desk_wake t rfl)
    | cancelled => exact hGo.trans (desk_wake t rfl)
  | prefetcher =>
    cases settlement with
    | kept pantry => exact hGo
    | broken fault =>
      simp only [notify]
      rw [desk_note rfl]
      exact hGo
    | cancelled => exact hGo

-- ---------------------------------------------------------------------------
-- Moves
-- ---------------------------------------------------------------------------

theorem other_of_admits {name : String} (h : s.Admits name w) :
    w.isImport = false ∧
      ∀ specifier citation t, w = .unbound specifier citation t → IsUnbound s.tasks t := by
  cases w with
  | importing => exact h.elim
  | unbound specifier citation t =>
    refine ⟨rfl, ?_⟩
    rintro _ _ _ ⟨⟩
    exact h.2
  | observer => exact ⟨rfl, by rintro _ _ _ ⟨⟩⟩
  | resolver => exact ⟨rfl, by rintro _ _ _ ⟨⟩⟩
  | collector => exact ⟨rfl, by rintro _ _ _ ⟨⟩⟩
  | prefetcher => exact ⟨rfl, by rintro _ _ _ ⟨⟩⟩

/-- A move is a chain of steps of the desk. -/
theorem Move.desk (hSound : s.fleet.Sound) (h : Move env cancels s s') :
    Desk.Steps s.desk s'.desk := by
  cases h with
  | remark hRemark =>
    rw [desk_note (Event.isDelivery_of_isRemark hRemark)]
  | number => exact .single .number
  | give => exact .refl
  | request => rw [desk_request]
  | @attach name handle w hOffer hAdmit =>
    obtain ⟨hOther, hBound⟩ := other_of_admits hAdmit
    refine (Relation.ReflTransGen.single (.come hOther hBound)).tail ?_
    simp only [State.desk, journal_attach, tasks_attach, tickets_attach]
    exact .shuffle (waiting_attach hSound w hOffer)
  | @defer session specifier citation script hNone hSpelled =>
    have hStep : Desk.Step s.desk
        ⟨.importing specifier citation session (.callback s.tickets script) :: s.waiting,
          .deferred s.tickets specifier citation.pantryName :: s.desk.log, s.tasks,
          s.tickets + 1⟩ := .deferCallback hSpelled
    refine (Relation.ReflTransGen.single hStep).tail ?_
    show Desk.Step _ { State.desk (s.defer env session specifier citation _) with
      tickets := (State.desk (s.defer env session specifier citation _)).tickets + 1 }
    rw [desk_defer]
    exact .shuffle (waiting_defer hSound _ _ _ _)
  | cancel => exact desk_settle _ _ _
  | launch hQueue =>
    rw [desk_note rfl]
    show Desk.Steps _ (State.desk (s.pop.withCache (s.pop.cache.setStage _ _)))
    rw [desk_setStage, desk_pop hQueue rfl]
  | landNow => exact desk_landWith _ _ _ _
  | comeBack => rw [desk_enqueue rfl, desk_setStage]
  | land hQueue =>
    rw [← desk_pop hQueue rfl]
    exact desk_landWith _ _ _ _
  | @deliver settlement specifier citation session t script rest hQueue =>
    refine (Relation.ReflTransGen.single (desk_next hQueue)).tail ?_
    rw [desk_note_delivery rfl, desk_complete]
    exact .deliver rfl (isDelivered_complete _ _ _ _ _ _)
  | hand hQueue =>
    exact desk_hand hQueue (desk_complete _ _ _ _ _ _) (Or.inl ⟨_, _, _, rfl⟩)
      (isDelivered_complete _ _ _ _ _ _)
  | tell hQueue hOther => exact desk_notify hQueue hOther
  | startTask => exact desk_startTask _
  | cancelTask => exact desk_cancelTask _
  | @deferTask t rest work phase session specifier citation more outcomes hQueue hTask hPhase
      hWork hNone hSpelled =>
    have hSound' : s.pop.fleet.Sound := sound_pop hSound hQueue fun _ => rfl
    have hStep : Desk.Step s.pop.desk
        ⟨.importing specifier citation session (.task t) :: s.pop.waiting,
          .deferred t specifier citation.pantryName :: s.pop.desk.log,
          s.tasks.insert t ⟨.imports more outcomes, .suspended⟩, s.tickets⟩ :=
      .deferTask hTask hPhase hWork hSpelled
    rw [← desk_pop hQueue rfl]
    refine (Relation.ReflTransGen.single hStep).tail ?_
    show Desk.Step _ { State.desk (s.pop.defer env session specifier citation _) with
      tasks := (State.desk (s.pop.defer env session specifier citation _)).tasks.insert t _ }
    rw [desk_defer]
    exact .shuffle (waiting_defer hSound' _ _ _ _)
  | park hQueue hTask hPhase hWork =>
    rw [← desk_pop hQueue rfl]
    exact .single (desk_setTask hTask hWork rfl)
  | finish hQueue hTask hPhase hWork =>
    rw [← desk_pop hQueue rfl, State.finish, desk_note rfl]
    exact .single (desk_setTask hTask hWork rfl)
  | @skip job rest hQueue hIdle =>
    cases job with
    | notify => exact hIdle.elim
    | launch => rw [desk_pop hQueue rfl]
    | land => rw [desk_pop hQueue rfl]
    | resume => rw [desk_pop hQueue rfl]

/-- When nothing is under way, nobody waits. -/
theorem waiting_of_quiet (hSound : s.fleet.Sound) (hQuiet : s.Quiet) : s.waiting = [] := by
  obtain ⟨hQueue, hEnded⟩ := hQuiet
  rw [waiting, hQueue, List.flatMap_nil, List.append_nil, List.flatMap_eq_nil_iff]
  intro f hf
  obtain ⟨i, hi⟩ := List.mem_iff_getElem?.mp hf
  cases hPromise : f.promise with
  | settled x => simp [Flight.waiting, hPromise]
  | waiting ws =>
    -- whoever still waits, waits for a discovery in flight
    have hLive := Flight.live_of_waiting (hSound.coherent.consistent hi) hPromise
    simp [hEnded f hf] at hLive

end State

end Larder
