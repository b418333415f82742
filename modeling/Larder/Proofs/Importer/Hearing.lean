import Larder.Proofs.Importer.Behalf
import Mathlib.Data.List.Basic

/-!
# Larder — a task hears of all its imports

A task resolves imports one after another. It is given each outcome in one of two ways: at once,
when the import can be answered, or later, when the promise that the import waits for is settled.
`receptions` says for every action which imports are answered by it, with what, and by which way
the outcome goes; it is read off the answers of the importer and looks at no task. What a task
*hears* in a run are the outcomes that go to it.

A task that is not cancelled ends with what it heard, one outcome for each import. There is one way
to get stuck: where the host takes nothing for "resolve this import yourself", a task cannot tell
an import that is passed through from one that is deferred, and awaits an outcome that never comes.

## Results

* `Tally.act`: what a task heard and where it stands agree after every action.
* `ends_unless_passed_through`: when nothing is under way, every task of imports has ended, unless
  it was passed an import through where that means nothing.
-/

namespace Larder

-- ---------------------------------------------------------------------------
-- What imports are answered with
-- ---------------------------------------------------------------------------

/-- The way by which an outcome goes to whoever imported. -/
inductive Route where
  /-- Returned to the host at once. -/
  | host
  /-- Given to a completion callback. -/
  | callback (ticket : Ticket)
  /-- Returned at once to a callback that imports again. -/
  | nested (ticket : Ticket)
  /-- Returned at once to a task that runs. -/
  | task (ticket : Ticket)
  /-- Handed to a task for which an import was deferred. -/
  | handed (ticket : Ticket)
  deriving DecidableEq, Repr

/-- An import that is answered. -/
structure Reception where
  route : Route
  session : SessionId
  outcome : Outcome
  deriving DecidableEq, Repr

/-- What a task is given. -/
def Reception.forTask (t : Ticket) (r : Reception) : Option Outcome :=
  match r.route with
  | .task u => if u = t then some r.outcome else none
  | .handed u => if u = t then some r.outcome else none
  | _ => none

/-- What is given to whoever asked, if that is an answer. -/
def Reply.receptions (route : Route) (session : SessionId) : Reply → List Reception
  | .answered outcome => [⟨route, session, outcome⟩]
  | _ => []

/-- A deferred import is not passed through. -/
theorem Outcome.IsDelivered.ne_passThrough {outcome : Outcome} (h : outcome.IsDelivered) :
    outcome ≠ .passThrough := by
  rintro rfl
  simp [IsDelivered, Outcome.suppressed] at h

namespace State

/-- What the imports of a callback are answered with at once. -/
def scriptReceptions (env : Setup) (t : Ticket) : Script → State → List Reception
  | .stop, _ => []
  | .fail, _ => []
  | .importing what receive next, s =>
    let r := s.importing env what receive
    (s.resolve env what (.callback s.tickets receive)).2.receptions (.nested t) what.session ++
      scriptReceptions env t next (r.1.note (.nested t r.2))

/-- What the imports of a task are answered with at once, up to the first after which it has to
wait. -/
def taskReceptions (env : Setup) (t : Ticket) : List Import → State → List Reception
  | [], _ => []
  | what :: rest, s =>
    let r := s.resolve env what (.task t)
    match r.2 with
    | .answered outcome =>
      ⟨.task t, what.session, outcome⟩ ::
        if outcome = .passThrough ∧ env.passThrough.isNull = true then []
        else taskReceptions env t rest r.1
    | _ => []

/-- The imports that are answered by a job. -/
def jobReceptions (env : Setup) (s : State) : Job → List Reception
  | .notify settlement (.importing specifier citation session (.callback t script)) =>
    let r := s.complete env session specifier citation settlement
    ⟨.callback t, session, r.2⟩ :: scriptReceptions env t script (r.1.note (.delivered t r.2))
  | .notify settlement (.importing specifier citation session (.task t)) =>
    [⟨.handed t, session, (s.complete env session specifier citation settlement).2⟩]
  | .resume t =>
    match s.tasks.get? t with
    | some ⟨.imports rest _, phase⟩ =>
      if phase.takesImports then taskReceptions env t rest s else []
    | _ => []
  | _ => []

/-- The imports that are answered by an action. -/
def receptions (env : Setup) (s : State) : Action → List Reception
  | .importing what script =>
    (s.resolve env what (.callback s.tickets script)).2.receptions .host what.session
  | .tick =>
    match s.queue with
    | [] => []
    | job :: _ => s.pop.jobReceptions env job
  | _ => []

/-- The imports that are answered in a run. -/
def allReceptions (env : Setup) : List Action → State → List Reception
  | [], _ => []
  | a :: rest, s => s.receptions env a ++ allReceptions env rest (s.act env a).1

/-- What a task hears in a run. -/
def heard (env : Setup) (t : Ticket) (actions : List Action) (s : State) : List Outcome :=
  (allReceptions env actions s).filterMap (Reception.forTask t)

variable {env : Setup} {config : Config} {s s' : State} {t : Ticket}

-- ---------------------------------------------------------------------------
-- One import of a task
-- ---------------------------------------------------------------------------

/-- A task goes on after an answer, unless it takes it for a deferral. -/
theorem runImports_of_answered {what : Import} {rest : List Import} {outcomes : List Outcome}
    {outcome : Outcome} (h : s.resolve env what (.task t) = (s', .answered outcome)) :
    runImports env t (what :: rest) outcomes s =
      if outcome = .passThrough ∧ env.passThrough.isNull = true then
        s'.setTask t ⟨.imports rest outcomes, .suspended⟩
      else runImports env t rest (outcomes ++ [outcome]) s' := by
  rw [runImports, h]
  cases outcome <;> simp

theorem runImports_of_deferred {what : Import} {rest : List Import} {outcomes : List Outcome}
    {u : Ticket} (h : s.resolve env what (.task t) = (s', .deferred u)) :
    runImports env t (what :: rest) outcomes s =
      s'.setTask t ⟨.imports rest outcomes, .suspended⟩ := by
  rw [runImports, h]

theorem runImports_of_noLoop {what : Import} {rest : List Import} {outcomes : List Outcome}
    (h : s.resolve env what (.task t) = (s', .noLoop)) :
    runImports env t (what :: rest) outcomes s =
      s'.finish t (.imports rest outcomes) (.fault .noRunningLoop) := by
  rw [runImports, h]

theorem taskReceptions_of_answered {what : Import} {rest : List Import} {outcome : Outcome}
    (h : s.resolve env what (.task t) = (s', .answered outcome)) :
    taskReceptions env t (what :: rest) s =
      ⟨.task t, what.session, outcome⟩ ::
        if outcome = .passThrough ∧ env.passThrough.isNull = true then []
        else taskReceptions env t rest s' := by
  rw [taskReceptions, h]

theorem taskReceptions_of_unanswered {what : Import} {rest : List Import} {reply : Reply}
    (h : s.resolve env what (.task t) = (s', reply))
    (hReply : ∀ outcome, reply ≠ .answered outcome) :
    taskReceptions env t (what :: rest) s = [] := by
  rw [taskReceptions, h]
  cases reply with
  | answered outcome => exact absurd rfl (hReply outcome)
  | deferred u => rfl
  | noLoop => rfl

-- ---------------------------------------------------------------------------
-- What is not for a task
-- ---------------------------------------------------------------------------

theorem filterMap_receptions_of_other {route : Route}
    (h : ∀ session outcome, Reception.forTask t ⟨route, session, outcome⟩ = none)
    (session : SessionId) (reply : Reply) :
    (reply.receptions route session).filterMap (Reception.forTask t) = [] := by
  cases reply <;> simp [Reply.receptions, h]

theorem filterMap_scriptReceptions (u : Ticket) (script : Script) (s : State) :
    (scriptReceptions env u script s).filterMap (Reception.forTask t) = [] := by
  induction script generalizing s with
  | stop => rfl
  | fail => rfl
  | importing what receive next _ ih =>
    rw [scriptReceptions, List.filterMap_append, ih,
      filterMap_receptions_of_other fun _ _ => rfl]
    rfl

theorem route_taskReceptions (u : Ticket) (rest : List Import) (s : State) :
    ∀ r ∈ taskReceptions env u rest s, r.route = .task u := by
  induction rest generalizing s with
  | nil => simp [taskReceptions]
  | cons what rest ih =>
    unfold taskReceptions
    simp only
    split
    · intro r hr
      rcases List.mem_cons.mp hr with rfl | hr
      · rfl
      · split at hr
        · exact absurd hr (by simp)
        · exact ih _ r hr
    · simp

theorem filterMap_taskReceptions (rest : List Import) (s : State) :
    (taskReceptions env t rest s).filterMap (Reception.forTask t) =
      (taskReceptions env t rest s).map Reception.outcome := by
  refine List.filterMap_eq_map_iff_forall_eq_some.mpr fun r hr => ?_
  simp [Reception.forTask, route_taskReceptions t rest s r hr]

theorem filterMap_taskReceptions_of_ne {u : Ticket} (hNe : u ≠ t) (rest : List Import)
    (s : State) : (taskReceptions env u rest s).filterMap (Reception.forTask t) = [] := by
  rw [List.filterMap_eq_nil_iff]
  intro r hr
  simp [Reception.forTask, route_taskReceptions u rest s r hr, hNe]

/-- What is the business of others is not for a task. -/
theorem filterMap_receptions (a : Action) (s : State) (hOther : s.number? a ≠ some t) :
    (s.receptions env a).filterMap (Reception.forTask t) = [] := by
  cases a with
  | importing what script => exact filterMap_receptions_of_other (fun _ _ => rfl) _ _
  | tick =>
    replace hOther : s.queue.head?.bind Job.number? ≠ some t := hOther
    unfold receptions
    simp only
    split
    · rfl
    · rename_i job rest hQueue
      rw [hQueue, List.head?_cons, Option.bind_some] at hOther
      unfold jobReceptions
      split
      · simp only
        rw [List.filterMap_cons, filterMap_scriptReceptions]
        rfl
      · rename_i u
        have hNe : u ≠ t := fun hEq => hOther (hEq ▸ rfl)
        simp [Reception.forTask, hNe]
      · rename_i u
        have hNe : u ≠ t := fun hEq => hOther (hEq ▸ rfl)
        split
        · split
          · exact filterMap_taskReceptions_of_ne hNe _ _
          · rfl
        · rfl
      · rfl
  | _ => rfl

-- ---------------------------------------------------------------------------
-- Where a task stands
-- ---------------------------------------------------------------------------

/-- What a task of so many imports heard, and where it stands. `first` are the outcomes that it was
started with. -/
inductive Tally (env : Setup) (cancelled : Prop) (first : List Outcome) (all : Nat) (s : State)
    (t : Ticket) (hs : List Outcome) : Prop where
  | ready {rest}
      (hTask : s.tasks.get? t = some ⟨.imports rest (first ++ hs), .ready⟩)
      (hBooks : s.deferralsOf t = s.answersOf t) (hCount : hs.length + rest.length = all)
      (hNull : env.passThrough.isNull = true → .passThrough ∉ hs)
  -- an import was deferred and not answered yet
  | waiting {rest}
      (hTask : s.tasks.get? t = some ⟨.imports rest (first ++ hs), .suspended⟩)
      (hBooks : s.deferralsOf t = s.answersOf t + 1) (hCount : hs.length + 1 + rest.length = all)
      (hNull : env.passThrough.isNull = true → .passThrough ∉ hs)
  -- an import was passed through, and the task did not notice
  | stuck {rest before} (hHeard : hs = before ++ [.passThrough])
      (hTask : s.tasks.get? t = some ⟨.imports rest (first ++ before), .suspended⟩)
      (hBooks : s.deferralsOf t = s.answersOf t) (hHost : env.passThrough.isNull = true)
  | answered {rest before outcome} (hHeard : hs = before ++ [outcome])
      (hTask : s.tasks.get? t = some ⟨.imports rest (first ++ before), .woken (.outcome outcome)⟩)
      (hBooks : s.deferralsOf t = s.answersOf t) (hCount : hs.length + rest.length = all)
      (hNull : env.passThrough.isNull = true → .passThrough ∉ hs)
  | ended
      (hTask : s.tasks.get? t = some ⟨.imports [] (first ++ hs), .ended (.outcomes (first ++ hs))⟩)
      (hBooks : s.deferralsOf t = s.answersOf t) (hCount : hs.length = all)
      (hNull : env.passThrough.isNull = true → .passThrough ∉ hs)
  | cancelled {rest outcomes phase} (hCancelled : cancelled)
      (hTask : s.tasks.get? t = some ⟨.imports rest outcomes, phase⟩)
      (hPhase : phase = .woken .cancelled ∨ phase = .ended .cancelled)
      (hHeard : outcomes <+: first ++ hs)

variable {c c' : Prop} {first hs : List Outcome} {all : Nat}

/-- A change that is not about the task keeps its tally. -/
theorem Tally.congr (h : Tally env c first all s t hs)
    (hTask : s'.tasks.get? t = s.tasks.get? t) (hDeferrals : s'.deferralsOf t = s.deferralsOf t)
    (hAnswers : s'.answersOf t = s.answersOf t) (hMore : c → c') :
    Tally env c' first all s' t hs := by
  cases h with
  | ready hGet hBooks hCount hNull =>
    exact .ready (hTask.trans hGet) (by rw [hDeferrals, hAnswers, hBooks]) hCount hNull
  | waiting hGet hBooks hCount hNull =>
    exact .waiting (hTask.trans hGet) (by rw [hDeferrals, hAnswers, hBooks]) hCount hNull
  | stuck hHeard hGet hBooks hHost =>
    exact .stuck hHeard (hTask.trans hGet) (by rw [hDeferrals, hAnswers, hBooks]) hHost
  | answered hHeard hGet hBooks hCount hNull =>
    exact .answered hHeard (hTask.trans hGet) (by rw [hDeferrals, hAnswers, hBooks]) hCount hNull
  | ended hGet hBooks hCount hNull =>
    exact .ended (hTask.trans hGet) (by rw [hDeferrals, hAnswers, hBooks]) hCount hNull
  | cancelled hCancelled hGet hPhase hHeard =>
    exact .cancelled (hMore hCancelled) (hTask.trans hGet) hPhase hHeard

-- ---------------------------------------------------------------------------
-- A task that runs
-- ---------------------------------------------------------------------------

/-- An import of a task is answered, or deferred under its number; without an event loop it may be
refused. -/
theorem resolve_books (env : Setup) (s : State) (what : Import) (t : Ticket) :
    (∃ s₁ outcome, s.resolve env what (.task t) = (s₁, .answered outcome) ∧
      s₁.deferralsOf t = s.deferralsOf t ∧ s₁.answersOf t = s.answersOf t) ∨
    (∃ s₁, s.resolve env what (.task t) = (s₁, .deferred t) ∧
      s₁.deferralsOf t = s.deferralsOf t + 1 ∧ s₁.answersOf t = s.answersOf t) ∨
    env.running = false := by
  rcases resolve_cases env s what (.task t) with
    ⟨path, fresh, _, h⟩ | ⟨outcome, h⟩ | ⟨citation, _, _, h⟩ | ⟨hIdle, _⟩
  · exact Or.inl ⟨_, _, h, rfl, rfl⟩
  · exact Or.inl ⟨s, outcome, h, rfl, rfl⟩
  · refine Or.inr (Or.inl ⟨_, h, ?_, ?_⟩)
    · rw [← deferrals_desk, desk_defer, Desk.deferrals,
        List.countP_cons_of_pos (by simp [Event.isDeferralOf, Receiver.ticket])]
      exact congrArg (· + 1) (deferrals_desk s t)
    · rw [← answers_desk, desk_defer, Desk.answers,
        List.countP_cons_of_neg (by simp [Event.isAnswerOf])]
      exact answers_desk s t
  · exact Or.inr (Or.inr hIdle)

/-- A task that goes on with its imports hears what they are answered with at once. -/
theorem tally_runImports (hRunning : env.running = true) {rest : List Import}
    (hBooks : s.deferralsOf t = s.answersOf t) (hCount : hs.length + rest.length = all)
    (hNull : env.passThrough.isNull = true → .passThrough ∉ hs) :
    Tally env c first all (runImports env t rest (first ++ hs) s) t
      (hs ++ (taskReceptions env t rest s).map Reception.outcome) := by
  induction rest generalizing s hs with
  | nil =>
    rw [taskReceptions, List.map_nil, List.append_nil]
    refine .ended ?_ hBooks hCount hNull
    exact Registry.get?_insert_self _ _ _
  | cons what rest ih =>
    rcases resolve_books env s what t with
      ⟨s₁, outcome, h, hDeferrals, hAnswers⟩ | ⟨s₁, h, hDeferrals, hAnswers⟩ | hIdle
    · have hBooks₁ : s₁.deferralsOf t = s₁.answersOf t := by rw [hDeferrals, hAnswers, hBooks]
      have hCount₁ : (hs ++ [outcome]).length + rest.length = all := by
        rw [List.length_append, List.length_singleton, ← hCount, List.length_cons]
        omega
      rw [runImports_of_answered h, taskReceptions_of_answered h, List.map_cons]
      by_cases hStuck : outcome = .passThrough ∧ env.passThrough.isNull = true
      · -- the task takes it for a deferral
        obtain ⟨rfl, hHost⟩ := hStuck
        simp only [hHost, and_self, if_true, List.map_nil]
        exact .stuck rfl (Registry.get?_insert_self _ _ _) hBooks₁ hHost
      · have hNull₁ : env.passThrough.isNull = true → .passThrough ∉ hs ++ [outcome] := by
          intro hHost hMem
          rcases List.mem_append.mp hMem with hOld | hNew
          · exact hNull hHost hOld
          · exact hStuck ⟨(List.mem_singleton.mp hNew).symm, hHost⟩
        have hGo := ih hBooks₁ hCount₁ hNull₁
        rw [← List.append_assoc, List.append_assoc hs] at hGo
        simp only [if_neg hStuck]
        exact hGo
    · rw [runImports_of_deferred h, taskReceptions_of_unanswered h fun _ => by simp,
        List.map_nil, List.append_nil]
      refine .waiting (Registry.get?_insert_self _ _ _) ?_ ?_ hNull
      · show s₁.deferralsOf t = s₁.answersOf t + 1
        rw [hDeferrals, hAnswers, hBooks]
      · rw [← hCount, List.length_cons]
        omega
    · simp [hRunning] at hIdle

/-- A task of imports whose turn it is. -/
theorem Tally.resume (h : Tally env c first all s t hs) (hRunning : env.running = true) :
    Tally env c first all (s.resume env t) t
      (hs ++ (s.jobReceptions env (.resume t)).filterMap (Reception.forTask t)) := by
  -- a task that does not run hears nothing
  have hIdle : ∀ {rest outcomes phase}, s.tasks.get? t = some ⟨.imports rest outcomes, phase⟩ →
      phase.takesImports = false →
      (s.jobReceptions env (.resume t)).filterMap (Reception.forTask t) = [] := by
    intro rest outcomes phase hTask hPhase
    simp [jobReceptions, hTask, hPhase]
  cases h with
  | ready hTask hBooks hCount hNull =>
    simp only [State.resume, hTask, begin, jobReceptions, Phase.takesImports, if_true,
      filterMap_taskReceptions]
    exact tally_runImports hRunning hBooks hCount hNull
  | waiting hTask hBooks hCount hNull =>
    simp only [hIdle hTask rfl, List.append_nil, State.resume, hTask]
    exact .waiting hTask hBooks hCount hNull
  | stuck hHeard hTask hBooks hHost =>
    simp only [hIdle hTask rfl, List.append_nil, State.resume, hTask]
    exact .stuck hHeard hTask hBooks hHost
  | answered hHeard hTask hBooks hCount hNull =>
    simp only [State.resume, hTask, goOn, jobReceptions, Phase.takesImports, if_true,
      filterMap_taskReceptions, List.append_assoc, ← hHeard]
    exact tally_runImports hRunning hBooks hCount hNull
  | ended hTask hBooks hCount hNull =>
    simp only [hIdle hTask rfl, List.append_nil, State.resume, hTask]
    exact .ended hTask hBooks hCount hNull
  | cancelled hCancelled hTask hPhase hHeard =>
    rcases hPhase with rfl | rfl
    · simp only [hIdle hTask rfl, List.append_nil, State.resume, hTask, goOn]
      exact .cancelled hCancelled (Registry.get?_insert_self _ _ _) (Or.inr rfl) hHeard
    · simp only [hIdle hTask rfl, List.append_nil, State.resume, hTask]
      exact .cancelled hCancelled hTask (Or.inr rfl) hHeard

-- ---------------------------------------------------------------------------
-- A task that is handed an outcome, and one that is cancelled
-- ---------------------------------------------------------------------------

/-- A task that an answer is owed to waits for it, or was cancelled. -/
theorem Tally.of_owed (h : Tally env c first all s t hs) (hOwed : s.answersOf t < s.deferralsOf t) :
    (∃ rest, s.tasks.get? t = some ⟨.imports rest (first ++ hs), .suspended⟩ ∧
      s.deferralsOf t = s.answersOf t + 1 ∧ hs.length + 1 + rest.length = all ∧
      (env.passThrough.isNull = true → .passThrough ∉ hs)) ∨
    (c ∧ ∃ rest outcomes phase, s.tasks.get? t = some ⟨.imports rest outcomes, phase⟩ ∧
      (phase = .woken .cancelled ∨ phase = .ended .cancelled) ∧ outcomes <+: first ++ hs) := by
  cases h with
  | ready _ hBooks => exact absurd hOwed (by omega)
  | waiting hTask hBooks hCount hNull => exact Or.inl ⟨_, hTask, hBooks, hCount, hNull⟩
  | stuck _ _ hBooks => exact absurd hOwed (by omega)
  | answered _ _ hBooks => exact absurd hOwed (by omega)
  | ended _ hBooks => exact absurd hOwed (by omega)
  | cancelled hCancelled hTask hPhase hHeard =>
    exact Or.inr ⟨hCancelled, _, _, _, hTask, hPhase, hHeard⟩

/-- It is handed the answer. -/
theorem Tally.handOver (h : Tally env c first all s t hs)
    (hOwed : s.answersOf t < s.deferralsOf t) (hTasks : s'.tasks = s.tasks)
    (hDeferrals : s'.deferralsOf t = s.deferralsOf t) (hAnswers : s'.answersOf t = s.answersOf t)
    {outcome : Outcome} (hOutcome : outcome.IsDelivered) :
    Tally env c first all (s'.handOver t outcome) t (hs ++ [outcome]) := by
  have hDeferrals' : (s'.handOver t outcome).deferralsOf t = s.deferralsOf t := by
    rw [deferralsOf, State.handOver, journal_wake, journal_note,
      List.countP_cons_of_neg (by simp [Event.isDeferralOf])]
    exact hDeferrals
  have hAnswers' : (s'.handOver t outcome).answersOf t = s.answersOf t + 1 := by
    rw [answersOf, State.handOver, journal_wake, journal_note,
      List.countP_cons_of_pos (by simp [Event.isAnswerOf])]
    exact congrArg (· + 1) hAnswers
  rcases h.of_owed hOwed with
    ⟨rest, hTask, hBooks, hCount, hNull⟩ |
    ⟨hCancelled, rest, outcomes, phase, hTask, hPhase, hHeard⟩
  · have hWoken : (s'.handOver t outcome).tasks.get? t =
        some ⟨.imports rest (first ++ hs), .woken (.outcome outcome)⟩ := by
      simp [State.handOver, wake, hTasks, hTask]
    refine .answered rfl hWoken (by omega) ?_ ?_
    · rw [List.length_append, List.length_singleton, hCount]
    · intro hHost hMem
      rcases List.mem_append.mp hMem with hOld | hNew
      · exact hNull hHost hOld
      · exact hOutcome.ne_passThrough (List.mem_singleton.mp hNew).symm
  · have hSame : (s'.handOver t outcome).tasks.get? t = some ⟨.imports rest outcomes, phase⟩ := by
      rcases hPhase with rfl | rfl <;> simp [State.handOver, wake, hTasks, hTask]
    refine .cancelled hCancelled hSame hPhase ?_
    rw [← List.append_assoc]
    exact hHeard.trans (List.prefix_append _ _)

theorem Tally.cancelTask (h : Tally env c first all s t hs) (hCancelled : c') :
    Tally env c' first all (s.cancelTask t).1 t hs := by
  have hPart : ∀ before outcome, hs = before ++ [outcome] → first ++ before <+: first ++ hs := by
    rintro before outcome rfl
    rw [← List.append_assoc]
    exact List.prefix_append _ _
  have hSet : ∀ {rest outcomes} {s₁ : State},
      s₁.tasks = s.tasks.insert t ⟨.imports rest outcomes, .woken .cancelled⟩ →
      outcomes <+: first ++ hs → Tally env c' first all s₁ t hs := by
    intro rest outcomes s₁ hTasks hHeard
    exact .cancelled hCancelled (by rw [hTasks, Registry.get?_insert_self]) (Or.inl rfl) hHeard
  cases h with
  | ready hTask =>
    simp only [State.cancelTask, hTask]
    exact hSet rfl (List.prefix_refl _)
  | waiting hTask =>
    simp only [State.cancelTask, hTask]
    exact hSet rfl (List.prefix_refl _)
  | stuck hHeard hTask =>
    simp only [State.cancelTask, hTask]
    exact hSet rfl (hPart _ _ hHeard)
  | answered hHeard hTask =>
    simp only [State.cancelTask, hTask]
    exact hSet rfl (hPart _ _ hHeard)
  | ended hTask hBooks hCount hNull =>
    simp only [State.cancelTask, hTask]
    exact .ended hTask hBooks hCount hNull
  | cancelled _ hTask hPhase hHeard =>
    rcases hPhase with rfl | rfl
    · simp only [State.cancelTask, hTask]
      exact hSet rfl hHeard
    · simp only [State.cancelTask, hTask]
      exact .cancelled hCancelled hTask (Or.inr rfl) hHeard

-- ---------------------------------------------------------------------------
-- Actions and runs
-- ---------------------------------------------------------------------------

theorem Tally.isTask (h : Tally env c first all s t hs) : s.takesImports? t = some true := by
  cases h <;> simp_all [takesImports?, Work.isImports]

/-- What concerns a task of imports: its cancellation, its turn, and the answer to an import that
was deferred for it. -/
theorem number_cases (hRoster : s.Roster) (hTask : s.takesImports? t = some true) {a : Action}
    (hMine : s.number? a = some t) :
    a = .cancelTask t ∨
    a = .tick ∧ ((∃ rest, s.queue = .resume t :: rest) ∨
      ∃ settlement specifier citation session rest, s.queue =
        .notify settlement (.importing specifier citation session (.task t)) :: rest) := by
  rcases concern_cases hMine with
    hCancel | ⟨hTick, ⟨rest, hQueue⟩ | ⟨x, w, rest, hQueue, hIn, hNumber⟩⟩
  · exact Or.inl hCancel
  · exact Or.inr ⟨hTick, Or.inl ⟨rest, hQueue⟩⟩
  · refine Or.inr ⟨hTick, Or.inr ?_⟩
    -- whoever waits on behalf of the task is an import
    have hFits : w.task? = some t → w.isImport = true := fun hw =>
      (Option.some.inj (hTask.symm.trans (hRoster.fits w hIn t hw))).symm
    cases w with
    | importing specifier citation session receiver =>
      cases receiver with
      | task u =>
        exact ⟨x, specifier, citation, session, rest, by
          rw [hQueue, show u = t from Option.some.inj hNumber]⟩
      | callback u script =>
        -- the number of a callback is not that of a task
        have hNone := (hRoster.apart _ hIn t hNumber).2
        simp [takesImports?, hNone] at hTask
    | unbound specifier citation u => exact absurd (hFits hNumber) (by simp [Waiter.isImport])
    | resolver u => exact absurd (hFits hNumber) (by simp [Waiter.isImport])
    | collector u slot => exact absurd (hFits hNumber) (by simp [Waiter.isImport])
    | observer u => exact absurd hNumber (by simp [Waiter.number?])
    | prefetcher => exact absurd hNumber (by simp [Waiter.number?])

/-- What an action can mean for a task of imports. -/
inductive Concern (env : Setup) (s : State) (t : Ticket) (a : Action) : Prop where
  | none (hTask : (s.act env a).1.tasks.get? t = s.tasks.get? t)
      (hDeferrals : (s.act env a).1.deferralsOf t = s.deferralsOf t)
      (hAnswers : (s.act env a).1.answersOf t = s.answersOf t)
      (hHeard : (s.receptions env a).filterMap (Reception.forTask t) = [])
  | cancel (hAction : a = .cancelTask t)
  | turn (hAction : a = .tick) (hNext : s.tick env = s.pop.resume env t)
      (hHeard : s.receptions env .tick = s.pop.jobReceptions env (.resume t))
  | handed {s₁ : State} {outcome : Outcome} (hAction : a = .tick)
      (hNext : s.tick env = s₁.handOver t outcome)
      (hHeard : (s.receptions env .tick).filterMap (Reception.forTask t) = [outcome])
      (hTasks : s₁.tasks = s.tasks) (hDeferrals : s₁.deferralsOf t = s.deferralsOf t)
      (hAnswers : s₁.answersOf t = s.answersOf t) (hOwed : s.answersOf t < s.deferralsOf t)
      (hOutcome : outcome.IsDelivered)

theorem concern (h : Reachable env config s) (hKind : s.takesImports? t = some true) (a : Action) :
    Concern env s t a := by
  have hRoster := h.roster
  have hKnown : s.tasks.get? t ≠ Option.none := by
    intro hNone
    simp [takesImports?, hNone] at hKind
  have hTaken : t < s.tickets := Nat.lt_of_not_le fun hLe => hKnown (hRoster.used hLe)
  by_cases hMine : s.number? a = some t
  · rcases number_cases hRoster hKind hMine with
      hCancel | ⟨rfl, ⟨rest, hQueue⟩ | ⟨settlement, specifier, citation, session, rest, hQueue⟩⟩
    · exact .cancel hCancel
    · exact .turn rfl (by simp [tick, hQueue, perform, pop]) (by simp only [receptions, hQueue])
    · have hIn : (.importing specifier citation session (.task t)) ∈ s.waiting :=
        (waiting_pop hQueue).mem_iff.mpr (List.mem_append_left _ (List.mem_singleton_self _))
      have hWaits : 0 < s.desk.imports t :=
        List.countP_pos_iff.mpr ⟨_, hIn, by simp [Waiter.isImportOf, Receiver.ticket]⟩
      have hOwed : s.answersOf t < s.deferralsOf t := by
        have hAccount := h.moves.accounts.account t
        have hBalance := hAccount.balance fun hUnbound =>
          absurd (hAccount.apart hUnbound).2 (Nat.ne_of_gt hWaits)
        rw [deferrals_desk, answers_desk] at hBalance
        omega
      have hComplete : OnBehalf Option.none s.pop
          (s.pop.complete env session specifier citation settlement).1 :=
        onBehalf_complete _ _ _ _ _ _
      obtain ⟨hDeferrals, hAnswers⟩ := hComplete.log t (by simp) hTaken
      have hTasks : (s.pop.complete env session specifier citation settlement).1.tasks = s.tasks :=
        congrArg Desk.tasks (desk_complete _ _ _ _ _ _)
      have hNext : s.tick env =
          (s.pop.complete env session specifier citation settlement).1.handOver t
            (s.pop.complete env session specifier citation settlement).2 := by
        simp [tick, hQueue, perform, pop, notify, deliver]
      have hHeard : (s.receptions env .tick).filterMap (Reception.forTask t) =
          [(s.pop.complete env session specifier citation settlement).2] := by
        simp [receptions, hQueue, jobReceptions, Reception.forTask]
      exact .handed rfl hNext hHeard hTasks hDeferrals hAnswers hOwed
        (isDelivered_complete _ _ _ _ _ _)
  · have hHeard : (s.receptions env a).filterMap (Reception.forTask t) = [] :=
      filterMap_receptions a s hMine
    by_cases hStart : ∃ work, a = .start work
    · obtain ⟨work, rfl⟩ := hStart
      obtain ⟨hTask, hJournal⟩ :
          (s.startTask env work).1.tasks.get? t = s.tasks.get? t ∧
            (s.startTask env work).1.journal = s.journal := start_others hRoster hKnown work
      exact .none hTask (congrArg (List.countP _) hJournal) (congrArg (List.countP _) hJournal)
        hHeard
    · have hFrame : OnBehalf (s.number? a) s (s.act env a).1 :=
        act_onBehalf (fun work hEq => hStart ⟨work, hEq⟩) s
      obtain ⟨hDeferrals, hAnswers⟩ := hFrame.log t hMine hTaken
      exact .none (hFrame.others t hMine) hDeferrals hAnswers hHeard

/-- **What a task heard and where it stands agree** after every action. -/
theorem Tally.act (h : Reachable env config s) (hRunning : env.running = true)
    (hTally : Tally env c first all s t hs) (a : Action) :
    Tally env (c ∨ a = .cancelTask t) first all (s.act env a).1 t
      (hs ++ (s.receptions env a).filterMap (Reception.forTask t)) := by
  cases concern h hTally.isTask a with
  | none hTask hDeferrals hAnswers hHeard =>
    rw [hHeard, List.append_nil]
    exact hTally.congr hTask hDeferrals hAnswers Or.inl
  | cancel hAction =>
    subst hAction
    have hSilent : s.receptions env (.cancelTask t) = [] := rfl
    rw [hSilent, List.filterMap_nil, List.append_nil]
    exact hTally.cancelTask (Or.inr rfl)
  | turn hAction hNext hHeard =>
    subst hAction
    have hPop : Tally env (c ∨ Action.tick = .cancelTask t) first all s.pop t hs :=
      hTally.congr rfl rfl rfl Or.inl
    rw [State.act, hNext, hHeard]
    exact hPop.resume hRunning
  | handed hAction hNext hHeard hTasks hDeferrals hAnswers hOwed hOutcome =>
    subst hAction
    have hSame : Tally env (c ∨ Action.tick = .cancelTask t) first all s t hs :=
      hTally.congr rfl rfl rfl Or.inl
    rw [State.act, hNext, hHeard]
    exact hSame.handOver hOwed hTasks hDeferrals hAnswers hOutcome

/-- What every action keeps, given what the task hears and up to its cancellation, runs keep. -/
theorem run_of_act {P : Prop → List Outcome → State → Prop}
    (hMono : ∀ {c c' : Prop} {hs s}, (c → c') → P c hs s → P c' hs s)
    (hAct : ∀ {c : Prop} {hs s}, Reachable env config s → P c hs s → ∀ a,
      P (c ∨ a = .cancelTask t) (hs ++ (s.receptions env a).filterMap (Reception.forTask t))
        (s.act env a).1)
    (h : Reachable env config s) (hs : List Outcome) (hStart : P c hs s) (actions : List Action) :
    P (c ∨ .cancelTask t ∈ actions) (hs ++ heard env t actions s) (actAll env actions s).1 := by
  induction actions generalizing s c hs with
  | nil =>
    rw [heard, allReceptions, List.filterMap_nil, List.append_nil]
    exact hMono Or.inl hStart
  | cons a rest ih =>
    have hRest := ih (h.act a) _ (hAct h hStart a)
    rw [List.append_assoc] at hRest
    rw [heard, allReceptions, List.filterMap_append]
    refine hMono ?_ hRest
    rintro ((hOld | rfl) | hLater)
    · exact Or.inl hOld
    · exact Or.inr List.mem_cons_self
    · exact Or.inr (List.mem_cons_of_mem _ hLater)

theorem Tally.actAll (h : Reachable env config s) (hRunning : env.running = true)
    (hTally : Tally env c first all s t hs) (actions : List Action) :
    Tally env (c ∨ .cancelTask t ∈ actions) first all (actAll env actions s).1 t
      (hs ++ heard env t actions s) :=
  run_of_act (P := fun c hs s => Tally env c first all s t hs)
    (fun hMore h => h.congr rfl rfl rfl hMore) (fun h hTally a => hTally.act h hRunning a) h hs
    hTally actions

/-- A task that is started has heard nothing. -/
theorem tally_start (h : Reachable env config s) (hRunning : env.running = true)
    (rest : List Import) (outcomes : List Outcome) :
    Tally env False outcomes rest.length (s.act env (.start (.imports rest outcomes))).1 s.tickets
      [] := by
  have hAccount := h.moves.accounts.account s.tickets
  obtain ⟨hNone, hZero⟩ := hAccount.fresh (Nat.le_refl _)
  have hBalance := hAccount.balance (not_isUnbound_of_none hNone)
  rw [deferrals_desk] at hZero
  rw [deferrals_desk, answers_desk] at hBalance
  have hBooks : s.deferralsOf s.tickets = s.answersOf s.tickets := by omega
  have hTask : (s.tasks.insert s.tickets ⟨.imports rest outcomes, .ready⟩).get? s.tickets =
      some ⟨.imports rest (outcomes ++ []), .ready⟩ := by
    rw [List.append_nil, Registry.get?_insert_self]
  simp only [act, startTask, hRunning, if_true]
  exact .ready hTask hBooks (Nat.zero_add _) fun _ hMem => by simp at hMem

/-- **A task of imports ends, unless it is passed an import through where that means nothing.** When
no job is left and no discovery in flight, a task that was started at any time is in one of three
cases. It was cancelled. Or it ended with exactly what it heard, one outcome for each import. Or the
host takes nothing for "resolve this import yourself" and an import of the task was passed through:
then it waits for ever. -/
theorem ends_unless_passed_through (h : Reachable env config s) (hRunning : env.running = true)
    (imports : List Import) (more : List Action) :
    let t := s.tickets
    let s₁ := (s.act env (.start (.imports imports []))).1
    let s' := (actAll env more s₁).1
    let hs := heard env t more s₁
    s'.Quiet →
      (s'.taskResult? t = some .cancelled ∧ .cancelTask t ∈ more) ∨
      (s'.taskResult? t = some (.outcomes hs) ∧ hs.length = imports.length ∧
        (env.passThrough.isNull = true → .passThrough ∉ hs)) ∨
      (s'.taskResult? t = none ∧ env.passThrough.isNull = true ∧ .passThrough ∈ hs) := by
  intro t s₁ s' hs hQuiet
  have hStarted : Reachable env config s₁ := h.act _
  have hReach : Reachable env config s' := hStarted.actAll more
  have hTally : Tally env (False ∨ .cancelTask t ∈ more) [] imports.length s' t ([] ++ hs) :=
    (tally_start h hRunning imports []).actAll hStarted hRunning more
  -- no turn is left
  have hStopped : ∀ {work phase}, s'.tasks.get? t = some ⟨work, phase⟩ →
      phase.isRunnable = false := by
    intro work phase hTask
    rw [Bool.eq_false_iff]
    intro hRun
    have hTurn := hReach.roster.called hTask hRun
    simp [hQuiet.1] at hTurn
  rw [List.nil_append] at hTally
  cases hTally with
  | ready hTask => exact absurd (hStopped hTask) (by simp [Phase.isRunnable])
  | @waiting rest hTask hBooks =>
    -- what was deferred has been answered
    have hBound : ¬ IsUnbound s'.tasks t := by
      rw [isUnbound_iff hTask]
      simp [Work.isUnbound]
    have hSettled :=
      (answered_of_accounts hReach.sound hReach.moves.accounts hBound).settled hQuiet
    omega
  | stuck hHeard hTask _ hHost =>
    refine Or.inr (Or.inr ⟨?_, hHost, by simp [hHeard]⟩)
    simp [taskResult?, hTask]
  | answered _ hTask => exact absurd (hStopped hTask) (by simp [Phase.isRunnable])
  | ended hTask _ hCount hNull =>
    refine Or.inr (Or.inl ⟨?_, hCount, hNull⟩)
    simp [taskResult?, hTask]
  | cancelled hCancelled hTask hPhase =>
    refine Or.inl ⟨?_, hCancelled.resolve_left id⟩
    rcases hPhase with rfl | rfl
    · exact absurd (hStopped hTask) (by simp [Phase.isRunnable])
    · simp [taskResult?, hTask]

/-- A host that takes nothing for "resolve this import yourself". -/
def wordless : Setup := { Setup.manual with passThrough := .null }

/-- A task imports a path from a root. -/
def importingRoot : State :=
  ((create wordless Config.bare).act wordless
    (.start (.imports [⟨.named "main", .str "/x/y.scss", .str "/main.scss"⟩] []))).1

/-- It was passed the import through in its only turn, and never ends. -/
theorem ends_unless_importingRoot :
    let s' := (actAll wordless [.tick] importingRoot).1
    Reachable wordless Config.bare importingRoot ∧ s'.Quiet ∧ s'.taskResult? 0 = none ∧
      .passThrough ∈ heard wordless 0 [.tick] importingRoot := by
  have hQuiet : (actAll wordless [.tick] importingRoot).1.Quiet := ⟨rfl, by decide⟩
  have hNone : (actAll wordless [.tick] importingRoot).1.taskResult? 0 = none := rfl
  refine ⟨.act _ .create, hQuiet, hNone, ?_⟩
  rcases ends_unless_passed_through .create rfl _ [.tick] hQuiet with
    ⟨hResult, _⟩ | ⟨hResult, _⟩ | ⟨_, _, hPassed⟩
  · exact absurd (hNone.symm.trans hResult) (by simp)
  · exact absurd (hNone.symm.trans hResult) (by simp)
  · exact hPassed

end State

end Larder
