import Larder.Proofs.Importer.OnceOnly
import Larder.Proofs.Importer.Hearing

/-!
# Larder — what is suppressed was given before

The importer takes down that a compilation was given a path when it decides so; handing the outcome
to whoever asked comes after that. So a path may be suppressed that nobody ever got, if the outcome
is lost in between. That happens in one way only. The host is answered at once, and a callback when
it is called. A task is handed the outcome and takes it when its turn comes, unless it is cancelled
before: then the outcome is lost, and so is the path for the whole compilation.

## Results

* `covers_act`: whatever is decided by an action is answered to somebody by the same action.
* `Fate.act`: an outcome that was handed to a task is taken by it, or lost when it is cancelled.
* `given_unless_cancelled`: a path that was decided was passed through or given to somebody, and it
  got there unless it was handed to a task that was cancelled.
-/

namespace Larder

/-- The first answer for a path hands it out. -/
theorem GivenOnce.exists_real {decisions : List (Path × Outcome)} {paths : List Path} {path : Path}
    (h : GivenOnce decisions paths) (hPath : path ∈ decisions.map Prod.fst) :
    ∃ outcome, (path, outcome) ∈ decisions ∧
      (outcome = .file path.toString ∨ outcome = .passThrough) := by
  obtain ⟨⟨p, outcome⟩, hMem, rfl⟩ :=
    List.mem_map.mp (h.real.mem_iff.mpr ((h.known path).mp hPath))
  obtain ⟨hDecided, hReal⟩ := List.mem_filter.mp hMem
  obtain ⟨before, after, hSplit⟩ := List.append_of_mem hDecided
  have hLaw := (h.law before p outcome after hSplit).2
  split at hLaw
  · simp [hLaw, Outcome.suppressed, Outcome.isReal] at hReal
  · exact ⟨outcome, hDecided, hLaw⟩

namespace State

variable {env : Setup} {config : Config} {s s' s'' : State} {t : Ticket} {session : SessionId}
  {path : Path}

-- ---------------------------------------------------------------------------
-- What is decided is answered
-- ---------------------------------------------------------------------------

/-- Whether everything that was decided between two states was answered to somebody. -/
def Covers (s s' : State) (answers : List Reception) : Prop :=
  ∀ session, ∃ new, s'.decisions session = s.decisions session ++ new ∧
    ∀ d ∈ new, ∃ r ∈ answers, r.session = session ∧ r.outcome = d.2

namespace Covers

variable {rs rs' : List Reception}

theorem of_given (h : s'.given = s.given) (rs : List Reception) : Covers s s' rs := fun session =>
  ⟨[], by rw [List.append_nil, decisions_of_given h], by simp⟩

theorem trans (h : Covers s s' rs) (h' : Covers s' s'' rs') : Covers s s'' (rs ++ rs') := by
  intro session
  obtain ⟨new, hNew, hAnswered⟩ := h session
  obtain ⟨new', hNew', hAnswered'⟩ := h' session
  refine ⟨new ++ new', by rw [hNew', hNew, List.append_assoc], fun d hd => ?_⟩
  rcases List.mem_append.mp hd with hOld | hLate
  · obtain ⟨r, hr, hSame⟩ := hAnswered d hOld
    exact ⟨r, List.mem_append_left _ hr, hSame⟩
  · obtain ⟨r, hr, hSame⟩ := hAnswered' d hLate
    exact ⟨r, List.mem_append_right _ hr, hSame⟩

/-- Nothing is decided before, or after. -/
theorem after_given (h : s'.given = s.given) (h' : Covers s' s'' rs) : Covers s s'' rs :=
  (of_given h []).trans h'

theorem then_given (h : Covers s s' rs) (h' : s''.given = s'.given) : Covers s s'' rs := by
  have hBoth := h.trans (of_given h' [])
  rwa [List.append_nil] at hBoth

theorem of_accounted {target : Option (Path × Outcome)} {answer : Option Outcome}
    (h : Accounted s s' session target answer)
    (hAnswer : ∀ outcome, answer = some outcome →
      ∃ r ∈ rs, r.session = session ∧ r.outcome = outcome) : Covers s s' rs := by
  cases target with
  | none => exact fun who => ⟨[], by rw [h who, List.append_nil], by simp⟩
  | some target =>
    obtain ⟨outcome, hOutcome, _, hDecisions⟩ := h
    obtain ⟨r, hr, hSession, hSame⟩ := hAnswer outcome hOutcome
    refine fun who => ⟨_, hDecisions who, fun d hd => ⟨r, hr, ?_⟩⟩
    split at hd
    · rename_i hWho
      obtain rfl := List.mem_singleton.mp hd
      exact ⟨hSession.trans hWho, hSame⟩
    · exact absurd hd (by simp)

end Covers

theorem covers_resolve (env : Setup) (s : State) (what : Import) (receiver : Receiver) (route : Route) :
    Covers s (s.resolve env what receiver).1
      ((s.resolve env what receiver).2.receptions route what.session) := by
  refine .of_accounted (accounted_resolve env s what receiver) fun outcome hOutcome => ?_
  cases hReply : (s.resolve env what receiver).2 with
  | answered o =>
    rw [hReply] at hOutcome
    exact ⟨_, List.mem_singleton_self _, rfl, Option.some.inj hOutcome⟩
  | deferred u => simp [hReply, Reply.outcome?] at hOutcome
  | noLoop => simp [hReply, Reply.outcome?] at hOutcome

theorem covers_complete (s : State) (session : SessionId) (specifier : String)
    (citation : Citation) (settlement : Settlement) (route : Route) :
    Covers s (s.complete env session specifier citation settlement).1
      [⟨route, session, (s.complete env session specifier citation settlement).2⟩] :=
  .of_accounted (accounted_complete env s session specifier citation settlement)
    fun _ hOutcome => ⟨_, List.mem_singleton_self _, rfl, Option.some.inj hOutcome⟩

theorem covers_importing (s : State) (what : Import) (script : Script) (route : Route) :
    Covers s (s.importing env what script).1
      ((s.resolve env what (.callback s.tickets script)).2.receptions route what.session) := by
  have hResolve := covers_resolve env s what (.callback s.tickets script) route
  rcases importing_eq env s what script with h | h <;> rw [h]
  · exact hResolve
  · exact hResolve.then_given rfl

theorem covers_runScript (t : Ticket) (script : Script) (s : State) :
    Covers s (runScript env t script s) (scriptReceptions env t script s) := by
  induction script generalizing s with
  | stop => exact .of_given rfl _
  | fail => exact .of_given rfl _
  | importing what receive next _ ih =>
    exact (covers_importing s what receive (.nested t)).trans
      (.after_given (given_note rfl) (ih _))

theorem given_finish (s : State) (t : Ticket) (work : Work) (result : TaskResult) :
    (s.finish t work result).given = s.given :=
  given_of_aside (aside_finish _ _ _)

theorem covers_runImports (rest : List Import) (outcomes : List Outcome) (s : State) :
    Covers s (runImports env t rest outcomes s) (taskReceptions env t rest s) := by
  induction rest generalizing s outcomes with
  | nil => exact .of_given (given_finish _ _ _ _) _
  | cons what rest ih =>
    have hResolve := covers_resolve env s what (.task t) (.task t)
    rcases hReply : s.resolve env what (.task t) with ⟨s₁, reply⟩
    rw [hReply] at hResolve
    cases reply with
    | answered outcome =>
      rw [runImports_of_answered hReply, taskReceptions_of_answered hReply]
      split
      · exact hResolve.then_given rfl
      · exact hResolve.trans (ih _ _)
    | deferred u =>
      rw [runImports_of_deferred hReply, taskReceptions_of_unanswered hReply fun _ => by simp]
      exact hResolve.then_given rfl
    | noLoop =>
      rw [runImports_of_noLoop hReply, taskReceptions_of_unanswered hReply fun _ => by simp]
      exact hResolve.then_given (given_finish _ _ _ _)

-- ---------------------------------------------------------------------------
-- Nothing else is decided
-- ---------------------------------------------------------------------------

theorem given_request_attach (env : Setup) (s : State) (name : String) (w : Waiter) :
    ((s.request env name).1.attach (s.request env name).2 w).given = s.given :=
  (given_attach _ _).trans (given_request env s name)

theorem given_prefetchAll (names : List String) (s : State) :
    (prefetchAll env names s).given = s.given := by
  induction names generalizing s with
  | nil => rfl
  | cons name rest ih => exact (ih _).trans (given_request_attach env s name _)

theorem given_awaitAll (slot : Nat) (names : List String) (s : State) :
    (awaitAll env t slot names s).given = s.given := by
  induction names generalizing s slot with
  | nil => rfl
  | cons name rest ih => exact (ih _ _).trans (given_request_attach env s name _)

theorem given_runUnbound (specifier file : Value) (s : State) :
    (runUnbound env t specifier file s).given = s.given := by
  have hPass : (passUnbound env t (.unbound specifier file) s).given = s.given := by
    unfold passUnbound
    split
    · rfl
    · exact given_finish _ _ _ _
  unfold runUnbound
  simp only
  split
  · exact hPass
  · exact hPass
  · split
    · exact given_finish _ _ _ _
    · exact hPass
  · rename_i citation _
    split
    · split <;> exact given_finish _ _ _ _
    · exact (given_request_attach env _ citation.pantryName _).trans (given_note rfl)

theorem given_awaitPantry (name : String) (s : State) :
    (awaitPantry env t name s).given = s.given := by
  unfold awaitPantry
  simp only
  split
  · exact (given_finish _ _ _ _).trans (given_request env s name)
  · exact (given_attach _ _).trans (given_request env s name)

theorem given_awaitSeeds (s : State) : (awaitSeeds env t s).given = s.given := by
  unfold awaitSeeds
  simp only
  split
  · exact given_finish _ _ _ _
  · exact given_awaitAll 0 _ s

theorem given_launch (s : State) (i : FlightId) : (s.launch env i).given = s.given := by
  unfold launch
  split
  · rfl
  · rename_i f _
    have hCalled : ((s.withCache (s.cache.setStage i .flying)).note (.called f.call)).given =
        s.given := given_note rfl
    simp only
    split
    · exact hCalled
    · exact (given_landWith _ _ _).trans hCalled

theorem given_land (s : State) (i : FlightId) : (s.land i).given = s.given := by
  unfold land
  split
  · exact given_landWith _ _ _
  · rfl

-- ---------------------------------------------------------------------------
-- Jobs and actions
-- ---------------------------------------------------------------------------

theorem covers_resume (s : State) (t : Ticket) :
    Covers s (s.resume env t) (s.jobReceptions env (.resume t)) := by
  unfold resume
  split
  · rename_i work hTask
    cases work with
    | imports rest outcomes =>
      simp only [jobReceptions, hTask, Phase.takesImports, if_true]
      exact covers_runImports _ _ _
    | unbound specifier file => exact .of_given (given_runUnbound _ _ _) _
    | pantry name => exact .of_given (given_awaitPantry _ _) _
    | preload slots => exact .of_given (given_awaitSeeds _) _
  · rename_i work w hTask
    cases w with
    | outcome outcome =>
      cases work with
      | imports rest outcomes =>
        simp only [jobReceptions, hTask, Phase.takesImports, if_true]
        exact covers_runImports _ _ _
      | _ => exact .of_given (given_finish _ _ _ _) _
    | _ => exact .of_given (given_finish _ _ _ _) _
  · exact .of_given rfl _

theorem covers_notify (s : State) (settlement : Settlement) (w : Waiter) :
    Covers s (s.notify env settlement w) (s.jobReceptions env (.notify settlement w)) := by
  cases w with
  | importing specifier citation session receiver =>
    cases receiver with
    | callback t script =>
      exact (covers_complete s session specifier citation settlement (.callback t)).trans
        (.after_given (given_note rfl) (covers_runScript t script _))
    | task t =>
      exact (covers_complete s session specifier citation settlement (.handed t)).then_given
        (given_of_aside (aside_handOver _ _))
  | _ => exact .of_given (given_of_aside (aside_notify rfl _)) _

/-- **Whatever is decided by an action is answered** to somebody by the same action. -/
theorem covers_act (s : State) (a : Action) : Covers s (s.act env a).1 (s.receptions env a) := by
  cases a with
  | importing what script => exact covers_importing s what script .host
  | request name =>
    simp only [act, requesting]
    split
    · exact .of_given (given_request_attach env s.takeTicket name _) _
    · exact .of_given rfl _
  | start work => exact .of_given (given_of_aside (aside_startTask _)) _
  | prefetch =>
    simp only [act, prefetch]
    split
    · exact .of_given rfl _
    · split
      · exact .of_given (given_prefetchAll _ _) _
      · exact .of_given rfl _
  | cancelRequest name =>
    simp only [act, cancelRequest]
    split
    · split <;> exact .of_given (given_request env s name) _
    · exact .of_given rfl _
  | cancelPromise name =>
    simp only [act, cancelPromise]
    split <;> exact .of_given rfl _
  | cancelTask t => exact .of_given (given_of_aside (aside_cancelTask _)) _
  | release i landing =>
    simp only [act, release]
    split <;> exact .of_given rfl _
  | tick =>
    have hPop : s.pop.given = s.given := rfl
    simp only [act]
    cases hQueue : s.queue with
    | nil =>
      rw [tick_nil hQueue]
      exact .of_given rfl _
    | cons job rest =>
      have hTick : s.tick env = s.pop.perform env job := by simp [tick, pop, hQueue]
      have hReceptions : s.receptions env .tick = s.pop.jobReceptions env job := by
        simp [receptions, hQueue]
      rw [hTick, hReceptions]
      refine .after_given hPop ?_
      cases job with
      | launch i => exact .of_given (given_launch _ _) _
      | land i => exact .of_given (given_land _ _) _
      | notify settlement w => exact covers_notify _ _ _
      | resume t => exact covers_resume _ _

/-- Whether a compilation was answered for a path. -/
def Decided (s : State) (session : SessionId) (path : Path) : Prop :=
  path ∈ (s.decisions session).map Prod.fst

/-- The first decision on a path gives it to somebody, or passes it through. -/
theorem answered_first (h : Reachable env config s) (a : Action)
    (hNew : ¬ s.Decided session path) (hDecided : (s.act env a).1.Decided session path) :
    (path, .passThrough) ∈ (s.act env a).1.decisions session ∨
      ∃ r ∈ s.receptions env a, r.session = session ∧ r.outcome = .file path.toString := by
  obtain ⟨outcome, hMem, hOutcome⟩ :=
    ((h.act a).moves.givenOnce session (givenOnce_seeded config session)).exists_real hDecided
  rcases hOutcome with rfl | rfl
  · refine Or.inr ?_
    obtain ⟨new, hDecisions, hAnswered⟩ := covers_act s a session
    rw [hDecisions, List.mem_append] at hMem
    rcases hMem with hOld | hLate
    · exact absurd (List.mem_map_of_mem hOld) hNew
    · exact hAnswered _ hLate
  · exact Or.inl hMem

-- ---------------------------------------------------------------------------
-- What becomes of an outcome that is handed to a task
-- ---------------------------------------------------------------------------

/-- What the resolutions of a task returned. -/
def outcomesOf (s : State) (t : Ticket) : List Outcome :=
  match s.tasks.get? t with
  | some ⟨.imports _ outcomes, _⟩ => outcomes
  | _ => []

/-- What became of an outcome that was handed to a task which had got so many before. -/
inductive Fate (cancelled : Prop) (s : State) (t : Ticket) (count : Nat) (outcome : Outcome) :
    Prop where
  | taken (hTaken : (s.outcomesOf t)[count]? = some outcome)
  -- the task takes it when its turn comes
  | next {rest outcomes}
      (hTask : s.tasks.get? t = some ⟨.imports rest outcomes, .woken (.outcome outcome)⟩)
      (hCount : outcomes.length = count)
  -- the task was cancelled and does not go on
  | lost {rest outcomes phase} (hCancelled : cancelled)
      (hTask : s.tasks.get? t = some ⟨.imports rest outcomes, phase⟩)
      (hPhase : phase = .woken .cancelled ∨ phase = .ended .cancelled)
      (hCount : outcomes.length ≤ count)

variable {c c' : Prop} {count : Nat} {outcome : Outcome}

theorem outcomesOf_of_get {rest : List Import} {outcomes : List Outcome} {phase : Phase}
    (hTask : s.tasks.get? t = some ⟨.imports rest outcomes, phase⟩) :
    s.outcomesOf t = outcomes := by
  simp only [outcomesOf, hTask]

theorem outcomesOf_congr (hTask : s'.tasks.get? t = s.tasks.get? t) :
    s'.outcomesOf t = s.outcomesOf t := by
  rw [outcomesOf, outcomesOf, hTask]

/-- A task keeps what it got while it is woken or cancelled. -/
theorem outcomesOf_setTask {work : Work} {phase phase' : Phase}
    (hTask : s.tasks.get? t = some ⟨work, phase⟩) :
    (s.setTask t ⟨work, phase'⟩).outcomesOf t = s.outcomesOf t := by
  simp only [outcomesOf, tasks_setTask, Registry.get?_insert_self, hTask]
  cases work <;> rfl

theorem outcomesOf_wake (s : State) (t : Ticket) (w : Wake) :
    (s.wake t w).outcomesOf t = s.outcomesOf t := by
  rcases wake_cases s t w with ⟨work, hTask, h⟩ | h <;> rw [h]
  exact outcomesOf_setTask hTask

theorem outcomesOf_cancelTask (s : State) (t : Ticket) :
    (s.cancelTask t).1.outcomesOf t = s.outcomesOf t := by
  unfold cancelTask
  split
  · rfl
  · rfl
  · rename_i work hTask
    exact outcomesOf_setTask hTask
  · rename_i work phase _ _ hTask
    exact outcomesOf_setTask hTask

theorem outcomes_setTask (s : State) (t : Ticket) (rest : List Import) (outcomes : List Outcome)
    (phase : Phase) :
    outcomes <+: (s.setTask t ⟨.imports rest outcomes, phase⟩).outcomesOf t := by
  have hGot : (s.setTask t ⟨.imports rest outcomes, phase⟩).outcomesOf t = outcomes :=
    outcomesOf_of_get (Registry.get?_insert_self _ _ _)
  exact ⟨[], by rw [List.append_nil, hGot]⟩

theorem outcomes_runImports (env : Setup) (rest : List Import) (outcomes : List Outcome)
    (s : State) : outcomes <+: (runImports env t rest outcomes s).outcomesOf t := by
  induction rest generalizing s outcomes with
  | nil => exact outcomes_setTask _ _ _ _ _
  | cons what rest ih =>
    rcases hReply : s.resolve env what (.task t) with ⟨s₁, reply⟩
    cases reply with
    | answered outcome =>
      rw [runImports_of_answered hReply]
      split
      · exact outcomes_setTask _ _ _ _ _
      · exact (List.prefix_append outcomes [outcome]).trans (ih _ _)
    | deferred u =>
      rw [runImports_of_deferred hReply]
      exact outcomes_setTask _ _ _ _ _
    | noLoop =>
      rw [runImports_of_noLoop hReply]
      exact outcomes_setTask _ _ _ _ _

/-- A task that goes on keeps what it got. -/
theorem outcomes_resume (hKind : s.takesImports? t = some true) :
    s.outcomesOf t <+: (s.resume env t).outcomesOf t := by
  unfold resume
  split
  · rename_i work hTask
    cases work with
    | imports rest outcomes =>
      rw [outcomesOf_of_get hTask]
      exact outcomes_runImports env rest outcomes s
    | _ => simp [takesImports?, hTask, Work.isImports] at hKind
  · rename_i work w hTask
    cases work with
    | imports rest outcomes =>
      cases w with
      | outcome outcome =>
        rw [outcomesOf_of_get hTask]
        exact (List.prefix_append _ _).trans
          (outcomes_runImports env rest (outcomes ++ [outcome]) s)
      | _ =>
        rw [outcomesOf_of_get hTask]
        exact outcomes_setTask _ _ _ _ _
    | _ => simp [takesImports?, hTask, Work.isImports] at hKind
  · exact List.prefix_refl _

/-- A task that does not await anything is left alone when an outcome is handed to it. -/
theorem get?_handOver {work : Work} {phase : Phase} (hTask : s.tasks.get? t = some ⟨work, phase⟩)
    (hPhase : phase ≠ .suspended) (outcome : Outcome) :
    (s.handOver t outcome).tasks.get? t = some ⟨work, phase⟩ := by
  rcases wake_cases (s.note (.handed t outcome)) t (.outcome outcome) with ⟨_, hGet, _⟩ | hWake
  · rw [tasks_note, hTask] at hGet
    exact absurd (Task.mk.inj (Option.some.inj hGet)).2 hPhase
  · rw [State.handOver, hWake, tasks_note, hTask]

namespace Fate

theorem congr (h : Fate c s t count outcome) (hTask : s'.tasks.get? t = s.tasks.get? t)
    (hMore : c → c') : Fate c' s' t count outcome := by
  cases h with
  | taken hTaken => exact .taken (by rw [outcomesOf_congr hTask, hTaken])
  | next hGet hCount => exact .next (hTask.trans hGet) hCount
  | lost hCancelled hGet hPhase hCount =>
    exact .lost (hMore hCancelled) (hTask.trans hGet) hPhase hCount

theorem isTask (h : Fate c s t count outcome) : s.takesImports? t = some true := by
  cases h with
  | taken hTaken =>
    unfold outcomesOf at hTaken
    split at hTaken
    · rename_i hTask
      exact takesImports?_eq hTask
    · exact absurd hTaken (by simp)
  | next hTask => exact takesImports?_eq hTask
  | lost _ hTask => exact takesImports?_eq hTask

/-- What was taken stays taken. -/
theorem grow (hTaken : (s.outcomesOf t)[count]? = some outcome)
    (hGrow : s.outcomesOf t <+: s'.outcomesOf t) : Fate c s' t count outcome := by
  obtain ⟨more, hMore⟩ := hGrow
  obtain ⟨hLt, _⟩ := List.getElem?_eq_some_iff.mp hTaken
  refine .taken ?_
  rw [← hMore, List.getElem?_append_left hLt, hTaken]

theorem cancelTask (h : Fate c s t count outcome) (hCancelled : c') :
    Fate c' (s.cancelTask t).1 t count outcome := by
  cases h with
  | taken hTaken => exact .taken (by rw [outcomesOf_cancelTask, hTaken])
  | next hTask hCount =>
    simp only [State.cancelTask, hTask]
    exact .lost hCancelled (Registry.get?_insert_self _ _ _) (Or.inl rfl) (Nat.le_of_eq hCount)
  | lost _ hTask hPhase hCount =>
    rcases hPhase with rfl | rfl
    · simp only [State.cancelTask, hTask]
      exact .lost hCancelled (Registry.get?_insert_self _ _ _) (Or.inl rfl) hCount
    · simp only [State.cancelTask, hTask]
      exact .lost hCancelled hTask (Or.inr rfl) hCount

/-- The task takes the outcome when its turn comes. -/
theorem resume (h : Fate c s t count outcome) : Fate c (s.resume env t) t count outcome := by
  have hKind := h.isTask
  cases h with
  | taken hTaken => exact grow hTaken (outcomes_resume hKind)
  | @next rest outcomes hTask hCount =>
    obtain ⟨more, hMore⟩ := outcomes_runImports env rest (outcomes ++ [outcome]) s
    simp only [State.resume, hTask, goOn]
    refine .taken ?_
    rw [← hMore, List.append_assoc, List.getElem?_append_right (Nat.le_of_eq hCount), hCount]
    simp
  | lost hCancelled hTask hPhase hCount =>
    rcases hPhase with rfl | rfl
    · simp only [State.resume, hTask, goOn]
      exact .lost hCancelled (Registry.get?_insert_self _ _ _) (Or.inr rfl) hCount
    · simp only [State.resume, hTask]
      exact .lost hCancelled hTask (Or.inr rfl) hCount

/-- Another outcome that is handed to the task does not touch it. -/
theorem handOver (h : Fate c s t count outcome) (hTasks : s'.tasks = s.tasks) (other : Outcome) :
    Fate c (s'.handOver t other) t count outcome := by
  cases h with
  | taken hTaken =>
    refine .taken ?_
    rw [State.handOver, outcomesOf_wake, ← hTaken]
    exact congrArg (·[count]?) (outcomesOf_congr (by rw [tasks_note, hTasks]))
  | next hTask hCount => exact .next (get?_handOver (hTasks ▸ hTask) (by simp) other) hCount
  | lost hCancelled hTask hPhase hCount =>
    refine .lost hCancelled (get?_handOver (hTasks ▸ hTask) ?_ other) hPhase hCount
    rcases hPhase with rfl | rfl <;> simp

/-- **An outcome that was handed to a task** is taken by it, or lost when the task is cancelled
before, whatever happens. -/
theorem act (h : Reachable env config s) (hFate : Fate c s t count outcome) (a : Action) :
    Fate (c ∨ a = .cancelTask t) (s.act env a).1 t count outcome := by
  cases concern h hFate.isTask a with
  | none hTask => exact hFate.congr hTask Or.inl
  | cancel hAction =>
    subst hAction
    exact hFate.cancelTask (Or.inr rfl)
  | turn hAction hNext =>
    subst hAction
    have hPop : Fate (c ∨ Action.tick = .cancelTask t) s.pop t count outcome :=
      hFate.congr rfl Or.inl
    rw [State.act, hNext]
    exact hPop.resume
  | handed hAction hNext _ hTasks =>
    subst hAction
    have hSame : Fate (c ∨ Action.tick = .cancelTask t) s t count outcome := hFate.congr rfl Or.inl
    rw [State.act, hNext]
    exact hSame.handOver hTasks _

end Fate

-- ---------------------------------------------------------------------------
-- Runs
-- ---------------------------------------------------------------------------

theorem actAll_append (before after : List Action) (s : State) :
    (actAll env (before ++ after) s).1 = (actAll env after (actAll env before s).1).1 := by
  induction before generalizing s with
  | nil => rfl
  | cons a before ih => exact ih _

/-- Whether it is known of a task of imports where it stands. -/
def Tallied (env : Setup) (t : Ticket) (cancelled : Prop) (s : State) : Prop :=
  s.takesImports? t = some true →
    env.running = true ∧ ∃ first all hs, Tally env cancelled first all s t hs

theorem Tallied.act (h : Reachable env config s) (hTallied : Tallied env t c s) (a : Action) :
    Tallied env t (c ∨ a = .cancelTask t) (s.act env a).1 := by
  intro hKind
  by_cases hOld : s.takesImports? t = some true
  · obtain ⟨hRunning, first, all, hs, hTally⟩ := hTallied hOld
    exact ⟨hRunning, first, all, _, hTally.act h hRunning a⟩
  by_cases hStart : ∃ work, a = .start work
  · -- the task is the one that is started
    obtain ⟨work, rfl⟩ := hStart
    cases hRunning : env.running with
    | false => simp [State.act, startTask, hRunning, hOld] at hKind
    | true =>
      have hTasks : (s.act env (.start work)).1.tasks = s.tasks.insert s.tickets ⟨work, .ready⟩ := by
        simp [State.act, startTask, hRunning]
      rw [takesImports?, hTasks, Registry.get?_insert] at hKind
      split at hKind
      · rename_i hNumber
        subst hNumber
        cases work with
        | imports rest outcomes =>
          exact ⟨rfl, outcomes, rest.length, [],
            (tally_start h hRunning rest outcomes).congr rfl rfl rfl False.elim⟩
        | _ => simp [Work.isImports] at hKind
      · exact absurd hKind hOld
  · have hFrame : OnBehalf (s.number? a) s (s.act env a).1 :=
      act_onBehalf (fun work hEq => hStart ⟨work, hEq⟩) s
    exact absurd ((hFrame.kinds t).symm.trans hKind) hOld

theorem onBehalf_create (env : Setup) (config : Config) :
    OnBehalf none (seeded config) (create env config) := by
  simp only [create]
  split
  · exact onBehalf_prefetchAll _ _
  · exact .remark rfl

/-- In a run it is known of every task of imports where it stands. -/
theorem tallied_actAll (env : Setup) (config : Config) (t : Ticket) (actions : List Action) :
    Tallied env t (.cancelTask t ∈ actions) (actAll env actions (create env config)).1 := by
  have hMono : ∀ {c c' : Prop} {s}, (c → c') → Tallied env t c s → Tallied env t c' s := by
    intro c c' s hMore hTallied hKind
    obtain ⟨hRunning, first, all, hs, hTally⟩ := hTallied hKind
    exact ⟨hRunning, first, all, hs, hTally.congr rfl rfl rfl hMore⟩
  have hCreate : Tallied env t False (create env config) := by
    intro hKind
    have hNobody : (create env config).takesImports? t = none := (onBehalf_create env config).kinds t
    exact absurd (hNobody.symm.trans hKind) (by simp)
  have hRun : Tallied env t (False ∨ .cancelTask t ∈ actions)
      (actAll env actions (create env config)).1 :=
    run_of_act (P := fun c _ s => Tallied env t c s) hMono (fun h hTallied a => hTallied.act h a)
      .create [] hCreate actions
  exact hMono (fun hCancelled => hCancelled.resolve_left id) hRun

-- ---------------------------------------------------------------------------
-- An outcome is handed to a task
-- ---------------------------------------------------------------------------

theorem mem_forTask {r : Reception} {rs : List Reception} (hr : r ∈ rs)
    (hRoute : r.route = .handed t) : r.outcome ∈ rs.filterMap (Reception.forTask t) :=
  List.mem_filterMap.mpr ⟨r, hr, by simp [Reception.forTask, hRoute]⟩

theorem route_resume (s : State) (t : Ticket) :
    ∀ r ∈ s.jobReceptions env (.resume t), r.route = .task t := by
  unfold jobReceptions
  simp only
  split
  · split
    · exact route_taskReceptions t _ s
    · simp
  · simp

/-- What is handed to a task is for a task of imports. -/
theorem isTask_of_handed (h : Reachable env config s) {a : Action} {r : Reception}
    (hr : r ∈ s.receptions env a) (hRoute : r.route = .handed t) :
    s.takesImports? t = some true := by
  have hMine : s.number? a = some t := by
    by_contra hOther
    have hHeard := mem_forTask hr hRoute
    simp [filterMap_receptions a s hOther] at hHeard
  have hReceptions : ∀ {job rest}, s.queue = job :: rest →
      s.receptions env .tick = s.pop.jobReceptions env job := by
    intro job rest hQueue
    simp [receptions, hQueue]
  rcases concern_cases hMine with
    rfl | ⟨rfl, ⟨rest, hQueue⟩ | ⟨x, w, rest, hQueue, hIn, hNumber⟩⟩
  · simp [receptions] at hr
  · rw [hReceptions hQueue] at hr
    simp [route_resume _ _ r hr] at hRoute
  · rw [hReceptions hQueue] at hr
    cases w with
    | importing specifier citation session receiver =>
      cases receiver with
      | task u => exact h.roster.fits _ hIn t hNumber
      | callback u script =>
        -- a callback is called, and what it imports is answered at once
        have hHeard := mem_forTask hr hRoute
        simp only [jobReceptions] at hHeard
        rw [List.filterMap_cons, filterMap_scriptReceptions] at hHeard
        exact absurd hHeard (by simp [Reception.forTask])
    | _ => simp [jobReceptions] at hr

theorem fate_of_handed (h : Reachable env config s) (hTallied : Tallied env t c s) {a : Action}
    {r : Reception} (hr : r ∈ s.receptions env a) (hRoute : r.route = .handed t) :
    Fate c (s.act env a).1 t (s.outcomesOf t).length r.outcome := by
  have hKind : s.takesImports? t = some true := isTask_of_handed h hr hRoute
  have hHeard := mem_forTask hr hRoute
  obtain ⟨_, first, all, hs, hTally⟩ := hTallied hKind
  cases concern h hKind a with
  | none _ _ _ hSilent => simp [hSilent] at hHeard
  | cancel hAction =>
    subst hAction
    simp [receptions] at hr
  | turn hAction _ hTurn =>
    subst hAction
    rw [hTurn] at hr
    simp [route_resume _ _ r hr] at hRoute
  | @handed s₁ outcome hAction hNext hOnly hTasks _ _ hOwed =>
    subst hAction
    have hOutcome : r.outcome = outcome := by simpa [hOnly] using hHeard
    rw [State.act, hNext, hOutcome]
    rcases hTally.of_owed hOwed with
      ⟨rest, hTask, _⟩ | ⟨hCancelled, rest, outcomes, phase, hTask, hPhase, _⟩
    · rw [outcomesOf_of_get hTask]
      have hWoken : (s₁.handOver t outcome).tasks.get? t =
          some ⟨.imports rest (first ++ hs), .woken (.outcome outcome)⟩ := by
        simp [handOver, wake, hTasks, hTask]
      exact .next hWoken rfl
    · rw [outcomesOf_of_get hTask]
      refine .lost hCancelled (get?_handOver (hTasks ▸ hTask) ?_ outcome) hPhase (Nat.le_refl _)
      rcases hPhase with rfl | rfl <;> simp

-- ---------------------------------------------------------------------------
-- The first decision on a path
-- ---------------------------------------------------------------------------

theorem given_create (env : Setup) (config : Config) :
    (create env config).given = (seeded config).given := by
  simp only [create]
  split
  · exact given_prefetchAll _ _
  · exact given_note rfl

theorem decisions_create (env : Setup) (config : Config) (session : SessionId) :
    (create env config).decisions session = [] := by
  rw [decisions_of_given (given_create env config)]
  rfl

/-- In a run in which a path is decided one action decides it first. -/
theorem exists_first {actions : List Action} (hNew : ¬ s.Decided session path)
    (hDecided : (State.actAll env actions s).1.Decided session path) :
    ∃ before a after, actions = before ++ a :: after ∧
      ¬ (State.actAll env before s).1.Decided session path ∧
      ((State.actAll env before s).1.act env a).1.Decided session path := by
  induction actions generalizing s with
  | nil => exact absurd hDecided hNew
  | cons a rest ih =>
    by_cases hNow : (s.act env a).1.Decided session path
    · exact ⟨[], a, rest, rfl, hNew, hNow⟩
    · obtain ⟨before, b, after, hSplit, hBefore, hAfter⟩ := ih hNow hDecided
      exact ⟨a :: before, b, after, by rw [hSplit, List.cons_append], hBefore, hAfter⟩

/-- **What is suppressed was given before, unless it was lost by cancelling.** Whenever a
compilation was answered for a path, the path was passed through, or one action was the first to
decide it and gave its file to somebody. What is returned to the host or to a task that runs, and
what a callback is called with, is there at once. What is handed to a task becomes the next outcome
that it gets, at once or when its turn comes; it is lost only if the task is cancelled. -/
theorem given_unless_cancelled (env : Setup) (config : Config) (actions : List Action)
    (session : SessionId) (path : Path) :
    let s' := (actAll env actions (create env config)).1
    s'.Decided session path →
      (path, .passThrough) ∈ s'.decisions session ∨
      ∃ before a after r, actions = before ++ a :: after ∧
        let s := (actAll env before (create env config)).1
        ¬ s.Decided session path ∧ r ∈ s.receptions env a ∧ r.session = session ∧
        r.outcome = .file path.toString ∧
        ∀ t, r.route = .handed t →
          Fate (.cancelTask t ∈ actions) s' t (s.outcomesOf t).length r.outcome := by
  intro s' hDecided
  have hNew : ¬ (create env config).Decided session path := by
    rw [Decided, decisions_create]
    simp
  obtain ⟨before, a, after, hRun, hBefore, hAfter⟩ := exists_first hNew hDecided
  have hReach : Reachable env config (actAll env before (create env config)).1 :=
    .actAll before .create
  have hLast : s' = (actAll env after ((actAll env before (create env config)).1.act env a).1).1 := by
    show (actAll env actions (create env config)).1 = _
    rw [hRun, actAll_append]
    rfl
  rcases answered_first hReach a hBefore hAfter with hPassed | ⟨r, hr, hSession, hOutcome⟩
  · refine Or.inl ?_
    have hLater : Moves env True ((actAll env before (create env config)).1.act env a).1 s' :=
      hLast ▸ actAll_moves after (fun _ _ _ => trivial) _
    obtain ⟨more, hMore⟩ := hLater.decisions_grow session
    rw [hMore]
    exact List.mem_append_left _ hPassed
  · refine Or.inr ⟨before, a, after, r, hRun, hBefore, hr, hSession, hOutcome, fun t hRoute => ?_⟩
    have hFate : Fate (.cancelTask t ∈ before)
        ((actAll env before (create env config)).1.act env a).1 t _ r.outcome :=
      fate_of_handed hReach (tallied_actAll env config t before) hr hRoute
    have hEnd := run_of_act (P := fun c _ s => Fate c s t _ r.outcome)
      (fun hMore h => h.congr rfl hMore) (fun h hFate a => hFate.act h a) (hReach.act a) [] hFate
      after
    rw [hLast]
    refine hEnd.congr rfl ?_
    rintro (hOld | hLate)
    · exact hRun ▸ List.mem_append_left _ hOld
    · exact hRun ▸ List.mem_append_right _ (List.mem_cons_of_mem _ hLate)

/-- A task and a callback wait for the same entry point, and the task is cancelled before the pantry
comes. -/
def cancelledFirst : List Action :=
  let what : Import := ⟨.named "main", .str "p/i", .str "/main.scss"⟩
  let pantry : Pantry := ⟨none, some (.ofString "/p"), .ofList [("i",
    ⟨none, .ofString "/p/i", .ofList [("sass", "index.scss")]⟩)]⟩
  [.start (.imports [what] []), .tick, .tick, .cancelTask 0, .importing what .stop,
    .release 0 ⟨[], .pantry pantry⟩, .tick, .tick, .tick, .tick]

/-- So the file is handed to the task only, which has ended, and the callback is told that the path
was given before. -/
theorem given_unless_cancelledFirst :
    let s' := (actAll Setup.manual cancelledFirst (create Setup.manual Config.bare)).1
    s'.decisions (.named "main") = [(.ofString "/p/i/index.scss", .file "/p/i/index.scss"),
        (.ofString "/p/i/index.scss", .suppressed)] ∧
      allReceptions Setup.manual cancelledFirst (create Setup.manual Config.bare) =
        [⟨.handed 0, .named "main", .file "/p/i/index.scss"⟩,
          ⟨.callback 1, .named "main", .suppressed⟩] ∧
      s'.taskResult? 0 = some .cancelled ∧
      ∃ before a after r, cancelledFirst = before ++ a :: after ∧
        let s := (actAll Setup.manual before (create Setup.manual Config.bare)).1
        r ∈ s.receptions Setup.manual a ∧ r.outcome = .file "/p/i/index.scss" ∧
        ∀ t, r.route = .handed t →
          Fate (.cancelTask t ∈ cancelledFirst) s' t (s.outcomesOf t).length r.outcome := by
  intro s'
  have hDecisions : s'.decisions (.named "main") =
      [(.ofString "/p/i/index.scss", .file "/p/i/index.scss"),
        (.ofString "/p/i/index.scss", .suppressed)] := rfl
  have hDecided : s'.Decided (.named "main") (.ofString "/p/i/index.scss") := by
    rw [Decided, hDecisions]
    exact List.mem_cons_self
  refine ⟨hDecisions, rfl, rfl, ?_⟩
  rcases given_unless_cancelled Setup.manual Config.bare cancelledFirst (.named "main")
    (.ofString "/p/i/index.scss") hDecided with
    hPassed | ⟨before, a, after, r, hRun, _, hr, _, hOutcome, hFate⟩
  · exact absurd (hDecisions ▸ hPassed) (by simp [Outcome.suppressed])
  · exact ⟨before, a, after, r, hRun, hr, hOutcome, hFate⟩

end State

end Larder
