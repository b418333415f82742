import Larder.Proofs.Command.Reference

/-!
# Larder — where the resolve command stands

The command is one task with a list of imports. It stands before the list, between two imports or
after the last one, and this is where the reference stands too: what it has so far are the outcomes
of the specifiers that are done, and what its compilation has been given are the paths that these
lead to. Between two imports it waits for the pantry of the one that it is at, or it has been handed
the outcome of that one and has yet to go on.

While it waits, it is the only one who calls for a pantry. So whatever else happens leaves it where
it stands (`Stands.still`), and when a caller is told of a pantry then it is this task
(`Stands.told`). At its turn it goes on from import to import as long as the pantries are at hand
(`Stands.turn`). Each import that has to wait may start a discovery, so there are never more of
them than specifiers.

## Results

* `resolve_recorded`: an import is answered as the reference says, or deferred.
* `Stands.act`: where the command stands after whatever happens next.
* `stands_resolveAll`: where it stands at the beginning.
* `Stands.ended_of_quiet`: when nothing is under way it has ended.
-/

namespace Larder

namespace Resolve

-- ---------------------------------------------------------------------------
-- Vocabulary
-- ---------------------------------------------------------------------------

/-- The compilation that the command resolves imports for. -/
def session : SessionId := .unnamed 0

/-- Whether the compilation has been given the paths that some specifiers lead to. -/
def Recorded (leads : String → Option (Except Fault Path)) (done : List String) (s : State) :
    Prop :=
  ∀ path, path ∈ (s.emission session).paths ↔ path ∈ paths leads done

/-- The only task there is. -/
def only (t : Ticket) (task : Task) : Registry Ticket Task := Registry.empty.insert t task

/-- The task of the command when some specifiers are left and some outcomes are there. -/
def taskAt (document : Path) (rest : List String) (outcomes : List Outcome) (phase : Phase) :
    Task :=
  ⟨.imports (imports document rest) outcomes, phase⟩

/-- Where the command stands. So many discoveries may there be in the end. -/
inductive Stands (env : Setup) (leads : String → Option (Except Fault Path)) (document : Path)
    (specifiers : List String) (bound : Nat) (t : Ticket) (s : State) : Prop where
  -- the pantry of an import is awaited
  | waiting {done specifier rest citation} (hSplit : specifiers = done ++ specifier :: rest)
      (hCites : classify env.cwd (.str specifier) (.str document.toString) = .ingredient citation)
      (hTask : s.tasks = only t (taskAt document rest (outcomesAfter leads [] done) .suspended))
      (hRecorded : Recorded leads done s)
      (hCallers : s.callers.Perm [.importing specifier citation session (.task t)])
      (hCount : s.cache.flights.length + rest.length ≤ bound)
  -- its outcome has been handed over
  | answered {done specifier rest} (hSplit : specifiers = done ++ specifier :: rest)
      (hTask : s.tasks = only t (taskAt document rest (outcomesAfter leads [] done)
        (.woken (.outcome (outcomeAfter leads done specifier)))))
      (hRecorded : Recorded leads (done ++ [specifier]) s) (hCallers : s.callers.Perm [])
      (hCount : s.cache.flights.length + rest.length ≤ bound)
  | ended
      (hTask : s.tasks = only t (taskAt document [] (outcomesAfter leads [] specifiers)
        (.ended (.outcomes (outcomesAfter leads [] specifiers)))))
      (hCallers : s.callers.Perm []) (hCount : s.cache.flights.length ≤ bound)

variable {env : Setup} {config : Config} {result : String → Returned} {document : Path}
  {leads : String → Option (Except Fault Path)} {done rest specifiers : List String}
  {specifier : String} {citation : Citation} {bound : Nat} {s s' : State} {t : Ticket}

theorem insert_only (t : Ticket) (task task' : Task) :
    (only t task).insert t task' = only t task' :=
  Registry.insert_insert _ _ _ _

theorem get?_only (t : Ticket) (task : Task) : (only t task).get? t = some task :=
  Registry.get?_insert_self _ _ _

theorem get?_only_of_ne {u : Ticket} (h : u ≠ t) (task : Task) : (only t task).get? u = none :=
  Registry.get?_insert_of_ne _ _ h

theorem Recorded.of_given (h : Recorded leads done s) (hGiven : s'.given = s.given) :
    Recorded leads done s' := by
  intro path
  rw [State.emission_of_given hGiven]
  exact h path

-- ---------------------------------------------------------------------------
-- One import
-- ---------------------------------------------------------------------------

/-- An import whose pantry is there is answered as the reference says. -/
theorem resolveIn_recorded (hRecorded : Recorded leads done s) {pantry : Pantry}
    {ingredient : String}
    (hLeads : leads specifier =
      some (pantry.entryPointFor env.cwd ingredient Pantry.styleKind)) :
    (s.resolveIn env session specifier pantry ingredient).2 = outcomeAfter leads done specifier ∧
      Recorded leads (done ++ [specifier])
        (s.resolveIn env session specifier pantry ingredient).1 := by
  rcases State.resolveIn_cases env s session specifier pantry ingredient with
    ⟨path, hPath, hNormal, h⟩ | ⟨fault, hFault, h⟩ <;> rw [h]
  · rw [hPath] at hLeads
    have hGiven : (s.emission session).contains path = true ↔ path ∈ paths leads done := by
      rw [Emission.contains, hNormal, List.contains_iff_mem]
      exact hRecorded path
    refine ⟨?_, fun other => ?_⟩
    · unfold outcomeAfter
      rw [hLeads]
      show ((s.emission session).answer path _).2 = if path ∈ paths leads done then _ else _
      split
      · rename_i hBefore
        rw [Emission.answer_of_contains (hGiven.mpr hBefore)]
      · rename_i hNew
        rw [Emission.answer_of_not_contains (Bool.eq_false_iff.mpr (mt hGiven.mp hNew))]
    · show other ∈ ((State.setEmission s session _).emission session).paths ↔ _
      rw [State.emission_setEmission_self, mem_paths_append_singleton, hLeads]
      show other ∈ ((s.emission session).record path).1.paths ↔ _
      rw [Emission.mem_record, hNormal, hRecorded other, Option.some.injEq, Except.ok.injEq,
        or_comm, eq_comm]
  · rw [hFault] at hLeads
    refine ⟨?_, fun other => ?_⟩
    · unfold outcomeAfter
      rw [hLeads]
    · rw [mem_paths_append_singleton, hLeads, hRecorded other]
      simp

/-- So is one whose pantry it is told of. -/
theorem complete_recorded
    (hCites : classify env.cwd (.str specifier) (.str document.toString) = .ingredient citation)
    (hRecorded : Recorded (leadsTo env.cwd config result document) done s) :
    let told := s.complete env session specifier citation
      (.ofResult (config.comesTo result citation.pantryName))
    told.2 = outcomeAfter (leadsTo env.cwd config result document) done specifier ∧
      Recorded (leadsTo env.cwd config result document) (done ++ [specifier]) told.1 := by
  have hLeads : leadsTo env.cwd config result document specifier =
      some (entryOf env.cwd config result citation) := by
    unfold leadsTo
    rw [hCites]
  unfold entryOf at hLeads
  cases hComes : config.comesTo result citation.pantryName with
  | ok pantry =>
    rw [hComes] at hLeads
    exact resolveIn_recorded hRecorded hLeads
  | error fault =>
    rw [hComes] at hLeads
    refine ⟨?_, fun other => ?_⟩
    · unfold outcomeAfter
      rw [hLeads]
      rfl
    · rw [mem_paths_append_singleton, hLeads]
      exact (hRecorded other).trans (by simp)

/-- The import of a specifier. -/
def importOf (document : Path) (specifier : String) : Import :=
  ⟨session, .str specifier, .str document.toString⟩

/-- **An import is answered as the reference says, or it is deferred.** -/
theorem resolve_recorded (hRunning : env.running = true)
    (hKnows : ∀ name P, s.cache.get? name = some P → config.comesTo result name = .ok P)
    (hRelative : ∀ path,
      classify env.cwd (.str specifier) (.str document.toString) ≠ .relative path)
    (hRecorded : Recorded (leadsTo env.cwd config result document) done s) (t : Ticket) :
    (∃ s₁, s.resolve env (importOf document specifier) (.task t) =
        (s₁, .answered (outcomeAfter (leadsTo env.cwd config result document) done specifier)) ∧
      Recorded (leadsTo env.cwd config result document) (done ++ [specifier]) s₁ ∧
      s₁.fleet = s.fleet ∧ s₁.desk = s.desk) ∨
    ∃ citation, classify env.cwd (.str specifier) (.str document.toString) = .ingredient citation ∧
      s.resolve env (importOf document specifier) (.task t) =
        (s.defer env session specifier citation (.task t), .deferred t) := by
  cases hClass : classify env.cwd (.str specifier) (.str document.toString) with
  | relative path => exact absurd hClass (hRelative path)
  | ingredient citation =>
    have hClassed : classify env.cwd (importOf document specifier).specifier
        (importOf document specifier).file = .ingredient citation := hClass
    cases hGet : s.cache.get? citation.pantryName with
    | none =>
      refine Or.inr ⟨citation, rfl, ?_⟩
      unfold State.resolve
      rw [hClassed]
      dsimp only
      rw [hGet, hRunning]
      rfl
    | some P =>
      -- it is answered as if it were told of the pantry
      obtain ⟨hOutcome, hNext⟩ := complete_recorded hClass hRecorded
      rw [hKnows _ P hGet] at hOutcome hNext
      refine Or.inl ⟨_, ?_, hNext, State.fleet_complete _ _ _ _, State.desk_complete _ _ _ _ _ _⟩
      rw [← hOutcome]
      unfold State.resolve
      rw [hClassed]
      dsimp only
      rw [hGet]
      rfl
  | _ =>
    -- it is passed through
    have hLeads : leadsTo env.cwd config result document specifier = none := by
      unfold leadsTo
      rw [hClass]
    refine Or.inl ⟨s, ?_, fun other => ?_, rfl, rfl⟩
    · unfold outcomeAfter State.resolve importOf
      rw [hLeads]
      dsimp only
      rw [hClass]
    · rw [mem_paths_append_singleton, hLeads, hRecorded other]
      simp

-- ---------------------------------------------------------------------------
-- The task goes on
-- ---------------------------------------------------------------------------

/-- An import that waits for its pantry starts one discovery at most. -/
theorem length_flights_defer (env : Setup) (s : State) (specifier : String) (citation : Citation)
    (receiver : Receiver) :
    (s.defer env session specifier citation receiver).cache.flights.length ≤
      s.cache.flights.length + 1 := by
  unfold State.defer
  dsimp only
  rw [State.length_flights_attach]
  exact State.length_flights_request_le env
    (s.note (.deferred receiver.ticket specifier citation.pantryName)) citation.pantryName

/-- Then the task is the only one who calls for a pantry. -/
theorem callers_defer (hSound : s.fleet.Sound) (hCallers : s.callers.Perm []) (who : SessionId)
    (specifier : String) (citation : Citation) (t : Ticket) :
    (s.defer env who specifier citation (.task t)).callers.Perm
      [.importing specifier citation who (.task t)] := by
  have hWaits : (.importing specifier citation who (.task t) :: s.waiting).Perm
      (s.defer env who specifier citation (.task t)).waiting :=
    State.waiting_defer hSound who specifier citation (.task t)
  have hWaiting := hWaits.filter fun w => !w.isPrefetch
  rw [List.filter_cons_of_pos (by rfl)] at hWaiting
  exact hWaiting.symm.trans (hCallers.cons _)

/-- **A task that goes on** stands where the reference stands: at the next import that is deferred,
or at the end. -/
theorem stands_runImports (hRunning : env.running = true) (hPass : env.passThrough.isNull = false)
    (hSplit : specifiers = done ++ rest)
    (hRelative : NoneRelative env.cwd document rest)
    (hKnows : ∀ name P, s.cache.get? name = some P → config.comesTo result name = .ok P)
    (hSound : s.fleet.Sound) (hTasks : ∀ task, s.tasks.insert t task = only t task)
    (hRecorded : Recorded (leadsTo env.cwd config result document) done s)
    (hCallers : s.callers.Perm []) (hCount : s.cache.flights.length + rest.length ≤ bound) :
    Stands env (leadsTo env.cwd config result document) document specifiers bound t
      (State.runImports env t (imports document rest)
        (outcomesAfter (leadsTo env.cwd config result document) [] done) s) := by
  induction rest generalizing done s with
  | nil =>
    rw [List.append_nil] at hSplit
    subst hSplit
    exact .ended (hTasks _) hCallers hCount
  | cons specifier rest ih =>
    rw [NoneRelative, List.forall_mem_cons] at hRelative
    rw [show imports document (specifier :: rest) =
      importOf document specifier :: imports document rest from rfl]
    rcases resolve_recorded hRunning hKnows hRelative.1 hRecorded t with
      ⟨s₁, hAnswer, hNext, hFleet, hDesk⟩ | ⟨citation, hCites, hDeferred⟩
    · have hCache : s₁.cache = s.cache := congrArg Fleet.cache hFleet
      have hSame : s₁.tasks = s.tasks := congrArg Desk.tasks hDesk
      have hCallers₁ : s₁.callers = s.callers :=
        congrArg (fun D => D.waiting.filter fun w => !w.isPrefetch) hDesk
      rw [State.runImports_of_answered hAnswer, if_neg (by simp [hPass]),
        ← outcomesAfter_append_singleton]
      refine ih (by rw [hSplit, List.append_assoc]; rfl) hRelative.2 (by rwa [hCache])
        (hFleet ▸ hSound) (by rwa [hSame]) hNext (hCallers₁ ▸ hCallers) ?_
      rw [hCache]
      rw [List.length_cons] at hCount
      omega
    · rw [State.runImports_of_deferred hDeferred]
      refine .waiting hSplit hCites ?_ ?_ ?_ ?_
      · have hStill : (s.defer env session specifier citation (.task t)).tasks = s.tasks :=
          congrArg Desk.tasks (State.desk_defer _ _ _ _)
        rw [State.tasks_setTask, hStill, hTasks]
        rfl
      · exact hRecorded.of_given (State.given_defer _ _ _ _)
      · exact callers_defer hSound hCallers session specifier citation t
      · have hOne := length_flights_defer env s specifier citation (.task t)
        rw [List.length_cons] at hCount
        exact Nat.le_trans (Nat.add_le_add_right hOne _) (by omega)

-- ---------------------------------------------------------------------------
-- Turns of a single task
-- ---------------------------------------------------------------------------

section Turns

variable {x : Settlement} {who : SessionId} {jobs : List Job} {work : Work}

/-- A task that waits is handed the outcome of its import. -/
theorem tick_told (env : Setup)
    (hQueue : s.queue = .notify x (.importing specifier citation who (.task t)) :: jobs)
    (hTask : s.tasks = only t ⟨work, .suspended⟩) :
    let told := s.pop.complete env who specifier citation x
    (s.tick env).tasks = only t ⟨work, .woken (.outcome told.2)⟩ ∧
      (s.tick env).callers = s.pop.callers ∧ (s.tick env).cache = s.cache ∧
      (s.tick env).given = told.1.given := by
  intro told
  have hDesk : told.1.desk = s.pop.desk := State.desk_complete _ _ _ _ _ _
  have hCache : told.1.cache = s.cache := congrArg Fleet.cache (State.fleet_complete _ _ _ _)
  have hTasks : told.1.tasks = only t ⟨work, .suspended⟩ :=
    (congrArg Desk.tasks hDesk).trans hTask
  have hTick : s.tick env = told.1.handOver t told.2 := by
    simp only [State.tick, hQueue]
    rw [show ({ s with queue := jobs } : State) = s.pop by simp [State.pop, hQueue]]
    rfl
  have hAside : State.Aside told.1 (told.1.handOver t told.2) := State.aside_handOver _ _
  rw [hTick]
  refine ⟨?_, ?_, hAside.cache.trans hCache, State.given_of_aside hAside⟩
  · unfold State.handOver State.wake
    rw [State.tasks_note, hTasks, get?_only]
    show (State.tasks (told.1.note _)).insert t _ = _
    rw [State.tasks_note, hTasks, insert_only]
  · rw [State.callers, State.waiting_of_aside hAside,
      show told.1.waiting = s.pop.waiting from congrArg Desk.waiting hDesk]
    rfl

theorem tick_turn (env : Setup) (hQueue : s.queue = .resume t :: jobs) :
    s.tick env = s.pop.resume env t := by
  simp only [State.tick, hQueue]
  rw [show ({ s with queue := jobs } : State) = s.pop by simp [State.pop, hQueue]]
  rfl

/-- A task that cannot run lets its turn go by. -/
theorem tick_idle (env : Setup) (hQueue : s.queue = .resume t :: jobs) {phase : Phase}
    (hTask : s.tasks = only t ⟨work, phase⟩) (hIdle : phase.isRunnable = false) :
    s.tick env = s.pop := by
  have hGet : s.pop.tasks.get? t = some ⟨work, phase⟩ := by
    show s.tasks.get? t = _
    rw [hTask, get?_only]
  rw [tick_turn env hQueue, State.resume, hGet]
  cases phase with
  | suspended => rfl
  | ended => rfl
  | _ => cases hIdle

/-- A task that was handed an outcome goes on with its imports. -/
theorem tick_woken (env : Setup) (hQueue : s.queue = .resume t :: jobs) {left : List Import}
    {outcomes : List Outcome} {outcome : Outcome}
    (hTask : s.tasks = only t ⟨.imports left outcomes, .woken (.outcome outcome)⟩) :
    s.tick env = State.runImports env t left (outcomes ++ [outcome]) s.pop := by
  have hGet : s.pop.tasks.get? t = some _ := hTask ▸ get?_only _ _
  rw [tick_turn env hQueue, State.resume, hGet]
  rfl

end Turns

-- ---------------------------------------------------------------------------
-- What happens to the task
-- ---------------------------------------------------------------------------

namespace Stands

/-- There is the task of the command and no other one. -/
theorem tasks_eq (h : Stands env leads document specifiers bound t s) :
    ∃ rest outcomes phase, s.tasks = only t (taskAt document rest outcomes phase) := by
  cases h with
  | waiting _ _ hTask => exact ⟨_, _, _, hTask⟩
  | answered _ hTask => exact ⟨_, _, _, hTask⟩
  | ended hTask => exact ⟨_, _, _, hTask⟩

theorem alone (h : Stands env leads document specifiers bound t s) {u : Ticket} (hNe : u ≠ t) :
    s.tasks.get? u = none := by
  obtain ⟨_, _, _, hTask⟩ := h.tasks_eq
  rw [hTask, get?_only_of_ne hNe]

/-- A discovery that goes on leaves the task where it stands. -/
theorem still (h : Stands env leads document specifiers bound t s) (hStill : s.Still s') :
    Stands env leads document specifiers bound t s' := by
  have hFlights := hStill.flights
  cases h with
  | waiting hSplit hCites hTask hRecorded hCallers hCount =>
    exact .waiting hSplit hCites (hStill.tasks.trans hTask) (hRecorded.of_given hStill.given)
      (hStill.callers.symm.trans hCallers) (hFlights ▸ hCount)
  | answered hSplit hTask hRecorded hCallers hCount =>
    exact .answered hSplit (hStill.tasks.trans hTask) (hRecorded.of_given hStill.given)
      (hStill.callers.symm.trans hCallers) (hFlights ▸ hCount)
  | ended hTask hCallers hCount =>
    exact .ended (hStill.tasks.trans hTask) (hStill.callers.symm.trans hCallers)
      (hFlights ▸ hCount)

/-- A caller who is told of what a pantry came to is the task, and is handed its outcome. -/
theorem told (h : Stands env (leadsTo env.cwd config result document) document specifiers bound t s)
    {x : Settlement} {w : Waiter} {jobs : List Job} (hQueue : s.queue = .notify x w :: jobs)
    (hCalls : w.isPrefetch = false)
    (hTells : ∀ name, w.cited? = some name → x = .ofResult (config.comesTo result name)) :
    Stands env (leadsTo env.cwd config result document) document specifiers bound t
      (s.tick env) := by
  have hLeaves := State.callers_pop_caller hQueue hCalls
  cases h with
  | answered _ _ _ hCallers =>
    exact absurd (hLeaves.symm.trans hCallers).eq_nil (List.cons_ne_nil _ _)
  | ended _ hCallers => exact absurd (hLeaves.symm.trans hCallers).eq_nil (List.cons_ne_nil _ _)
  | @waiting done specifier rest citation hSplit hCites hTask hRecorded hCallers hCount =>
    obtain ⟨rfl, hNobody⟩ := List.cons.inj (List.perm_singleton.mp (hLeaves.symm.trans hCallers))
    obtain rfl := hTells _ rfl
    obtain ⟨hOutcome, hNext⟩ := complete_recorded (s := s.pop) hCites hRecorded
    obtain ⟨hWoken, hCallers', hCache, hGiven⟩ := tick_told env hQueue hTask
    refine .answered hSplit (hOutcome ▸ hWoken) (hNext.of_given hGiven) ?_ ?_
    · rw [hCallers']
      exact .of_eq hNobody
    · rw [hCache]
      exact hCount

/-- At its turn the task goes on if it has been handed an outcome. -/
theorem turn (h : Stands env (leadsTo env.cwd config result document) document specifiers bound t s)
    (hRunning : env.running = true) (hPass : env.passThrough.isNull = false)
    (hRelative : NoneRelative env.cwd document specifiers)
    (hKnows : ∀ name P, s.cache.get? name = some P → config.comesTo result name = .ok P)
    (hSound : s.fleet.Sound) {jobs : List Job} (hQueue : s.queue = .resume t :: jobs) :
    Stands env (leadsTo env.cwd config result document) document specifiers bound t
      (s.tick env) := by
  have hPop : s.Still s.pop := .pop_silent hQueue rfl
  cases h with
  | waiting hSplit hCites hTask hRecorded hCallers hCount =>
    rw [tick_idle env hQueue hTask rfl]
    exact (Stands.waiting hSplit hCites hTask hRecorded hCallers hCount).still hPop
  | ended hTask hCallers hCount =>
    rw [tick_idle env hQueue hTask rfl]
    exact (Stands.ended hTask hCallers hCount).still hPop
  | @answered done specifier rest hSplit hTask hRecorded hCallers hCount =>
    rw [tick_woken env hQueue hTask, ← outcomesAfter_append_singleton]
    refine stands_runImports hRunning hPass (by rw [hSplit, List.append_assoc]; rfl)
      (fun other hMem => hRelative other ?_) hKnows (State.sound_pop hSound hQueue fun _ => rfl)
      (fun task => ?_) hRecorded (hPop.callers.symm.trans hCallers) hCount
    · rw [hSplit]
      exact List.mem_append_right _ (List.mem_cons_of_mem _ hMem)
    · show s.tasks.insert t task = _
      rw [hTask, insert_only]

/-- **Whatever happens next leaves the command where the reference stands.** -/
theorem act (h : Stands env (leadsTo env.cwd config result document) document specifiers bound t s)
    (hRunning : env.running = true) (hPass : env.passThrough.isNull = false)
    (hRelative : NoneRelative env.cwd document specifiers)
    (hMoves : State.Moves env False (State.seeded config) s) (hFixed : s.Fixed result) {a : Action}
    (hLoad : a.isLoad = true) :
    Stands env (leadsTo env.cwd config result document) document specifiers bound t
      (s.act env a).1 := by
  rcases State.load_cases env hLoad fun _ hNe => h.alone hNe with
    hStill | ⟨rfl, ⟨x, w, jobs, hQueue, hCalls⟩ | ⟨jobs, hQueue⟩⟩
  · exact h.still hStill
  · refine h.told hQueue hCalls fun name hCited => hMoves.told_eq hFixed ?_ hCited
    rw [hQueue]
    exact List.mem_cons_self
  · exact h.turn hRunning hPass hRelative (fun _ _ => hMoves.comesTo_of_get? hFixed) hMoves.sound
      hQueue

/-- The command goes on standing where the reference stands as long as pantries are loaded. -/
theorem run (h : Stands env (leadsTo env.cwd config result document) document specifiers bound t s)
    (hRunning : env.running = true) (hPass : env.passThrough.isNull = false)
    (hRelative : NoneRelative env.cwd document specifiers)
    (hMoves : State.Moves env False (State.seeded config) s) {loads : List Action}
    (hLoads : ∀ a ∈ loads, a.isLoad = true) (hFixed : (State.actAll env loads s).1.Fixed result) :
    Stands env (leadsTo env.cwd config result document) document specifiers bound t
      (State.actAll env loads s).1 := by
  induction loads generalizing s with
  | nil => exact h
  | cons a loads ih =>
    obtain ⟨hLoad, hRest⟩ := List.forall_mem_cons.mp hLoads
    have hMove : State.Moves env False s (s.act env a).1 := State.act_moves_of_isLoad env hLoad s
    have hNow : s.Fixed result := State.Fixed.of_loads hFixed hMoves.sound hLoads
    exact ih (h.act hRunning hPass hRelative hMoves hNow hLoad) (hMoves.trans hMove) hRest hFixed

/-- **When nothing is under way the command has ended**: nobody waits then, and there is no turn
that a task is to have. -/
theorem ended_of_quiet (h : Stands env leads document specifiers bound t s)
    (hMoves : State.Moves env False (State.seeded config) s) (hQuiet : s.Quiet) :
    s.taskResult? t = some (.outcomes (outcomesAfter leads [] specifiers)) := by
  cases h with
  | waiting _ _ _ _ hCallers =>
    rw [State.callers, State.waiting_of_quiet hMoves.sound hQuiet] at hCallers
    exact absurd hCallers.nil_eq (List.cons_ne_nil _ _).symm
  | answered _ hTask =>
    have hCalled := hMoves.roster.called (hTask ▸ get?_only _ _) rfl
    rw [hQuiet.1] at hCalled
    exact absurd hCalled List.not_mem_nil
  | ended hTask => rw [State.taskResult?, hTask, get?_only]; rfl

end Stands

-- ---------------------------------------------------------------------------
-- The beginning
-- ---------------------------------------------------------------------------

/-- Whether nothing was asked of an importer yet, except that it loads pantries. -/
structure Unasked (s : State) : Prop where
  tasks : s.tasks = .empty
  emission : s.emission session = Emission.empty
  callers : s.callers.Perm []

theorem unasked_create (env : Setup) (config : Config) : Unasked (State.create env config) := by
  have hSound := State.sound_seeded config
  have hNobody : (State.seeded config).callers = [] := by
    simp [State.callers, State.waiting, State.seeded, (Cache.ofSeeds_empty config.pantries).2]
  refine ⟨?_, State.emission_of_given (State.given_create env config) session, ?_⟩
  · simp only [State.create]
    split
    · exact State.tasks_prefetchAll _ _ _
    · rfl
  · rw [← hNobody]
    simp only [State.create]
    split
    · exact (State.callers_prefetchAll env _ hSound).symm
    · exact .refl _

namespace Unasked

theorem still (h : Unasked s) (hStill : s.Still s') : Unasked s' :=
  ⟨hStill.tasks.trans h.tasks, (State.emission_of_given hStill.given session).trans h.emission,
    hStill.callers.symm.trans h.callers⟩

theorem act (h : Unasked s) {a : Action} (hLoad : a.isLoad = true) : Unasked (s.act env a).1 := by
  have hNone : ∀ t, s.tasks.get? t = none := fun t => by rw [h.tasks]; rfl
  rcases State.load_cases env (t := 0) hLoad fun t _ => hNone t with
    hStill | ⟨rfl, ⟨x, w, jobs, hQueue, hCalls⟩ | ⟨jobs, hQueue⟩⟩
  · exact h.still hStill
  · have hLeaves := State.callers_pop_caller hQueue hCalls
    exact absurd (hLeaves.symm.trans h.callers).eq_nil (List.cons_ne_nil _ _)
  · have hTick : s.tick env = s.pop := by
      simp only [State.tick, hQueue, State.perform, State.resume, hNone, State.pop, List.tail_cons]
    show Unasked (s.tick env)
    rw [hTick]
    exact h.still (.pop_silent hQueue rfl)

theorem run (h : Unasked s) {loads : List Action} (hLoads : ∀ a ∈ loads, a.isLoad = true) :
    Unasked (State.actAll env loads s).1 := by
  induction loads generalizing s with
  | nil => exact h
  | cons a loads ih =>
    obtain ⟨hLoad, hRest⟩ := List.forall_mem_cons.mp hLoads
    exact ih (h.act hLoad) hRest

end Unasked

end Resolve

end Larder
