import Larder.Proofs.Command.Resolve

/-!
# Larder — one outcome for each specifier

Whatever the specifiers of the resolve command are, relative ones included, and whatever the tree
has: the command has as many outcomes as it has finished imports, and it finishes all of them. Each
of them is answered at once or waits for its pantry, and then its outcome comes later; in neither
case does it come twice. The command waits for nothing that does not come, since discovery answers
at once. So when it ends there is one outcome for each specifier.

## Results

* `counts_runImports`: imports that are answered one after another are counted one after another.
* `Counts.act`: what happens to the command next keeps the count.
* `exists_outcomes`: run from the command line, the command ends with one outcome for each
  specifier.
-/

namespace Larder

namespace Resolve

variable {env : Setup} {config : Config} {all : Nat} {s s' : State} {t : Ticket}

/-- How far the command is: so many outcomes are there, and so many imports are left. -/
inductive Counts (all : Nat) (t : Ticket) (s : State) : Prop where
  -- the outcome of an import will be handed over
  | waiting {left os specifier citation who}
      (hTask : s.tasks = only t ⟨.imports left os, .suspended⟩)
      (hCallers : s.callers.Perm [.importing specifier citation who (.task t)])
      (hCount : os.length + 1 + left.length = all)
  -- it has been handed over
  | answered {left os outcome}
      (hTask : s.tasks = only t ⟨.imports left os, .woken (.outcome outcome)⟩)
      (hCallers : s.callers.Perm []) (hCount : os.length + 1 + left.length = all)
  | ended {os} (hTask : s.tasks = only t ⟨.imports [] os, .ended (.outcomes os)⟩)
      (hCallers : s.callers.Perm []) (hCount : os.length = all)

-- ---------------------------------------------------------------------------
-- The task goes on
-- ---------------------------------------------------------------------------

/-- In a running loop an import is answered, and nobody waits for more than before, or it is
deferred. -/
theorem answered_or_deferred (hRunning : env.running = true) (s : State) (what : Import)
    (t : Ticket) :
    (∃ s₁ outcome, s.resolve env what (.task t) = (s₁, .answered outcome) ∧
      s₁.fleet = s.fleet ∧ s₁.desk = s.desk) ∨
    ∃ citation, s.resolve env what (.task t) =
      (s.defer env what.session what.specifier.text citation (.task t), .deferred t) := by
  rcases State.resolve_cases env s what (.task t) with
    ⟨_, _, _, h⟩ | ⟨_, h⟩ | ⟨citation, _, _, h⟩ | ⟨hIdle, _⟩
  · exact .inl ⟨_, _, h, State.fleet_giveOnce _ _ _, State.desk_giveOnce _ _ _⟩
  · exact .inl ⟨_, _, h, rfl, rfl⟩
  · exact .inr ⟨citation, h⟩
  · rw [hRunning] at hIdle
    cases hIdle

/-- **A task that goes on** counts the imports that are answered, up to one that is deferred. -/
theorem counts_runImports (hRunning : env.running = true) (hPass : env.passThrough.isNull = false)
    {left : List Import} {os : List Outcome} (hSound : s.fleet.Sound)
    (hTasks : ∀ task, s.tasks.insert t task = only t task) (hCallers : s.callers.Perm [])
    (hCount : os.length + left.length = all) :
    Counts all t (State.runImports env t left os s) := by
  induction left generalizing os s with
  | nil => exact .ended (hTasks _) hCallers hCount
  | cons what rest ih =>
    rw [List.length_cons] at hCount
    rcases answered_or_deferred hRunning s what t with
      ⟨s₁, outcome, hAnswer, hFleet, hDesk⟩ | ⟨citation, hDeferred⟩
    · have hSame : s₁.tasks = s.tasks := congrArg Desk.tasks hDesk
      have hCallers₁ : s₁.callers = s.callers :=
        congrArg (fun D => D.waiting.filter fun w => !w.isPrefetch) hDesk
      rw [State.runImports_of_answered hAnswer, if_neg (by simp [hPass])]
      refine ih (hFleet ▸ hSound) (by rwa [hSame]) (hCallers₁ ▸ hCallers) ?_
      rw [List.length_append, List.length_singleton]
      omega
    · rw [State.runImports_of_deferred hDeferred]
      have hStill : (s.defer env what.session what.specifier.text citation (.task t)).tasks =
          s.tasks := congrArg Desk.tasks (State.desk_defer _ _ _ _)
      have hTask : ((s.defer env what.session what.specifier.text citation (.task t)).setTask t
          ⟨.imports rest os, .suspended⟩).tasks = only t ⟨.imports rest os, .suspended⟩ := by
        rw [State.tasks_setTask, hStill, hTasks]
      exact .waiting hTask (callers_defer hSound hCallers _ _ citation t) (by omega)

-- ---------------------------------------------------------------------------
-- What happens to the task
-- ---------------------------------------------------------------------------

namespace Counts

/-- There is one task, of imports. -/
theorem tasks_eq (h : Counts all t s) :
    ∃ left os phase, s.tasks = only t ⟨.imports left os, phase⟩ := by
  cases h with
  | waiting hTask => exact ⟨_, _, _, hTask⟩
  | answered hTask => exact ⟨_, _, _, hTask⟩
  | ended hTask => exact ⟨_, _, _, hTask⟩

/-- Nobody calls for a pantry but the task. -/
theorem callback?_eq_none (h : Counts all t s) {w : Waiter} (hw : w ∈ s.callers) :
    w.callback? = none := by
  cases h with
  | waiting _ hCallers =>
    rw [List.mem_singleton.mp (hCallers.mem_iff.mp hw)]
    rfl
  | answered _ hCallers => exact absurd (hCallers.mem_iff.mp hw) List.not_mem_nil
  | ended _ hCallers => exact absurd (hCallers.mem_iff.mp hw) List.not_mem_nil

/-- A discovery that goes on leaves the count as it is. -/
theorem still (h : Counts all t s) (hStill : s.Still s') : Counts all t s' := by
  cases h with
  | waiting hTask hCallers hCount =>
    exact .waiting (hStill.tasks.trans hTask) (hStill.callers.symm.trans hCallers) hCount
  | answered hTask hCallers hCount =>
    exact .answered (hStill.tasks.trans hTask) (hStill.callers.symm.trans hCallers) hCount
  | ended hTask hCallers hCount =>
    exact .ended (hStill.tasks.trans hTask) (hStill.callers.symm.trans hCallers) hCount

/-- A caller who is told of a pantry is the task, and is handed the outcome that it waits for. -/
theorem told (h : Counts all t s) {x : Settlement} {w : Waiter} {jobs : List Job}
    (hQueue : s.queue = .notify x w :: jobs) (hCalls : w.isPrefetch = false) :
    Counts all t (s.tick env) := by
  have hLeaves := State.callers_pop_caller hQueue hCalls
  cases h with
  | answered _ hCallers =>
    exact absurd (hLeaves.symm.trans hCallers).eq_nil (List.cons_ne_nil _ _)
  | ended _ hCallers => exact absurd (hLeaves.symm.trans hCallers).eq_nil (List.cons_ne_nil _ _)
  | waiting hTask hCallers hCount =>
    obtain ⟨rfl, hNobody⟩ := List.cons.inj (List.perm_singleton.mp (hLeaves.symm.trans hCallers))
    obtain ⟨hWoken, hCallers', -⟩ := tick_told env hQueue hTask
    exact .answered hWoken (hCallers' ▸ .of_eq hNobody) hCount

/-- At its turn the task goes on if it has been handed an outcome. -/
theorem turn (h : Counts all t s) (hRunning : env.running = true)
    (hPass : env.passThrough.isNull = false) (hSound : s.fleet.Sound) {jobs : List Job}
    (hQueue : s.queue = .resume t :: jobs) : Counts all t (s.tick env) := by
  have hPop : s.Still s.pop := .pop_silent hQueue rfl
  cases h with
  | waiting hTask hCallers hCount =>
    rw [tick_idle env hQueue hTask rfl]
    exact (Counts.waiting hTask hCallers hCount).still hPop
  | ended hTask hCallers hCount =>
    rw [tick_idle env hQueue hTask rfl]
    exact (Counts.ended hTask hCallers hCount).still hPop
  | answered hTask hCallers hCount =>
    rw [tick_woken env hQueue hTask]
    refine counts_runImports hRunning hPass (State.sound_pop hSound hQueue fun _ => rfl)
      (fun task => ?_) (hPop.callers.symm.trans hCallers) ?_
    · show s.tasks.insert t task = _
      rw [hTask, insert_only]
    · rw [List.length_append, List.length_singleton, hCount]

/-- **Whatever happens next keeps the count.** -/
theorem act (h : Counts all t s) (hRunning : env.running = true)
    (hPass : env.passThrough.isNull = false) (hSound : s.fleet.Sound) {a : Action}
    (hLoad : a.isLoad = true) : Counts all t (s.act env a).1 := by
  obtain ⟨_, _, _, hTasks⟩ := h.tasks_eq
  rcases State.load_cases env hLoad fun _ hNe => hTasks ▸ get?_only_of_ne hNe _ with
    hStill | ⟨rfl, ⟨x, w, jobs, hQueue, hCalls⟩ | ⟨jobs, hQueue⟩⟩
  · exact h.still hStill
  · exact h.told hQueue hCalls
  · exact h.turn hRunning hPass hSound hQueue

/-- When nothing is under way the command has ended, with all outcomes. -/
theorem ended_of_quiet (h : Counts all t s) (hMoves : State.Moves env False (State.seeded config) s)
    (hQuiet : s.Quiet) : ∃ os, s.taskResult? t = some (.outcomes os) ∧ os.length = all := by
  cases h with
  | waiting _ hCallers =>
    rw [State.callers, State.waiting_of_quiet hMoves.sound hQuiet] at hCallers
    exact absurd hCallers.nil_eq (List.cons_ne_nil _ _).symm
  | answered hTask =>
    have hCalled := hMoves.roster.called (hTask ▸ get?_only _ _) rfl
    rw [hQuiet.1] at hCalled
    exact absurd hCalled List.not_mem_nil
  | ended hTask _ hCount =>
    refine ⟨_, ?_, hCount⟩
    rw [State.taskResult?, hTask, get?_only]

end Counts

-- ---------------------------------------------------------------------------
-- From the command line
-- ---------------------------------------------------------------------------

/-- At the beginning no import is finished, except those that are answered at once. -/
theorem counts_resolveAll (hRunning : env.running = true) (hPass : env.passThrough.isNull = false)
    (hMoves : State.Moves env False (State.seeded config) s) (hUnasked : Unasked s)
    (what : List Import) : Counts what.length s.tickets (s.resolveAll env what).1 := by
  let names := s.cache.locations.keys
  have hNumber : State.Moves env False (State.seeded config) s.takeTicket := hMoves.tail .number
  have hLoading : State.Moves env False (State.seeded config)
      (State.prefetchAll env names s.takeTicket) :=
    hNumber.trans (State.prefetchAll_moves names _)
  refine counts_runImports hRunning hPass hLoading.sound (fun task => ?_) ?_ (Nat.zero_add _)
  · rw [State.tasks_prefetchAll]
    exact congrArg (Registry.insert · s.tickets task) hUnasked.tasks
  · exact (State.callers_prefetchAll env names hNumber.sound).symm.trans hUnasked.callers

/-- All turns keep the count where discovery answers at once. -/
theorem counts_run {answer : Call → Landing} (hRunning : env.running = true)
    (hPass : env.passThrough.isNull = false)
    (hAnswers : ∀ i call, env.collaborator i call = some (answer call)) (n : Nat)
    (h : Counts all t s) (hMoves : State.Moves env False (State.seeded config) s)
    (hPrompt : s.Prompt answer) :
    Counts all t (State.run env n s) ∧
      State.Moves env False (State.seeded config) (State.run env n s) ∧
      (State.run env n s).Prompt answer := by
  induction n generalizing s with
  | zero => exact ⟨h, hMoves, hPrompt⟩
  | succ n ih =>
    have hTick : State.Moves env False s (s.tick env) := State.tick_moves
    obtain ⟨_, _, _, hTasks⟩ := h.tasks_eq
    have hNext : (s.tick env).Prompt answer :=
      hPrompt.tick hAnswers (fun _ _ => isImports_of_only hTasks) fun x w hJob =>
        callback?_eq_none_of_callers (fun _ => h.callback?_eq_none) (List.mem_append_right _
          (List.mem_flatMap.mpr ⟨_, hJob, List.mem_singleton_self w⟩))
    exact ih (h.act hRunning hPass hMoves.sound (a := .tick) rfl) (hMoves.trans hTick) hNext

/-- **Run from the command line, the command ends with one outcome for each specifier.** -/
theorem exists_outcomes (w : World) (config : Config) (document : Path)
    (specifiers : List String) :
    let s := settled (w.setup config true) (w.importer config) (imports document specifiers)
    ∃ os, s.1.taskResult? s.2 = some (.outcomes os) ∧ os.length = specifiers.length := by
  intro s
  let env := w.setup config true
  let begun := (w.importer config).resolveAll env (imports document specifiers)
  have hOpening : Opening env config (w.importer config) := .created false
  obtain ⟨hCounts, hMoves, hPrompt⟩ := counts_run rfl rfl (fun _ _ => rfl) begun.1.work
    (counts_resolveAll rfl rfl hOpening.moves hOpening.unasked (imports document specifiers))
    (hOpening.resolveAll_moves rfl _) (prompt_begun w config _)
  obtain ⟨os, hResult, hLength⟩ := hCounts.ended_of_quiet hMoves
    (hPrompt.quiet hMoves (State.queue_drain env begun.1))
  exact ⟨os, hResult, hLength.trans (List.length_map _)⟩

end Resolve

end Larder
