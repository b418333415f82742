import Larder.Proofs.Importer.Desk

/-!
# Larder — every deferred import is answered once

An import that cannot be answered at once is deferred under a number, and its outcome follows: its
completion callback is called, or the outcome is handed to the task that awaits it. A number of a
callback is used for one import; a task uses its own number for all its imports, of which it defers
the next one only when the last one was answered.

The accounts of a number say that whatever was deferred under it was answered or still waits. They
are kept by each step of the desk, whatever becomes of the discoveries: a promise that is cancelled
tells those who wait, too. When nothing is under way nobody waits, and so everything is answered.
Imports that are bound to no compilation keep no accounts: hosts make none, and their numbers are
never those of other imports.

## Results

* `Desk.Accounts.step`: a step of the desk keeps the accounts.
* `answered_once`: in all runs an import is answered at once or once later, never twice.
-/

namespace Larder

-- ---------------------------------------------------------------------------
-- Vocabulary
-- ---------------------------------------------------------------------------

/-- Whether an event defers an import under a number. -/
def Event.isDeferralOf (t : Ticket) : Event → Bool
  | .deferred u _ _ => u = t
  | _ => false

/-- Whether an event answers an import that was deferred under a number. -/
def Event.isAnswerOf (t : Ticket) : Event → Bool
  | .delivered u _ => u = t
  | .handed u _ => u = t
  | _ => false

/-- The outcome that an event answers a deferred import with. -/
def Event.answer? : Event → Option Outcome
  | .delivered _ outcome => some outcome
  | .handed _ outcome => some outcome
  | _ => none

/-- Whether imports under a number were answered one after another. -/
def InTurn (t : Ticket) (log : List Event) : Prop :=
  log.countP (Event.isAnswerOf t) ≤ log.countP (Event.isDeferralOf t) ∧
    log.countP (Event.isDeferralOf t) ≤ log.countP (Event.isAnswerOf t) + 1

theorem isUnbound_congr {tasks tasks' : Registry Ticket Task} {t : Ticket}
    (h : tasks'.get? t = tasks.get? t) : IsUnbound tasks' t ↔ IsUnbound tasks t := by
  rw [IsUnbound, IsUnbound, h]

theorem isUnbound_iff {tasks : Registry Ticket Task} {t : Ticket} {work : Work} {phase : Phase}
    (hTask : tasks.get? t = some ⟨work, phase⟩) : IsUnbound tasks t ↔ work.isUnbound = true := by
  constructor
  · rintro ⟨work', phase', hTask', hWork⟩
    rw [hTask] at hTask'
    obtain ⟨rfl, rfl⟩ := Task.mk.inj (Option.some.inj hTask')
    exact hWork
  · exact fun hWork => ⟨work, phase, hTask, hWork⟩

theorem not_isUnbound_of_none {tasks : Registry Ticket Task} {t : Ticket}
    (h : tasks.get? t = none) : ¬ IsUnbound tasks t := by
  rintro ⟨work, phase, hTask, _⟩
  simp [h] at hTask

theorem isImportOf_of_other {w : Waiter} (h : w.isImport = false) (t : Ticket) :
    w.isImportOf t = false := by
  cases w <;> simp_all [Waiter.isImport, Waiter.isImportOf]

namespace Desk

variable {D D' : Desk} {t u : Ticket}

-- ---------------------------------------------------------------------------
-- The accounts of a number
-- ---------------------------------------------------------------------------

/-- How many imports were deferred under a number. -/
def deferrals (D : Desk) (t : Ticket) : Nat := D.log.countP (Event.isDeferralOf t)

/-- How many of them were answered. -/
def answers (D : Desk) (t : Ticket) : Nat := D.log.countP (Event.isAnswerOf t)

/-- How many of them wait. -/
def imports (D : Desk) (t : Ticket) : Nat := D.waiting.countP (Waiter.isImportOf t)

/-- What holds of a number. -/
structure Account (D : Desk) (t : Ticket) : Prop where
  -- what was deferred was answered or waits
  balance : ¬ IsUnbound D.tasks t → D.deferrals t = D.answers t + D.imports t
  -- one import at most waits, and none when the task goes on to the next
  single : D.imports t ≤ 1
  clear : ∀ {work phase}, D.tasks.get? t = some ⟨work, phase⟩ → phase.takesImports = true →
    D.imports t = 0
  -- a number is used when it was taken, and without a task only once
  fresh : D.tickets ≤ t → D.tasks.get? t = none ∧ D.deferrals t = 0
  once : D.tasks.get? t = none → D.deferrals t ≤ 1
  -- under the number of an import that is bound to no compilation nothing else is deferred
  apart : IsUnbound D.tasks t → D.deferrals t = 0 ∧ D.imports t = 0

/-- What holds of a desk. -/
structure Accounts (D : Desk) : Prop where
  account : ∀ t, D.Account t
  -- who waits as an import that is bound to no compilation is a task of that kind
  bound : ∀ specifier citation t, .unbound specifier citation t ∈ D.waiting → IsUnbound D.tasks t
  -- the law held all the time
  turns : ∀ t, ¬ IsUnbound D.tasks t → ∀ recent old, D.log = recent ++ old → InTurn t old
  outcomes : ∀ e ∈ D.log, ∀ outcome, e.answer? = some outcome → outcome.IsDelivered

/-- A number that a change is not about keeps its account. -/
theorem Account.congr (h : D.Account t) (hDeferrals : D'.deferrals t = D.deferrals t)
    (hAnswers : D'.answers t = D.answers t) (hImports : D'.imports t = D.imports t)
    (hTask : D'.tasks.get? t = D.tasks.get? t) (hTickets : D.tickets ≤ D'.tickets) :
    D'.Account t where
  balance := by
    rw [isUnbound_congr hTask, hDeferrals, hAnswers, hImports]
    exact h.balance
  single := hImports ▸ h.single
  clear := by
    rw [hTask, hImports]
    exact h.clear
  fresh := fun hLe => by
    rw [hTask, hDeferrals]
    exact h.fresh (Nat.le_trans hTickets hLe)
  once := by
    rw [hTask, hDeferrals]
    exact h.once
  apart := by
    rw [isUnbound_congr hTask, hDeferrals, hImports]
    exact h.apart

theorem Account.inTurn (h : D.Account t) (hBound : ¬ IsUnbound D.tasks t) : InTurn t D.log := by
  have hBalance := h.balance hBound
  have hSingle := h.single
  show D.answers t ≤ D.deferrals t ∧ D.deferrals t ≤ D.answers t + 1
  omega

-- ---------------------------------------------------------------------------
-- One change of a number
-- ---------------------------------------------------------------------------

/-- An import is deferred under a number that nobody waits under. -/
theorem Account.deferral (h : D.Account t) {w : Waiter} {specifier pantry : String}
    (hWaiter : w.isImportOf t = true) (hFree : D.imports t = 0) (hUsed : t < D.tickets)
    (hBound : ¬ IsUnbound D.tasks t) (hFirst : D.tasks.get? t = none → D.deferrals t = 0)
    (hPhase : ∀ work phase, D.tasks.get? t = some ⟨work, phase⟩ → phase.takesImports = false) :
    Account ⟨w :: D.waiting, .deferred t specifier pantry :: D.log, D.tasks, D.tickets⟩ t := by
  generalize hNext : (⟨w :: D.waiting, .deferred t specifier pantry :: D.log, D.tasks,
    D.tickets⟩ : Desk) = N
  have hTasks : N.tasks = D.tasks := by rw [← hNext]
  have hTickets : N.tickets = D.tickets := by rw [← hNext]
  have hDeferrals : N.deferrals t = D.deferrals t + 1 := by
    rw [← hNext]
    exact List.countP_cons_of_pos (by simp [Event.isDeferralOf])
  have hAnswers : N.answers t = D.answers t := by
    rw [← hNext]
    exact List.countP_cons_of_neg (by simp [Event.isAnswerOf])
  have hImports : N.imports t = D.imports t + 1 := by
    rw [← hNext]
    exact List.countP_cons_of_pos hWaiter
  have hBalance := h.balance hBound
  constructor
  case balance =>
    intro _
    omega
  case single => omega
  case clear =>
    intro work phase hTask hTakes
    rw [hTasks] at hTask
    simp [hPhase work phase hTask] at hTakes
  case fresh =>
    intro hLe
    rw [hTickets] at hLe
    exact absurd hUsed (Nat.not_lt.mpr hLe)
  case once =>
    intro hNone
    rw [hTasks] at hNone
    have hZero := hFirst hNone
    omega
  case apart =>
    intro hUnbound
    rw [hTasks] at hUnbound
    exact absurd hUnbound hBound

/-- The import that waits under a number is answered. -/
theorem Account.answer (h : D.Account t) {w : Waiter} {ws : List Waiter} {e : Event}
    (hWaiting : D.waiting = w :: ws) (hWaiter : w.isImportOf t = true)
    (hAnswer : e.isAnswerOf t = true) (hNew : e.isDeferralOf t = false) :
    Account ⟨ws, e :: D.log, D.tasks, D.tickets⟩ t ∧
      imports ⟨ws, e :: D.log, D.tasks, D.tickets⟩ t = 0 := by
  generalize hNext : (⟨ws, e :: D.log, D.tasks, D.tickets⟩ : Desk) = N
  have hTasks : N.tasks = D.tasks := by rw [← hNext]
  have hTickets : N.tickets = D.tickets := by rw [← hNext]
  have hDeferrals : N.deferrals t = D.deferrals t := by
    rw [← hNext]
    exact List.countP_cons_of_neg (by simp [hNew])
  have hAnswers : N.answers t = D.answers t + 1 := by
    rw [← hNext]
    exact List.countP_cons_of_pos hAnswer
  have hImports : D.imports t = N.imports t + 1 := by
    rw [imports, hWaiting, ← hNext]
    exact List.countP_cons_of_pos hWaiter
  have hSingle := h.single
  have hFree : N.imports t = 0 := by omega
  have hBound : ¬ IsUnbound D.tasks t := by
    intro hUnbound
    have hNone := (h.apart hUnbound).2
    omega
  have hBalance := h.balance hBound
  refine ⟨?_, hFree⟩
  constructor
  case balance =>
    intro _
    omega
  case single => omega
  case clear =>
    intro _ _ _ _
    exact hFree
  case fresh =>
    rw [hTasks, hTickets, hDeferrals]
    exact h.fresh
  case once =>
    rw [hTasks, hDeferrals]
    exact h.once
  case apart =>
    rw [hTasks]
    exact fun hUnbound => absurd hUnbound hBound

theorem isUnbound_insert {tasks : Registry Ticket Task} {work : Work} {phase : Phase} {task : Task}
    (hTask : tasks.get? t = some ⟨work, phase⟩) (hWork : work.Continues task.work) :
    IsUnbound (tasks.insert t task) u ↔ IsUnbound tasks u := by
  by_cases hu : u = t
  · subst hu
    have hNew : (tasks.insert u task).get? u = some ⟨task.work, task.phase⟩ :=
      Registry.get?_insert_self _ _ _
    rw [isUnbound_iff hNew, isUnbound_iff hTask, hWork.isUnbound_eq]
  · exact isUnbound_congr (Registry.get?_insert_of_ne _ _ hu)

/-- A task goes on; with imports only if none waits under its number. -/
theorem Account.setTask (h : D.Account u) {work : Work} {phase : Phase} {task : Task}
    (hTask : D.tasks.get? t = some ⟨work, phase⟩) (hWork : work.Continues task.work)
    (hPhase : u = t → task.phase.takesImports = true → D.imports u = 0) :
    Account { D with tasks := D.tasks.insert t task } u := by
  have hUnbound : IsUnbound (D.tasks.insert t task) u ↔ IsUnbound D.tasks u :=
    isUnbound_insert hTask hWork
  by_cases hu : u = t
  · subst hu
    have hKnown : (D.tasks.insert u task).get? u ≠ none := by simp
    constructor
    case balance => rw [hUnbound]; exact h.balance
    case single => exact h.single
    case clear =>
      intro work' phase' hGet hTakes
      rw [Registry.get?_insert_self] at hGet
      obtain rfl := Option.some.inj hGet
      exact hPhase rfl hTakes
    case fresh =>
      intro hLe
      simp [(h.fresh hLe).1] at hTask
    case once => exact fun hNone => absurd hNone hKnown
    case apart => rw [hUnbound]; exact h.apart
  · exact h.congr rfl rfl rfl (Registry.get?_insert_of_ne _ _ hu) (Nat.le_refl _)

-- ---------------------------------------------------------------------------
-- Steps
-- ---------------------------------------------------------------------------

/-- What is noted of a number does not count for another one. -/
theorem Account.other (h : D.Account u) {ws : List Waiter} {e : Event}
    (hImports : ws.countP (Waiter.isImportOf u) = D.imports u)
    (hDeferral : e.isDeferralOf u = false) (hAnswer : e.isAnswerOf u = false) :
    Account ⟨ws, e :: D.log, D.tasks, D.tickets⟩ u :=
  h.congr (List.countP_cons_of_neg (by simp [hDeferral]))
    (List.countP_cons_of_neg (by simp [hAnswer])) hImports rfl (Nat.le_refl _)

theorem Account.takeTicket (h : D.Account u) : Account { D with tickets := D.tickets + 1 } u :=
  h.congr rfl rfl rfl rfl (Nat.le_succ _)

/-- A task that begins has used its number for nothing yet. -/
theorem Account.begin (h : D.Account D.tickets) (work : Work) :
    Account ⟨D.waiting, D.log, D.tasks.insert D.tickets ⟨work, .ready⟩, D.tickets + 1⟩
      D.tickets := by
  obtain ⟨hNone, hZero⟩ := h.fresh (Nat.le_refl _)
  have hBalance := h.balance (not_isUnbound_of_none hNone)
  have hFree : D.imports D.tickets = 0 := by omega
  constructor
  case balance => exact fun _ => hBalance
  case single => exact h.single
  case clear =>
    intro _ _ _ _
    exact hFree
  case fresh => exact fun hLe => absurd hLe (Nat.not_succ_le_self _)
  case once =>
    intro hGet
    simp at hGet
  case apart => exact fun _ => ⟨hZero, hFree⟩

/-- Whoever an outcome is handed to, the accounts are kept, and nobody waits under its number. -/
theorem Accounts.account_hand (h : D.Accounts) {w : Waiter} {ws : List Waiter}
    (hWaiting : D.waiting = w :: ws)
    (hWaiter : (∃ specifier citation session, w = .importing specifier citation session (.task t)) ∨
      ∃ specifier citation, w = .unbound specifier citation t) (outcome : Outcome) (u : Ticket) :
    Account ⟨ws, .handed t outcome :: D.log, D.tasks, D.tickets⟩ u ∧
      (u = t → imports ⟨ws, .handed t outcome :: D.log, D.tasks, D.tickets⟩ u = 0) := by
  have hAccount := h.account u
  by_cases hu : t = u
  · subst hu
    rcases hWaiter with ⟨specifier, citation, session, rfl⟩ | ⟨specifier, citation, rfl⟩
    · obtain ⟨hAnswered, hFree⟩ := hAccount.answer (e := .handed t outcome) hWaiting
        (by simp [Waiter.isImportOf, Receiver.ticket]) (by simp [Event.isAnswerOf]) rfl
      exact ⟨hAnswered, fun _ => hFree⟩
    · -- nothing else is deferred under the number of such an import, so only the answers change
      have hUnbound : IsUnbound D.tasks t := h.bound specifier citation t (by simp [hWaiting])
      have hImports : D.imports t = ws.countP (Waiter.isImportOf t) := by
        rw [imports, hWaiting]
        exact List.countP_cons_of_neg (by simp [Waiter.isImportOf])
      have hFree := (hAccount.apart hUnbound).2
      rw [hImports] at hFree
      obtain ⟨_, hSingle, hClear, hFresh, hOnce, hApart⟩ := hAccount
      rw [hImports] at hSingle hApart
      exact ⟨⟨fun hNot => absurd hUnbound hNot, hSingle, fun _ _ => hFree, hFresh, hOnce, hApart⟩,
        fun _ => hFree⟩
  · refine ⟨hAccount.other ?_ rfl (by simp [Event.isAnswerOf, hu]), fun h => absurd h.symm hu⟩
    rw [imports, hWaiting]
    rcases hWaiter with ⟨_, _, _, rfl⟩ | ⟨_, _, rfl⟩ <;>
      exact (List.countP_cons_of_neg (by simp [Waiter.isImportOf, Receiver.ticket, hu])).symm

/-- A step keeps the account of every number. -/
theorem Accounts.account_step (h : D.Accounts) (hStep : Step D D') (u : Ticket) :
    D'.Account u := by
  have hAccount := h.account u
  cases hStep with
  | shuffle hPerm => exact hAccount.congr rfl rfl (hPerm.countP_eq _).symm rfl (Nat.le_refl _)
  | number => exact hAccount.takeTicket
  | @come w hOther _ =>
    have hImports : (w :: D.waiting).countP (Waiter.isImportOf u) = D.imports u :=
      List.countP_cons_of_neg (by simp [isImportOf_of_other hOther u])
    exact hAccount.congr rfl rfl hImports rfl (Nat.le_refl _)
  | @go w ws hWaiting hOther =>
    have hImports : D.imports u = ws.countP (Waiter.isImportOf u) := by
      rw [imports, hWaiting]
      exact List.countP_cons_of_neg (by simp [isImportOf_of_other hOther u])
    exact hAccount.congr rfl rfl hImports.symm rfl (Nat.le_refl _)
  | deferCallback =>
    by_cases hu : D.tickets = u
    · subst hu
      obtain ⟨hNone, hZero⟩ := hAccount.fresh (Nat.le_refl _)
      have hBound : ¬ IsUnbound D.tasks D.tickets := not_isUnbound_of_none hNone
      have hBalance := hAccount.balance hBound
      refine hAccount.takeTicket.deferral (by simp [Waiter.isImportOf, Receiver.ticket]) ?_
        (Nat.lt_succ_self _) hBound (fun _ => hZero) ?_
      · show D.imports D.tickets = 0
        omega
      · intro work phase hTask
        simp [hNone] at hTask
    · refine hAccount.takeTicket.other ?_ (by simp [Event.isDeferralOf, hu]) rfl
      exact List.countP_cons_of_neg (by simp [Waiter.isImportOf, Receiver.ticket, hu])
  | @deferTask t work phase specifier citation session more outcomes hTask hPhase hWork =>
    have hPark : Account { D with tasks := D.tasks.insert t ⟨.imports more outcomes, .suspended⟩ } u :=
      hAccount.setTask hTask hWork (fun _ hTakes => absurd hTakes (by simp [Phase.takesImports]))
    by_cases hu : t = u
    · subst hu
      have hKnown : (D.tasks.insert t ⟨.imports more outcomes, .suspended⟩).get? t =
        some ⟨.imports more outcomes, .suspended⟩ := Registry.get?_insert_self _ _ _
      refine hPark.deferral (by simp [Waiter.isImportOf, Receiver.ticket])
        (hAccount.clear hTask hPhase) ?_ ?_ ?_ ?_
      · refine Nat.lt_of_not_le fun hLe => ?_
        simp [(hAccount.fresh hLe).1] at hTask
      · rw [isUnbound_iff hKnown]
        simp [Work.isUnbound]
      · intro hNone
        simp [hKnown] at hNone
      · intro work' phase' hGet
        obtain ⟨rfl, rfl⟩ := Task.mk.inj (Option.some.inj (hKnown.symm.trans hGet))
        rfl
    · refine hPark.other ?_ (by simp [Event.isDeferralOf, hu]) rfl
      exact List.countP_cons_of_neg (by simp [Waiter.isImportOf, Receiver.ticket, hu])
  | @deliver specifier citation session t script ws outcome hWaiting hOutcome =>
    by_cases hu : t = u
    · subst hu
      exact (hAccount.answer hWaiting (by simp [Waiter.isImportOf, Receiver.ticket])
        (by simp [Event.isAnswerOf]) rfl).1
    · refine hAccount.other ?_ rfl (by simp [Event.isAnswerOf, hu])
      rw [imports, hWaiting]
      exact (List.countP_cons_of_neg (by simp [Waiter.isImportOf, Receiver.ticket, hu])).symm
  | @hand w t ws outcome tasks hWaiting hWaiter hOutcome hTasks =>
    obtain ⟨hAnswered, hFree⟩ := h.account_hand hWaiting hWaiter outcome u
    rcases hTasks with rfl | ⟨work, hTask, rfl⟩
    · exact hAnswered
    · exact hAnswered.setTask hTask (Work.Continues.refl _) fun hu _ => hFree hu
  | begin =>
    by_cases hu : D.tickets = u
    · subst hu
      exact hAccount.begin _
    · exact hAccount.congr rfl rfl rfl (Registry.get?_insert_of_ne _ _ (Ne.symm hu)) (Nat.le_succ _)
  | task hTask hWork hPhase =>
    exact hAccount.setTask hTask hWork fun _ hTakes => absurd hTakes (by simp [hPhase])

/-- What a step tells is one event at most, and an answer it tells is one that can be given. -/
theorem Step.log_cases (hStep : Step D D') :
    D'.log = D.log ∨ ∃ e, D'.log = e :: D.log ∧
      ∀ outcome, e.answer? = some outcome → outcome.IsDelivered := by
  cases hStep with
  | deferCallback => exact Or.inr ⟨_, rfl, fun _ h => absurd h (by simp [Event.answer?])⟩
  | deferTask => exact Or.inr ⟨_, rfl, fun _ h => absurd h (by simp [Event.answer?])⟩
  | deliver _ hOutcome => exact Or.inr ⟨_, rfl, fun _ h => Option.some.inj h ▸ hOutcome⟩
  | hand _ _ hOutcome => exact Or.inr ⟨_, rfl, fun _ h => Option.some.inj h ▸ hOutcome⟩
  | shuffle => exact Or.inl rfl
  | number => exact Or.inl rfl
  | come => exact Or.inl rfl
  | go => exact Or.inl rfl
  | begin => exact Or.inl rfl
  | task => exact Or.inl rfl

/-- A number that was taken without a task never has one. -/
theorem Step.taskless (hStep : Step D D') (hTaken : t < D.tickets)
    (hNone : D.tasks.get? t = none) : t < D'.tickets ∧ D'.tasks.get? t = none := by
  have hInsert : ∀ {u : Ticket} {old : Task} (task : Task), D.tasks.get? u = some old →
      (D.tasks.insert u task).get? t = none := by
    intro u old task hGet
    have hNe : t ≠ u := by
      rintro rfl
      simp [hNone] at hGet
    rw [Registry.get?_insert_of_ne _ _ hNe]
    exact hNone
  cases hStep with
  | shuffle => exact ⟨hTaken, hNone⟩
  | number => exact ⟨Nat.lt_succ_of_lt hTaken, hNone⟩
  | come => exact ⟨hTaken, hNone⟩
  | go => exact ⟨hTaken, hNone⟩
  | deferCallback => exact ⟨Nat.lt_succ_of_lt hTaken, hNone⟩
  | deferTask hTask => exact ⟨hTaken, hInsert _ hTask⟩
  | deliver => exact ⟨hTaken, hNone⟩
  | hand _ _ _ hTasks =>
    rcases hTasks with rfl | ⟨_, hTask, rfl⟩
    · exact ⟨hTaken, hNone⟩
    · exact ⟨hTaken, hInsert _ hTask⟩
  | begin =>
    refine ⟨Nat.lt_succ_of_lt hTaken, ?_⟩
    rw [← hNone]
    exact Registry.get?_insert_of_ne _ _ (Nat.ne_of_lt hTaken)
  | task hTask => exact ⟨hTaken, hInsert _ hTask⟩

/-- A task that has begun does not begin again. -/
theorem Step.begun (hStep : Step D D') (hTaken : t < D.tickets)
    (hBegun : ∀ work, D.tasks.get? t ≠ some ⟨work, .ready⟩) :
    t < D'.tickets ∧ ∀ work, D'.tasks.get? t ≠ some ⟨work, .ready⟩ := by
  have hInsert : ∀ {u : Ticket} {task : Task}, task.phase ≠ .ready → ∀ work,
      (D.tasks.insert u task).get? t ≠ some ⟨work, .ready⟩ := by
    intro u task hPhase work hGet
    rw [Registry.get?_insert] at hGet
    split at hGet
    · exact hPhase (by rw [Option.some.inj hGet])
    · exact hBegun work hGet
  cases hStep with
  | shuffle => exact ⟨hTaken, hBegun⟩
  | number => exact ⟨Nat.lt_succ_of_lt hTaken, hBegun⟩
  | come => exact ⟨hTaken, hBegun⟩
  | go => exact ⟨hTaken, hBegun⟩
  | deferCallback => exact ⟨Nat.lt_succ_of_lt hTaken, hBegun⟩
  | deferTask => exact ⟨hTaken, hInsert (by simp)⟩
  | deliver => exact ⟨hTaken, hBegun⟩
  | hand _ _ _ hTasks =>
    rcases hTasks with rfl | ⟨_, _, rfl⟩
    · exact ⟨hTaken, hBegun⟩
    · exact ⟨hTaken, hInsert (by simp)⟩
  | begin =>
    refine ⟨Nat.lt_succ_of_lt hTaken, fun work => ?_⟩
    rw [Registry.get?_insert_of_ne _ _ (Nat.ne_of_lt hTaken)]
    exact hBegun work
  | task _ _ hPhase =>
    refine ⟨hTaken, hInsert fun hReady => ?_⟩
    simp [hReady, Phase.takesImports] at hPhase

/-- A task keeps what it is for. -/
theorem Accounts.isUnbound_step (h : D.Accounts) (hStep : Step D D')
    (hUnbound : IsUnbound D.tasks t) : IsUnbound D'.tasks t := by
  cases hStep with
  | shuffle => exact hUnbound
  | number => exact hUnbound
  | come => exact hUnbound
  | go => exact hUnbound
  | deferCallback => exact hUnbound
  | deferTask hTask _ hWork => exact (isUnbound_insert hTask hWork).mpr hUnbound
  | deliver => exact hUnbound
  | hand _ _ _ hTasks =>
    rcases hTasks with rfl | ⟨_, hTask, rfl⟩
    · exact hUnbound
    · exact (isUnbound_insert hTask (Work.Continues.refl _)).mpr hUnbound
  | begin =>
    have hNe : t ≠ D.tickets := by
      rintro rfl
      exact not_isUnbound_of_none ((h.account _).fresh (Nat.le_refl _)).1 hUnbound
    exact (isUnbound_congr (Registry.get?_insert_of_ne _ _ hNe)).mpr hUnbound
  | task hTask hWork => exact (isUnbound_insert hTask hWork).mpr hUnbound

/-- Who waits as such an import came as one. -/
theorem Step.bound_of_waiting (hStep : Step D D') {specifier : String} {citation : Citation}
    (h : Waiter.unbound specifier citation t ∈ D'.waiting) :
    Waiter.unbound specifier citation t ∈ D.waiting ∨ IsUnbound D.tasks t := by
  cases hStep with
  | shuffle hPerm => exact Or.inl (hPerm.mem_iff.mpr h)
  | number => exact Or.inl h
  | come _ hBound =>
    rcases List.mem_cons.mp h with hNew | hOld
    · exact Or.inr (hBound _ _ _ hNew.symm)
    · exact Or.inl hOld
  | go hWaiting => exact Or.inl (hWaiting ▸ List.mem_cons_of_mem _ h)
  | deferCallback => exact Or.inl ((List.mem_cons.mp h).resolve_left (by simp))
  | deferTask => exact Or.inl ((List.mem_cons.mp h).resolve_left (by simp))
  | deliver hWaiting => exact Or.inl (hWaiting ▸ List.mem_cons_of_mem _ h)
  | hand hWaiting => exact Or.inl (hWaiting ▸ List.mem_cons_of_mem _ h)
  | begin => exact Or.inl h
  | task => exact Or.inl h

/-- A step of the desk keeps the accounts. -/
theorem Accounts.step (h : D.Accounts) (hStep : Step D D') : D'.Accounts where
  account := h.account_step hStep
  bound := by
    intro specifier citation t hWaiting
    refine h.isUnbound_step hStep ?_
    rcases hStep.bound_of_waiting hWaiting with hOld | hBound
    · exact h.bound _ _ _ hOld
    · exact hBound
  turns := by
    intro t hBound recent old hLog
    have hBefore : ¬ IsUnbound D.tasks t := fun hUnbound => hBound (h.isUnbound_step hStep hUnbound)
    cases recent with
    | nil =>
      rw [List.nil_append] at hLog
      rw [← hLog]
      exact (h.account_step hStep t).inTurn hBound
    | cons e recent =>
      rcases hStep.log_cases with hSame | ⟨e', hMore, _⟩
      · exact h.turns t hBefore (e :: recent) old (hSame ▸ hLog)
      · rw [hMore, List.cons_append] at hLog
        exact h.turns t hBefore recent old (List.cons.inj hLog).2
  outcomes := by
    intro e he
    rcases hStep.log_cases with hSame | ⟨e', hMore, hOutcome⟩
    · exact h.outcomes e (hSame ▸ he)
    · rw [hMore] at he
      rcases List.mem_cons.mp he with rfl | hOld
      · exact hOutcome
      · exact h.outcomes e hOld

theorem Accounts.steps (h : D.Accounts) (hSteps : Steps D D') : D'.Accounts := by
  induction hSteps with
  | refl => exact h
  | tail _ hStep ih => exact ih.step hStep

theorem Accounts.isUnbound_steps (h : D.Accounts) (hSteps : Steps D D')
    (hUnbound : IsUnbound D.tasks t) : IsUnbound D'.tasks t := by
  have hBoth : IsUnbound D'.tasks t ∧ D'.Accounts := by
    induction hSteps with
    | refl => exact ⟨hUnbound, h⟩
    | tail _ hStep ih => exact ⟨ih.2.isUnbound_step hStep ih.1, ih.2.step hStep⟩
  exact hBoth.1

/-- What is told is never taken back. -/
theorem deferrals_step (hStep : Step D D') (t : Ticket) : D.deferrals t ≤ D'.deferrals t := by
  rcases hStep.log_cases with hSame | ⟨e, hMore, _⟩
  · exact Nat.le_of_eq (by rw [deferrals, deferrals, hSame])
  · rw [deferrals, deferrals, hMore, List.countP_cons]
    exact Nat.le_add_right _ _

/-- A number without a task that an import was deferred under stays so. -/
theorem taskless_steps (hSteps : Steps D D') (hTaken : t < D.tickets)
    (hNone : D.tasks.get? t = none) :
    D'.tasks.get? t = none ∧ D.deferrals t ≤ D'.deferrals t := by
  have hAll : (t < D'.tickets ∧ D'.tasks.get? t = none) ∧ D.deferrals t ≤ D'.deferrals t := by
    induction hSteps with
    | refl => exact ⟨⟨hTaken, hNone⟩, Nat.le_refl _⟩
    | tail _ hStep ih =>
      obtain ⟨⟨hTaken', hNone'⟩, hLe⟩ := ih
      exact ⟨hStep.taskless hTaken' hNone', Nat.le_trans hLe (deferrals_step hStep t)⟩
  exact ⟨hAll.1.2, hAll.2⟩

theorem begun_steps (hSteps : Steps D D') (hTaken : t < D.tickets)
    (hBegun : ∀ work, D.tasks.get? t ≠ some ⟨work, .ready⟩) :
    t < D'.tickets ∧ ∀ work, D'.tasks.get? t ≠ some ⟨work, .ready⟩ := by
  induction hSteps with
  | refl => exact ⟨hTaken, hBegun⟩
  | tail _ hStep ih => exact hStep.begun ih.1 ih.2

end Desk

-- ---------------------------------------------------------------------------
-- Runs
-- ---------------------------------------------------------------------------

namespace State

variable {env : Setup} {cancels : Prop} {config : Config} {s s' : State} {t : Ticket}

/-- How many imports were deferred under a number. -/
def deferralsOf (s : State) (t : Ticket) : Nat := s.journal.countP (Event.isDeferralOf t)

/-- How many of them were answered: how often the callback was called, or the task given an
outcome. -/
def answersOf (s : State) (t : Ticket) : Nat := s.journal.countP (Event.isAnswerOf t)

theorem isDelivery_of_deferral (e : Event) (h : e.isDeferralOf t = true) : e.isDelivery = true := by
  cases e <;> simp_all [Event.isDeferralOf, Event.isDelivery]

theorem isDelivery_of_answer (e : Event) (h : e.isAnswerOf t = true) : e.isDelivery = true := by
  cases e <;> simp_all [Event.isAnswerOf, Event.isDelivery]

theorem deferrals_desk (s : State) (t : Ticket) : s.desk.deferrals t = s.deferralsOf t :=
  countP_filter_kind isDelivery_of_deferral _

theorem answers_desk (s : State) (t : Ticket) : s.desk.answers t = s.answersOf t :=
  countP_filter_kind isDelivery_of_answer _

theorem accounts_seeded (config : Config) : (seeded config).desk.Accounts := by
  have hNobody : (seeded config).desk.waiting = [] := by
    show (Cache.ofSeeds config.pantries).flights.flatMap Flight.waiting ++ [] = []
    rw [(Cache.ofSeeds_empty config.pantries).2]
    rfl
  constructor
  case account =>
    intro t
    have hImports : (seeded config).desk.imports t = 0 := by
      rw [Desk.imports, hNobody]
      rfl
    have hDeferrals : (seeded config).desk.deferrals t = 0 := rfl
    have hAnswers : (seeded config).desk.answers t = 0 := rfl
    constructor
    case balance => omega
    case single => omega
    case clear => exact fun _ _ => hImports
    case fresh => exact fun _ => ⟨rfl, hDeferrals⟩
    case once => omega
    case apart => exact fun _ => ⟨hDeferrals, hImports⟩
  case bound =>
    intro specifier citation t hWaiting
    simp [hNobody] at hWaiting
  case turns =>
    intro t _ recent old hLog
    obtain ⟨_, rfl⟩ := List.append_eq_nil_iff.mp hLog.symm
    exact ⟨Nat.le_refl _, Nat.zero_le _⟩
  case outcomes =>
    intro e he
    exact absurd he (by simp [desk, seeded])

theorem Moves.desk (hSound : s.fleet.Sound) (h : Moves env cancels s s') :
    Desk.Steps s.desk s'.desk := by
  induction h with
  | refl => exact .refl
  | tail hMoves hMove ih =>
    exact ih.trans (hMove.desk (hSound.steps (Moves.fleet hMoves)))

theorem Moves.accounts (h : Moves env cancels (seeded config) s) : s.desk.Accounts :=
  (accounts_seeded config).steps (h.desk (sound_seeded config))

-- ---------------------------------------------------------------------------
-- Answers at once
-- ---------------------------------------------------------------------------

/-- An import that is not deferred is answered without regard to who would be given the outcome. -/
theorem resolve_of_not_deferred {what : Import} {receiver : Receiver}
    (h : ∀ t, (s.resolve env what receiver).2 ≠ .deferred t) (other : Receiver) :
    s.resolve env what other = s.resolve env what receiver := by
  unfold resolve at h ⊢
  split at h
  · rfl
  · rfl
  · rfl
  · simp only at h ⊢
    split at h
    · rfl
    · split at h
      · exact absurd rfl (h receiver.ticket)
      · rename_i hIdle
        simp only [if_neg hIdle]

theorem importing_deferred {what : Import} {script : Script}
    (h : s.resolve env what (.callback s.tickets script) = (s', .deferred t)) :
    s.importing env what script = (s'.takeTicket, .deferred t) := by
  simp only [importing, h]

theorem importing_answered (hHost : env.passThrough.isNull = false) {what : Import}
    {script : Script} {outcome : Outcome}
    (h : s.resolve env what (.callback s.tickets script) = (s', .answered outcome)) :
    s.importing env what script = (s', .answered outcome) := by
  cases outcome <;> simp [importing, h, hHost]

theorem importing_of_not_deferred {what : Import} {script : Script}
    (h : ∀ t, (s.importing env what script).2 ≠ .deferred t) (other : Script) :
    s.importing env what other = s.importing env what script := by
  have hResolve : ∀ t, (s.resolve env what (.callback s.tickets script)).2 ≠ .deferred t := by
    intro t hDeferred
    exact h t (by rw [importing_deferred (Prod.ext rfl hDeferred)])
  simp only [importing, resolve_of_not_deferred hResolve (.callback s.tickets other)]

-- ---------------------------------------------------------------------------
-- Answers that follow
-- ---------------------------------------------------------------------------

/-- What holds of a number under which imports of a compilation are deferred. -/
structure Answered (s : State) (t : Ticket) : Prop where
  -- at all times no answer is given that nobody waits for, and the next import waits for the last
  turns : ∀ recent old, s.journal = recent ++ old → InTurn t old
  -- the number of a callback is used once
  once : s.tasks.get? t = none → s.deferralsOf t ≤ 1
  -- when nothing is under way all answers were given
  settled : s.Quiet → s.answersOf t = s.deferralsOf t

theorem inTurn_filter {es : List Event} (h : InTurn t (es.filter Event.isDelivery)) :
    InTurn t es := by
  rw [InTurn, countP_filter_kind isDelivery_of_answer, countP_filter_kind isDelivery_of_deferral]
    at h
  exact h

theorem answered_of_accounts (hSound : s.fleet.Sound) (h : s.desk.Accounts)
    (hBound : ¬ IsUnbound s.tasks t) : s.Answered t where
  turns := by
    intro recent old hJournal
    refine inTurn_filter (h.turns t hBound (recent.filter Event.isDelivery) _ ?_)
    show s.journal.filter Event.isDelivery = _
    rw [hJournal, List.filter_append]
  once := by
    rw [← deferrals_desk]
    exact (h.account t).once
  settled := by
    intro hQuiet
    have hNobody : s.desk.imports t = 0 := by
      show s.waiting.countP _ = 0
      rw [waiting_of_quiet hSound hQuiet]
      rfl
    have hBalance := (h.account t).balance hBound
    rw [deferrals_desk, answers_desk] at hBalance
    omega

theorem Answered.answers_le (h : s.Answered t) : s.answersOf t ≤ s.deferralsOf t :=
  (h.turns [] s.journal rfl).1

/-- The number that the host is given for a deferred import is a new one. -/
theorem importing_of_deferred (hHost : env.passThrough.isNull = false) {what : Import}
    {script : Script} (h : (s.importing env what script).2 = .deferred t) :
    t = s.tickets ∧ ∃ citation : Citation, (s.importing env what script).1 =
      (s.defer env what.session what.specifier.text citation
        (.callback s.tickets script)).takeTicket := by
  rcases resolve_cases env s what (.callback s.tickets script) with
    ⟨path, fresh, _, hResolve⟩ | ⟨outcome, hResolve⟩ | ⟨citation, _, _, hResolve⟩ |
      ⟨_, _, _, hResolve⟩
  · rw [importing_answered hHost hResolve] at h
    exact absurd h (by simp)
  · rw [importing_answered hHost hResolve] at h
    exact absurd h (by simp)
  · rw [importing_deferred hResolve] at h ⊢
    exact ⟨(Reply.deferred.inj h).symm, citation, rfl⟩
  · simp [importing, hResolve] at h

/-- From then on it is the number of this one import. -/
theorem deferralsOf_importing {cancels' : Prop} (hHost : env.passThrough.isNull = false)
    (hRun : Moves env cancels (seeded config) s) {what : Import} {script : Script}
    (hReply : (s.importing env what script).2 = .deferred t)
    (hLater : Moves env cancels' (s.importing env what script).1 s') :
    s'.tasks.get? t = none ∧ 1 ≤ s'.deferralsOf t := by
  have hNext : Moves env cancels (seeded config) (s.importing env what script).1 :=
    hRun.trans (importing_moves what script s)
  obtain ⟨rfl, citation, hImport⟩ := importing_of_deferred hHost hReply
  obtain ⟨hNone, _⟩ := (hRun.accounts.account s.tickets).fresh (Nat.le_refl _)
  have hDesk : (s.importing env what script).1.desk = ⟨(s.importing env what script).1.waiting,
      .deferred s.tickets what.specifier.text citation.pantryName :: s.desk.log, s.tasks,
      s.tickets + 1⟩ := by
    rw [hImport]
    exact congrArg (fun D : Desk => { D with tickets := D.tickets + 1 }) (desk_defer _ _ _ _)
  have hSteps : Desk.Steps _ s'.desk := Moves.desk hNext.sound hLater
  rw [hDesk] at hSteps
  obtain ⟨hTaskless, hLe⟩ := Desk.taskless_steps hSteps (Nat.lt_succ_self _) hNone
  refine ⟨hTaskless, ?_⟩
  rw [← deferrals_desk]
  refine Nat.le_trans ?_ hLe
  rw [Desk.deferrals, List.countP_cons_of_pos (by simp [Event.isDeferralOf])]
  exact Nat.le_add_left 1 _

/-- **Every deferred import is answered once.** Where the host can tell "pass through" from
nothing, in every state that an importer can come to: an import that is not deferred leaves no trace
of its callback; one that is deferred is answered at most once ever after, and exactly once when
nothing is under way; so are, in turn, all imports under any number; and what they are answered with
is a file, empty contents or a failure. -/
theorem answered_once (hHost : env.passThrough.isNull = false) (h : Reachable env config s) :
    (∀ what script, (∀ t, (s.importing env what script).2 ≠ .deferred t) →
      ∀ other, s.importing env what other = s.importing env what script) ∧
    (∀ what receiver, (∀ t, (s.resolve env what receiver).2 ≠ .deferred t) →
      ∀ other, s.resolve env what other = s.resolve env what receiver) ∧
    (∀ what script t, (s.importing env what script).2 = .deferred t → ∀ more,
      let s' := (actAll env more (s.importing env what script).1).1
      s'.deferralsOf t = 1 ∧ s'.answersOf t ≤ 1 ∧ (s'.Quiet → s'.answersOf t = 1)) ∧
    (∀ t, 0 < s.deferralsOf t → ¬ IsUnbound s.tasks t) ∧
    (∀ t, ¬ IsUnbound s.tasks t → s.Answered t) ∧
    ∀ e ∈ s.journal, ∀ outcome, e.answer? = some outcome → outcome.IsDelivered := by
  have hAccounts := h.moves.accounts
  refine ⟨fun what script hReply => importing_of_not_deferred hReply,
    fun what receiver hReply => resolve_of_not_deferred hReply, ?_, ?_,
    fun t => answered_of_accounts h.sound hAccounts, ?_⟩
  · intro what script t hReply more s'
    have hNext : Reachable env config s' := (h.act (.importing what script)).actAll more
    have hLater : Moves env True (s.importing env what script).1 s' :=
      actAll_moves more (fun _ _ _ => trivial) _
    obtain ⟨hNone, hSome⟩ := deferralsOf_importing hHost h.moves hReply hLater
    have hAnswered := answered_of_accounts hNext.sound hNext.moves.accounts
      (not_isUnbound_of_none hNone)
    have hOnce : s'.deferralsOf t = 1 := Nat.le_antisymm (hAnswered.once hNone) hSome
    exact ⟨hOnce, hOnce ▸ hAnswered.answers_le, fun hQuiet => (hAnswered.settled hQuiet).trans hOnce⟩
  · intro t hSome hUnbound
    have hZero := ((hAccounts.account t).apart hUnbound).1
    rw [deferrals_desk] at hZero
    exact absurd hSome (by simp [hZero])
  · intro e he outcome hAnswer
    have hDelivery : e.isDelivery = true := by
      cases e <;> simp_all [Event.answer?, Event.isDelivery]
    exact hAccounts.outcomes e (List.mem_filter.mpr ⟨he, hDelivery⟩) outcome hAnswer

/-- An import is deferred and its promise cancelled, so that its callback is told of a failure. It
imports the same again and raises. The first discovery then brings the pantry, the second fails. -/
def importingAgain : List Action :=
  let what : Import := ⟨.named "main", .str "p/i", .str "/main.sass"⟩
  [.importing what (.importing what .stop .fail), .tick, .cancelRequest "p", .tick, .tick,
    .release 0 ⟨[], .pantry ⟨none, none, .empty⟩⟩, .tick, .release 1 ⟨[], .other "dict"⟩, .tick,
    .tick]

/-- Both imports were answered once. -/
theorem answered_once_importingAgain :
    let s := (actAll Setup.manual importingAgain (create Setup.manual Config.bare)).1
    Setup.manual.passThrough.isNull = false ∧ Reachable Setup.manual Config.bare s ∧ s.Quiet ∧
      s.Answered 0 ∧ s.Answered 1 ∧ s.answersOf 0 = 1 ∧ s.answersOf 1 = 1 :=
  have hReach : Reachable Setup.manual Config.bare
      (actAll Setup.manual importingAgain (create Setup.manual Config.bare)).1 := .actAll _ .create
  have hAll := answered_once rfl hReach
  ⟨rfl, hReach, ⟨rfl, by decide⟩, hAll.2.2.2.2.1 0 (hAll.2.2.2.1 0 (by decide)),
    hAll.2.2.2.2.1 1 (hAll.2.2.2.1 1 (by decide)), rfl, rfl⟩

end State

end Larder
