import Larder.Proofs.Importer.Delivery

/-!
# Larder — the import that waits under a number

A deferred import carries what its outcome will need: the specifier as it was written, and the
citation that the specifier spells. The journal notes the specifier and the pantry when the import
is deferred. Under one number an import is deferred only when nobody waits under it, so whoever
waits is the import that was deferred last.

## Results

* `Desk.Written.step`: a step of the desk keeps to that.
* `Moves.written`: everybody who waits is the import that was deferred last under their number.
-/

namespace Larder

/-- The specifier and the pantry of the import that was deferred last under a number; the events
with the newest first. -/
def lastDeferred? (t : Ticket) : List Event → Option (String × String)
  | [] => none
  | .deferred u specifier pantry :: old =>
    if u = t then some (specifier, pantry) else lastDeferred? t old
  | _ :: old => lastDeferred? t old

section Logs

variable {t : Ticket} {log : List Event}

/-- Only events about deferred imports matter. -/
theorem lastDeferred?_filter (t : Ticket) (log : List Event) :
    lastDeferred? t (log.filter Event.isDelivery) = lastDeferred? t log := by
  induction log with
  | nil => rfl
  | cons e log ih =>
    cases e with
    | deferred u specifier pantry =>
      rw [List.filter_cons_of_pos rfl]
      simp only [lastDeferred?, ih]
    | delivered => rwa [List.filter_cons_of_pos rfl]
    | handed => rwa [List.filter_cons_of_pos rfl]
    | _ => rwa [List.filter_cons_of_neg (by simp [Event.isDelivery])]

theorem lastDeferred?_of_none (h : log.countP (Event.isDeferralOf t) = 0) :
    lastDeferred? t log = none := by
  induction log with
  | nil => rfl
  | cons e log ih =>
    rw [List.countP_cons] at h
    have hLog := ih (by omega)
    cases e with
    | deferred u specifier pantry =>
      have hNe : u ≠ t := by
        rintro rfl
        simp [Event.isDeferralOf] at h
      rw [lastDeferred?, if_neg hNe, hLog]
    | _ => exact hLog

end Logs

namespace Desk

variable {D D' : Desk} {t : Ticket}

/-- Whether everybody who waits is the import that was deferred last under their number, and waits
for what its specifier spells. -/
def Written (D : Desk) : Prop :=
  ∀ specifier citation session receiver,
    .importing specifier citation session receiver ∈ D.waiting →
      Citation.ofString? specifier = some citation ∧
        lastDeferred? receiver.ticket D.log = some (specifier, citation.pantryName)

theorem not_waiting_of_free {specifier : String} {citation : Citation} {session : SessionId}
    {receiver : Receiver} (hFree : D.imports t = 0)
    (hWaiting : .importing specifier citation session receiver ∈ D.waiting) :
    receiver.ticket ≠ t := by
  intro hEq
  have hNone := List.countP_eq_zero.mp hFree _ hWaiting
  simp [Waiter.isImportOf, hEq] at hNone

/-- Nobody new waits, and nothing is deferred. -/
theorem Written.keep (h : D.Written)
    (hWaiting : ∀ specifier citation session receiver,
      .importing specifier citation session receiver ∈ D'.waiting →
        .importing specifier citation session receiver ∈ D.waiting)
    (hLog : ∀ t, lastDeferred? t D'.log = lastDeferred? t D.log) : D'.Written := by
  intro specifier citation session receiver hWaits
  rw [hLog]
  exact h _ _ _ _ (hWaiting _ _ _ _ hWaits)

/-- One more import is deferred, under a number that nobody waits under. -/
theorem Written.defer (h : D.Written) {specifier : String} {citation : Citation}
    {session : SessionId} (receiver : Receiver) (hFree : D.imports receiver.ticket = 0)
    (hSpelled : Citation.ofString? specifier = some citation) (tasks : Registry Ticket Task)
    (tickets : Ticket) :
    Written ⟨.importing specifier citation session receiver :: D.waiting,
      .deferred receiver.ticket specifier citation.pantryName :: D.log, tasks, tickets⟩ := by
  intro specifier' citation' session' receiver' hWaiting
  rw [lastDeferred?]
  rcases List.mem_cons.mp hWaiting with hNew | hOld
  · obtain ⟨rfl, rfl, -, rfl⟩ := Waiter.importing.inj hNew
    exact ⟨hSpelled, if_pos rfl⟩
  · rw [if_neg (not_waiting_of_free hFree hOld).symm]
    exact h _ _ _ _ hOld

/-- A step of the desk lets everybody who waits be the import that was deferred last. -/
theorem Written.step (h : D.Written) (hAccounts : D.Accounts) (hStep : Step D D') :
    D'.Written := by
  cases hStep with
  | shuffle hPerm => exact h.keep (fun _ _ _ _ hWaits => hPerm.mem_iff.mpr hWaits) fun _ => rfl
  | number => exact h
  | @come w hOther =>
    refine h.keep (fun specifier citation session receiver hWaits => ?_) fun _ => rfl
    refine (List.mem_cons.mp hWaits).resolve_left ?_
    rintro rfl
    simp [Waiter.isImport] at hOther
  | go hWaiting =>
    exact h.keep (fun _ _ _ _ hOld => hWaiting ▸ List.mem_cons_of_mem _ hOld) fun _ => rfl
  | @deferCallback specifier citation session script hSpelled =>
    have hAccount := hAccounts.account D.tickets
    obtain ⟨hNone, hZero⟩ := hAccount.fresh (Nat.le_refl _)
    have hBalance := hAccount.balance (not_isUnbound_of_none hNone)
    have hFree : D.imports D.tickets = 0 := by omega
    exact h.defer (.callback D.tickets script) hFree hSpelled _ _
  | @deferTask t _ _ _ _ _ _ _ hTask hPhase _ hSpelled =>
    have hFree : D.imports t = 0 := (hAccounts.account t).clear hTask hPhase
    exact h.defer (.task t) hFree hSpelled _ _
  | deliver hWaiting =>
    exact h.keep (fun _ _ _ _ hOld => hWaiting ▸ List.mem_cons_of_mem _ hOld) fun _ => rfl
  | hand hWaiting =>
    exact h.keep (fun _ _ _ _ hOld => hWaiting ▸ List.mem_cons_of_mem _ hOld) fun _ => rfl
  | begin => exact h
  | task => exact h

theorem Written.steps (h : D.Written) (hAccounts : D.Accounts) (hSteps : Steps D D') :
    D'.Written := by
  have hBoth : D'.Written ∧ D'.Accounts := by
    induction hSteps with
    | refl => exact ⟨h, hAccounts⟩
    | tail _ hStep ih => exact ⟨ih.1.step ih.2 hStep, ih.2.step hStep⟩
  exact hBoth.1

end Desk

namespace State

variable {env : Setup} {cancels : Prop} {config : Config} {s : State}

/-- Everybody who waits is the import that was deferred last under their number. -/
theorem Moves.written (h : Moves env cancels (seeded config) s) : s.desk.Written := by
  have hStart : (seeded config).desk.Written := by
    intro specifier citation session receiver hWaiting
    have hNobody : (seeded config).desk.waiting = [] := by
      show (Cache.ofSeeds config.pantries).flights.flatMap Flight.waiting ++ [] = []
      rw [(Cache.ofSeeds_empty config.pantries).2]
      rfl
    simp [hNobody] at hWaiting
  exact hStart.steps (accounts_seeded config) (Moves.desk (sound_seeded config) h)

end State

end Larder
