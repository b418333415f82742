import Larder.Proofs.Importer.Behalf
import Larder.Proofs.Importer.Deferral
import Larder.Proofs.Importer.Versions

/-!
# Larder — the line for a pantry

Deferred imports of a pantry wait for one discovery after another. When the promise of one is
settled, those who wait for it are put into the queue; when it was cancelled, the next import waits
for another discovery, which may end before the queue is run. Nevertheless all of them stand in one
line: at its head those who are in the queue, behind them those who wait for the discovery in the
slot, for nobody waits for any other discovery of the name. An import that is deferred joins the
line at its end, and whoever is told leaves it at its head.

Whose outcome an answer is, is seen from the journal: under a number the next import is deferred
only when the last one was answered, so an answer is for the import that was deferred last.

## Results

* `slot_of_citing`: imports of a pantry wait for the discovery in its slot only.
* `Move.shift`: a move lets an import join the line at its end, or leave it at its head.
* `answered_in_order`: the imports of a pantry are answered in the order of their deferrals.
-/

namespace Larder

-- ---------------------------------------------------------------------------
-- Lists
-- ---------------------------------------------------------------------------

section Lists

variable {α β : Type} {p : α → List β} {l l' : List α}

/-- What is gathered from a list to which one element contributes. -/
theorem flatMap_of_only {i : Nat} {a : α} (hGet : l[i]? = some a)
    (hOnly : ∀ j b, l[j]? = some b → j ≠ i → p b = []) : l.flatMap p = p a := by
  induction l generalizing i with
  | nil => simp at hGet
  | cons b l ih =>
    rw [List.flatMap_cons]
    cases i with
    | zero =>
      obtain rfl : b = a := by simpa using hGet
      have hRest : l.flatMap p = [] := by
        rw [List.flatMap_eq_nil_iff]
        intro c hc
        obtain ⟨j, hj⟩ := List.mem_iff_getElem?.mp hc
        exact hOnly (j + 1) c hj (Nat.succ_ne_zero j)
      rw [hRest, List.append_nil]
    | succ i =>
      have hHead : p b = [] := hOnly 0 b rfl (Nat.succ_ne_zero i).symm
      rw [hHead, List.nil_append]
      exact ih hGet fun j c hj hNe => hOnly (j + 1) c hj fun hEq => hNe (Nat.succ.inj hEq)

theorem flatMap_congr_getElem? (h : ∀ i : Nat, (l'[i]?).map p = (l[i]?).map p) :
    l'.flatMap p = l.flatMap p := by
  have hMap : l'.map p = l.map p := by
    apply List.ext_getElem?
    intro i
    rw [List.getElem?_map, List.getElem?_map, h]
  rw [List.flatMap_def, List.flatMap_def, hMap]

end Lists

-- ---------------------------------------------------------------------------
-- Vocabulary
-- ---------------------------------------------------------------------------

/-- Whether someone is a deferred import of a pantry. -/
def Waiter.cites (name : String) (w : Waiter) : Bool := w.cited? = some name

/-- The imports of a pantry among those who wait for a promise. -/
def Flight.citing (name : String) (f : Flight) : List Waiter := f.waiting.filter (Waiter.cites name)

/-- Whether imports of a pantry wait for one discovery at most. -/
def Cache.Gathered (c : Cache) (name : String) : Prop :=
  ∀ {i j : FlightId} {f g : Flight}, c.flights[i]? = some f → c.flights[j]? = some g →
    f.citing name ≠ [] → g.citing name ≠ [] → i = j

/-- The import of a pantry that a job is to tell. -/
def Job.citing (name : String) (job : Job) : List Waiter := job.waiting.filter (Waiter.cites name)

/-- The number under which an event defers an import of a pantry. -/
def Event.deferralFor? (name : String) : Event → Option Ticket
  | .deferred t _ pantry => if pantry = name then some t else none
  | _ => none

/-- The number under which an event answers a deferred import. -/
def Event.answerTo? : Event → Option Ticket
  | .delivered t _ => some t
  | .handed t _ => some t
  | _ => none

/-- The pantry of the import that was deferred last under a number; the events with the newest
first, as in the following. -/
def lastCited? (t : Ticket) : List Event → Option String
  | [] => none
  | .deferred u _ pantry :: old => if u = t then some pantry else lastCited? t old
  | _ :: old => lastCited? t old

/-- The numbers of the deferred imports of a pantry, in the order of their deferrals. -/
def deferralsFor (name : String) : List Event → List Ticket
  | [] => []
  | e :: old => deferralsFor name old ++ (e.deferralFor? name).toList

/-- The numbers of the deferred imports of a pantry, in the order of their answers. -/
def answersFor (name : String) : List Event → List Ticket
  | [] => []
  | e :: old =>
    answersFor name old ++ (e.answerTo?.filter fun t => lastCited? t old = some name).toList

section Logs

variable {name : String} {t : Ticket} {e : Event} {log : List Event}

theorem lastCited?_eq (t : Ticket) (log : List Event) :
    lastCited? t log = (lastDeferred? t log).map Prod.snd := by
  induction log with
  | nil => rfl
  | cons e log ih =>
    cases e with
    | deferred u specifier pantry =>
      rw [lastCited?, lastDeferred?]
      split
      · rfl
      · exact ih
    | _ => exact ih

theorem deferralsFor_filter (name : String) (log : List Event) :
    deferralsFor name (log.filter Event.isDelivery) = deferralsFor name log := by
  induction log with
  | nil => rfl
  | cons e log ih =>
    cases hKind : e.isDelivery with
    | false =>
      have hNone : e.deferralFor? name = none := by
        cases e <;> simp_all [Event.deferralFor?, Event.isDelivery]
      rw [List.filter_cons_of_neg (by simp [hKind]), ih, deferralsFor, hNone]
      simp
    | true => rw [List.filter_cons_of_pos hKind, deferralsFor, ih, deferralsFor]

theorem answersFor_filter (name : String) (log : List Event) :
    answersFor name (log.filter Event.isDelivery) = answersFor name log := by
  induction log with
  | nil => rfl
  | cons e log ih =>
    cases hKind : e.isDelivery with
    | false =>
      have hNone : e.answerTo? = none := by
        cases e <;> simp_all [Event.answerTo?, Event.isDelivery]
      rw [List.filter_cons_of_neg (by simp [hKind]), ih, answersFor, hNone]
      simp
    | true =>
      rw [List.filter_cons_of_pos hKind, answersFor, ih, answersFor]
      simp only [lastCited?_eq, lastDeferred?_filter]

end Logs

-- ---------------------------------------------------------------------------
-- Whose outcome an answer is
-- ---------------------------------------------------------------------------

namespace Desk

variable {D : Desk}

/-- Whether everybody who waits is the import that was deferred last under their number. -/
def Cited (D : Desk) : Prop :=
  ∀ specifier citation session receiver,
    .importing specifier citation session receiver ∈ D.waiting →
      lastCited? receiver.ticket D.log = some citation.pantryName

theorem Written.cited (h : D.Written) : D.Cited := by
  intro specifier citation session receiver hWaiting
  rw [lastCited?_eq, (h _ _ _ _ hWaiting).2]
  rfl

end Desk

namespace State

variable {env : Setup} {cancels : Prop} {config : Config} {s s' : State} {name : String}
  {V : String → Pantry → Prop} {w : Waiter}

/-- The deferred imports of a pantry that have not been answered: those who are about to be told,
and those who wait for a promise. -/
def line (s : State) (name : String) : List Waiter :=
  s.queue.flatMap (Job.citing name) ++ s.cache.flights.flatMap (Flight.citing name)

-- ---------------------------------------------------------------------------
-- Who waits for which discovery
-- ---------------------------------------------------------------------------

theorem Posted.call_name (h : s.Posted V) {i : FlightId} {f : Flight}
    (hFlight : s.cache.flights[i]? = some f) {w : Waiter} (hWaits : w ∈ f.waiting)
    (hCites : w.cites name = true) : f.call.name = name := by
  have hCited : w.cited? = some name := by simpa [Waiter.cites] using hCites
  exact h.addressed f (List.mem_of_getElem? hFlight) w hWaits name hCited

/-- **Imports of a pantry wait for the discovery in its slot only.** -/
theorem slot_of_citing (hSound : s.fleet.Sound) (hPosted : s.Posted V) {i : FlightId} {f : Flight}
    (hFlight : s.cache.flights[i]? = some f) (hSome : f.citing name ≠ []) :
    s.cache.pending.get? name = some i := by
  obtain ⟨w, hw⟩ := List.exists_mem_of_ne_nil _ hSome
  obtain ⟨hWaits, hCites⟩ := List.mem_filter.mp hw
  have hName : f.call.name = name := hPosted.call_name hFlight hWaits hCites
  -- whoever is waited for is in flight and was not cancelled
  obtain ⟨ws, hPromise⟩ : ∃ ws, f.promise = .waiting ws := by
    cases hPromise : f.promise with
    | waiting ws => exact ⟨ws, rfl⟩
    | settled x => simp [Flight.waiting, hPromise] at hWaits
  have hLive := Flight.live_of_waiting (hSound.coherent.consistent hFlight) hPromise
  have hKept : f.cancelled = false := by simp [Flight.cancelled, hPromise]
  exact (hSound.coherent.tidy name).held i f ⟨hFlight, hName⟩ hLive hKept

/-- So there is one discovery at most for which they wait. -/
theorem gathered_of_sound (hSound : s.fleet.Sound) (hPosted : s.Posted V) (name : String) :
    s.cache.Gathered name := fun hFlight hFlight' hSome hSome' =>
  Option.some.inj ((slot_of_citing hSound hPosted hFlight hSome).symm.trans
    (slot_of_citing hSound hPosted hFlight' hSome'))

theorem citing_modify_same {c : Cache} {i : FlightId} {change : Flight → Flight}
    (h : ∀ f, c.flights[i]? = some f → (change f).citing name = f.citing name) :
    (c.modifyFlight i change).flights.flatMap (Flight.citing name) =
      c.flights.flatMap (Flight.citing name) := by
  refine flatMap_congr_getElem? fun j => ?_
  rw [Cache.getElem?_modifyFlight, Option.map_map]
  cases hGet : c.flights[j]? with
  | none => rfl
  | some f =>
    by_cases hij : i = j
    · subst hij
      simp [h f hGet]
    · simp [hij]

theorem citing_modify_only {c : Cache} {i : FlightId} {f : Flight} (change : Flight → Flight)
    (hFlight : c.flights[i]? = some f)
    (hOnly : ∀ j g, c.flights[j]? = some g → j ≠ i → g.citing name = []) :
    (c.modifyFlight i change).flights.flatMap (Flight.citing name) = (change f).citing name := by
  refine flatMap_of_only (i := i) (by simp [Cache.getElem?_modifyFlight, hFlight]) ?_
  intro j g hGet hNe
  rw [Cache.getElem?_modifyFlight, Option.map_eq_some_iff] at hGet
  obtain ⟨g, hGet, rfl⟩ := hGet
  rw [if_neg (Ne.symm hNe)]
  exact hOnly j g hGet hNe

-- ---------------------------------------------------------------------------
-- Who is in line after a change
-- ---------------------------------------------------------------------------

theorem line_congr (hFlights : s'.cache.flights = s.cache.flights) (hQueue : s'.queue = s.queue) :
    s'.line name = s.line name := by rw [line, line, hFlights, hQueue]

theorem line_pop {job : Job} {rest : List Job} (hQueue : s.queue = job :: rest) :
    s.line name = job.citing name ++ s.pop.line name := by
  simp [line, hQueue, List.append_assoc]

theorem line_enqueue {jobs : List Job} (h : jobs.flatMap (Job.citing name) = []) :
    (s.enqueue jobs).line name = s.line name := by
  simp [line, h]

theorem line_of_aside (h : Aside s s') : s'.line name = s.line name := by
  obtain ⟨hCache, _, ⟨ts, hQueue⟩, _⟩ := h
  have hNone : (ts.map Job.resume).flatMap (Job.citing name) = [] := by
    simp [List.flatMap_map, Job.citing, Job.waiting]
  simp [line, hCache, hQueue, hNone]

theorem line_setStage (i : FlightId) (stage : Stage) :
    (s.withCache (s.cache.setStage i stage)).line name = s.line name := by
  have hFlights : (s.cache.setStage i stage).flights.flatMap (Flight.citing name) =
      s.cache.flights.flatMap (Flight.citing name) := citing_modify_same fun _ _ => rfl
  simp only [line, cache_withCache, queue_withCache, hFlights]

theorem line_complete (env : Setup) (s : State) (session : SessionId) (specifier : String)
    (citation : Citation) (settlement : Settlement) (name : String) :
    (s.complete env session specifier citation settlement).1.line name = s.line name := by
  rcases complete_cases env s session specifier citation settlement with
    ⟨_, _, _, _, _, h⟩ | ⟨_, h⟩ | ⟨_, _, h⟩ <;> rw [h] <;> rfl

theorem line_request (env : Setup) (s : State) (asked name : String) :
    (s.request env asked).1.line name = s.line name := by
  rcases request_cases env s asked with ⟨p, _, h⟩ | ⟨i, _, _, h⟩ | ⟨_, _, h⟩ <;> rw [h]
  · rfl
  · rw [line_enqueue rfl]
    simp [line, Cache.start, Cache.newFlight, Flight.citing, Flight.waiting]

/-- Those who wait for a promise move up when it is settled. -/
theorem line_settle (hGathered : s.cache.Gathered name) (i : FlightId) (x : Settlement) :
    (s.settle i x).line name = s.line name := by
  have hJobs : ∀ ws : List Waiter, (ws.map fun w => Job.notify x w).flatMap (Job.citing name) =
      ws.filter (Waiter.cites name) := by
    intro ws
    rw [List.flatMap_map]
    show ws.flatMap (fun w => [w].filter (Waiter.cites name)) = _
    rw [← List.filter_flatMap, List.flatMap_singleton']
  have hQueue : (s.settle i x).line name = s.queue.flatMap (Job.citing name) ++
      ((s.cache.waiters i).filter (Waiter.cites name) ++
        (s.cache.modifyFlight i (·.settledWith x)).flights.flatMap (Flight.citing name)) := by
    simp only [line, settle, cache_enqueue, cache_withCache, queue_enqueue, queue_withCache,
      List.flatMap_append, hJobs, List.append_assoc, Cache.settle_eq]
  rw [hQueue, line]
  congr 1
  cases hFlight : s.cache.flights[i]? with
  | none =>
    have hNobody : s.cache.waiters i = [] := by simp [Cache.waiters, Cache.promise?, hFlight]
    rw [hNobody, List.filter_nil, List.nil_append]
    exact citing_modify_same fun f hGet => by simp [hFlight] at hGet
  | some f =>
    have hMoved : (f.settledWith x).citing name = [] := by
      rw [Flight.citing, waiting_settledWith, List.filter_nil]
    have hCiting : (s.cache.waiters i).filter (Waiter.cites name) = f.citing name := by
      rw [waiters_eq hFlight]
      rfl
    rw [hCiting]
    by_cases hNone : f.citing name = []
    · rw [hNone, List.nil_append]
      refine citing_modify_same fun g hGet => ?_
      obtain rfl : f = g := Option.some.inj (hFlight.symm.trans hGet)
      rw [hMoved, hNone]
    · have hOnly : ∀ j g, s.cache.flights[j]? = some g → j ≠ i → g.citing name = [] :=
        fun j g hGet hNe => Classical.byContradiction fun hSome =>
          hNe (hGathered hGet hFlight hSome hNone)
      rw [citing_modify_only _ hFlight hOnly, hMoved, List.append_nil,
        flatMap_of_only hFlight hOnly]

theorem gathered_setStage (h : s.cache.Gathered name) (i : FlightId) (stage : Stage) :
    (s.cache.setStage i stage).Gathered name := by
  have hOld : ∀ {j : FlightId} {f : Flight}, (s.cache.setStage i stage).flights[j]? = some f →
      ∃ g, s.cache.flights[j]? = some g ∧ f.citing name = g.citing name := by
    intro j f hGet
    rw [Cache.setStage, Cache.getElem?_modifyFlight, Option.map_eq_some_iff] at hGet
    obtain ⟨g, hGet, rfl⟩ := hGet
    refine ⟨g, hGet, ?_⟩
    split <;> rfl
  intro j k f g hFlight hFlight' hSome hSome'
  obtain ⟨f', hGet, hSame⟩ := hOld hFlight
  obtain ⟨g', hGet', hSame'⟩ := hOld hFlight'
  exact h hGet hGet' (hSame ▸ hSome) (hSame' ▸ hSome')

theorem line_landWith (hGathered : s.cache.Gathered name) (i : FlightId) (asked : String)
    (landing : Landing) : (s.landWith i asked landing).line name = s.line name := by
  have hFlights := flights_conclude (s.cache.setStage i (.landed landing.returned)) asked i
    (conclude asked landing.returned)
  have hGathered' : ((s.cache.setStage i (.landed landing.returned)).conclude asked i
      (conclude asked landing.returned)).Gathered name := by
    unfold Cache.Gathered
    rw [hFlights]
    exact gathered_setStage hGathered i (.landed landing.returned)
  have hConcluded : (s.withCache ((s.cache.setStage i (.landed landing.returned)).conclude asked i
      (conclude asked landing.returned))).line name =
        (s.withCache (s.cache.setStage i (.landed landing.returned))).line name :=
    line_congr hFlights rfl
  exact ((line_settle hGathered' _ _).trans hConcluded).trans (line_setStage i _)

/-- Whoever waits for the open promise of what they cite stands at the end of the line. -/
theorem line_attach_open (hSound : s.fleet.Sound) (hPosted : s.Posted V) {i : FlightId}
    {ws : List Waiter} (hOpen : s.cache.promise? i = some (.waiting ws))
    (hSlot : w.cites name = true → s.cache.pending.get? name = some i) :
    (s.attach (.shared i) w).line name = s.line name ++ [w].filter (Waiter.cites name) := by
  obtain ⟨f, hFlight, hPromise⟩ : ∃ f, s.cache.flights[i]? = some f ∧ f.promise = .waiting ws := by
    rwa [Cache.promise?, Option.map_eq_some_iff] at hOpen
  have hLine : (s.attach (.shared i) w).line name = s.queue.flatMap (Job.citing name) ++
      (s.cache.modifyFlight i fun f => { f with promise := .waiting (ws ++ [w]) }).flights.flatMap
        (Flight.citing name) := by
    simp only [attach, hOpen]
    rfl
  have hBefore : f.citing name = ws.filter (Waiter.cites name) := by
    rw [Flight.citing, Flight.waiting, hPromise]
  have hAfter : Flight.citing name { f with promise := .waiting (ws ++ [w]) } =
      f.citing name ++ [w].filter (Waiter.cites name) := by
    rw [hBefore, ← List.filter_append]
    rfl
  rw [hLine, line, List.append_assoc]
  congr 1
  by_cases hCites : w.cites name = true
  · have hOnly : ∀ j g, s.cache.flights[j]? = some g → j ≠ i → g.citing name = [] :=
      fun j g hGet hNe => Classical.byContradiction fun hSome =>
        hNe (Option.some.inj ((slot_of_citing hSound hPosted hGet hSome).symm.trans (hSlot hCites)))
    rw [citing_modify_only _ hFlight hOnly, flatMap_of_only hFlight hOnly, hAfter]
  · rw [List.filter_cons_of_neg hCites, List.filter_nil, List.append_nil] at hAfter ⊢
    refine citing_modify_same fun g hGet => ?_
    obtain rfl : f = g := Option.some.inj (hFlight.symm.trans hGet)
    exact hAfter

/-- Whoever cites no pantry does not stand in line. -/
theorem line_attach_other (handle : Handle) (hOther : w.cited? = none) :
    (s.attach handle w).line name = s.line name := by
  have hCites : w.cites name = false := by simp [Waiter.cites, hOther]
  rcases attach_cases s handle w with ⟨x, h⟩ | ⟨i, ws, _, hOpen, h⟩ | ⟨_, _, _, h⟩ <;> rw [h]
  · exact line_enqueue (by simp [Job.citing, Job.waiting, hCites])
  · rw [Cache.promise?, Option.map_eq_some_iff] at hOpen
    obtain ⟨f, hFlight, hPromise⟩ := hOpen
    have hFlights : (s.cache.setPromise i (.waiting (ws ++ [w]))).flights.flatMap
        (Flight.citing name) = s.cache.flights.flatMap (Flight.citing name) := by
      refine citing_modify_same fun g hGet => ?_
      obtain rfl : f = g := Option.some.inj (hFlight.symm.trans hGet)
      simp [Flight.citing, Flight.waiting, hPromise, hCites]
    simp only [line, cache_withCache, queue_withCache, hFlights]

/-- A request for a pantry that is not at hand is given a promise that is open. -/
theorem request_open (env : Setup) (hSound : s.fleet.Sound) (hNone : s.cache.get? name = none) :
    ∃ i ws, (s.request env name).2 = .shared i ∧
      (s.request env name).1.cache.promise? i = some (.waiting ws) := by
  rcases request_cases env s name with ⟨p, hGet, _⟩ | ⟨i, _, hJoin, h⟩ | ⟨_, _, h⟩
  · simp [hNone] at hGet
  · obtain ⟨ws, hOpen⟩ : ∃ ws, s.cache.promise? i = some (.waiting ws) :=
      hSound.coherent.waiting_of_joinable hJoin
    exact ⟨i, ws, by rw [h], by rw [h]; exact hOpen⟩
  · refine ⟨s.cache.flights.length, [], by rw [h], ?_⟩
    rw [h]
    show ((s.cache.start env.searchPaths name).flights[s.cache.flights.length]?).map _ = _
    rw [Cache.getElem?_start, if_pos rfl]
    rfl

/-- An import that is deferred joins the line at its end. -/
theorem line_defer (hSound : s.fleet.Sound) (hPosted : s.Posted V) (session : SessionId)
    (specifier : String) {citation : Citation} (receiver : Receiver)
    (hNone : s.cache.get? citation.pantryName = none) (name : String) :
    (s.defer env session specifier citation receiver).line name = s.line name ++
      [.importing specifier citation session receiver].filter (Waiter.cites name) := by
  have hNoted : (s.note (.deferred receiver.ticket specifier citation.pantryName)).Posted V :=
    hPosted.frame_eq rfl fun _ _ => id
  have hSteps : Fleet.Steps env True s.fleet _ :=
    fleet_request env (s.note (.deferred receiver.ticket specifier citation.pantryName))
      citation.pantryName
  have hSound' := hSound.steps hSteps
  have hOffer := offers_request env (s.note (.deferred receiver.ticket specifier
    citation.pantryName)) citation.pantryName
  obtain ⟨i, ws, hShared, hOpen⟩ := request_open env
    (s := s.note (.deferred receiver.ticket specifier citation.pantryName)) hSound hNone
  rw [hShared] at hOffer
  unfold defer
  simp only
  rw [hShared, line_attach_open hSound' (hNoted.request citation.pantryName) hOpen, line_request]
  · rfl
  · intro hCites
    obtain rfl : citation.pantryName = name := by
      simpa [Waiter.cites, Waiter.cited?] using hCites
    exact hOffer

-- ---------------------------------------------------------------------------
-- Moves
-- ---------------------------------------------------------------------------

/-- How the line for a pantry and what is told of deferred imports can change. -/
inductive Shift (env : Setup) (s s' : State) : Prop where
  | keep (hLog : s'.desk.log = s.desk.log) (hLine : ∀ name, s'.line name = s.line name)
  | join {specifier citation session receiver}
      (hLog : s'.desk.log = .deferred receiver.ticket specifier citation.pantryName :: s.desk.log)
      (hLine : ∀ name, s'.line name = s.line name ++
        [.importing specifier citation session receiver].filter (Waiter.cites name))
  | leave {settlement specifier citation session receiver e}
      (hJob : .notify settlement (.importing specifier citation session receiver) ∈ s.queue)
      (hAnswer : e.answerTo? = some receiver.ticket)
      (hOutcome : e.answer? = some (s.complete env session specifier citation settlement).2)
      (hLog : s'.desk.log = e :: s.desk.log)
      (hLine : ∀ name, s.line name =
        [.importing specifier citation session receiver].filter (Waiter.cites name) ++
          s'.line name)
  -- an import that is bound to no compilation is told that it failed
  | apart {t written fault} (hUnbound : IsUnbound s.tasks t)
      (hLog : s'.desk.log = .handed t (.failure written fault) :: s.desk.log)
      (hLine : ∀ name, s'.line name = s.line name)

theorem log_note {e : Event} (h : e.isDelivery = false) : (s.note e).desk.log = s.desk.log :=
  congrArg Desk.log (desk_note h)

theorem log_landWith (s : State) (i : FlightId) (asked : String) (landing : Landing) :
    (s.landWith i asked landing).desk.log = s.desk.log := by
  have hResult : (resultEvent asked (conclude asked landing.returned)).isDelivery = false := by
    cases conclude asked landing.returned <;> rfl
  show (s.landWith i asked landing).journal.filter Event.isDelivery = _
  rw [filter_journal_landWith Event.isDelivery (fun _ => rfl),
    List.filter_cons_of_neg (by simp [hResult])]
  rfl

theorem log_handOver (t : Ticket) (outcome : Outcome) :
    (s.handOver t outcome).desk.log = .handed t outcome :: s.desk.log :=
  congrArg Desk.log (desk_handOver t outcome).1

theorem log_defer (session : SessionId) (specifier : String) (citation : Citation)
    (receiver : Receiver) : (s.defer env session specifier citation receiver).desk.log =
      .deferred receiver.ticket specifier citation.pantryName :: s.desk.log :=
  congrArg Desk.log (desk_defer session specifier citation receiver)

/-- An import that is bound to no compilation is answered with failures only. -/
theorem failure_of_resolveUnbound {specifier ingredient : String} {pantry : Pantry}
    {outcome : Outcome} (h : resolveUnbound env specifier pantry ingredient = .ok outcome) :
    ∃ fault, outcome = .failure specifier fault := by
  unfold resolveUnbound at h
  split at h
  · exact ⟨_, (Except.ok.inj h).symm⟩
  · exact absurd h (by simp)

/-- Of those who are no imports of a compilation, only those are told an outcome that are bound to
none, and only a failure. -/
theorem log_notify (hOther : w.isImport = false) (settlement : Settlement) :
    (s.notify env settlement w).desk.log = s.desk.log ∨
      ∃ specifier citation t fault, w = .unbound specifier citation t ∧
        (s.notify env settlement w).desk.log = .handed t (.failure specifier fault) ::
          s.desk.log := by
  have hJournal : ∀ {s' : State}, s'.journal = s.journal → s'.desk.log = s.desk.log :=
    fun h => congrArg (List.filter Event.isDelivery) h
  cases w with
  | importing => exact absurd hOther (by simp [Waiter.isImport])
  | unbound specifier citation t =>
    cases settlement with
    | kept pantry =>
      simp only [notify, completeUnbound]
      split
      · rename_i outcome hOk
        obtain ⟨fault, rfl⟩ := failure_of_resolveUnbound hOk
        exact Or.inr ⟨_, _, _, _, rfl, log_handOver _ _⟩
      · exact Or.inl rfl
    | broken fault => exact Or.inr ⟨_, _, _, _, rfl, log_handOver _ _⟩
    | cancelled =>
      have hLog := log_handOver (s := s.note (.promiseCancelled citation.pantryName)) t
        (.failure specifier (.discoveryFailed citation.pantryName Fault.cancelled))
      rw [log_note rfl] at hLog
      exact Or.inr ⟨_, _, _, _, rfl, hLog⟩
  | observer t => exact Or.inl (log_note rfl)
  | resolver t => cases settlement <;> exact Or.inl (hJournal (journal_wake _ _ _))
  | collector t slot =>
    cases settlement with
    | kept pantry =>
      refine Or.inl (hJournal ?_)
      rcases collect_cases s t slot pantry with ⟨_, _, _, h | ⟨_, h⟩⟩ | h <;> simp [notify, h]
    | broken fault => exact Or.inl (hJournal (journal_wake _ _ _))
    | cancelled => exact Or.inl (hJournal (journal_wake _ _ _))
  | prefetcher =>
    cases settlement with
    | broken fault => exact Or.inl (log_note rfl)
    | kept pantry => exact Or.inl rfl
    | cancelled => exact Or.inl rfl

theorem Shift.of_aside (hAside : Aside s s') (hLog : s'.desk.log = s.desk.log) :
    Shift env s s' :=
  .keep hLog fun _ => line_of_aside hAside

theorem outcome_complete_pop (env : Setup) (s : State) (session : SessionId) (specifier : String)
    (citation : Citation) (settlement : Settlement) :
    (s.pop.complete env session specifier citation settlement).2 =
      (s.complete env session specifier citation settlement).2 := by
  cases settlement with
  | kept pantry =>
    simp only [complete, resolveIn]
    split <;> rfl
  | broken fault => rfl
  | cancelled => rfl

theorem Shift.of_pop {job : Job} {rest : List Job} (hQueue : s.queue = job :: rest)
    (hNobody : job.waiting = []) (h : Shift env s.pop s') : Shift env s s' := by
  have hLine : ∀ name, s.line name = s.pop.line name := by
    intro name
    rw [line_pop hQueue, Job.citing, hNobody, List.filter_nil, List.nil_append]
  cases h with
  | keep hLog hShift => exact .keep hLog fun name => (hShift name).trans (hLine name).symm
  | join hLog hShift => exact .join hLog fun name => (hShift name).trans (by rw [hLine])
  | leave hJob hAnswer hOutcome hLog hShift =>
    rw [outcome_complete_pop] at hOutcome
    exact .leave (List.mem_of_mem_tail hJob) hAnswer hOutcome hLog fun name =>
      (hLine name).trans (hShift name)
  | apart hUnbound hLog hShift =>
    exact .apart hUnbound hLog fun name => (hShift name).trans (hLine name).symm

/-- The next in the queue is answered, and leaves the line. -/
theorem Shift.of_answer {settlement : Settlement} {specifier : String} {citation : Citation}
    {session : SessionId} {receiver : Receiver} {rest : List Job} {e : Event}
    (hQueue : s.queue =
      .notify settlement (.importing specifier citation session receiver) :: rest)
    (hAnswer : e.answerTo? = some receiver.ticket)
    (hOutcome : e.answer? = some (s.pop.complete env session specifier citation settlement).2)
    (hLog : s'.desk.log = e :: s.pop.desk.log) (hLine : ∀ name, s'.line name = s.pop.line name) :
    Shift env s s' := by
  rw [outcome_complete_pop] at hOutcome
  refine .leave (hQueue ▸ List.mem_cons_self) hAnswer hOutcome hLog fun name => ?_
  rw [line_pop hQueue, hLine]
  rfl

/-- **A move lets an import join the line of its pantry at the end, or leave it at the head.** -/
theorem Move.shift (hMove : Move env cancels s s') (hSound : s.fleet.Sound) (hPosted : s.Posted V)
    (hAccounts : s.desk.Accounts) : Shift env s s' := by
  have hGathered : ∀ name, s.cache.Gathered name := gathered_of_sound hSound hPosted
  cases hMove with
  | @remark e hRemark =>
    exact .keep (log_note (Event.isDelivery_of_isRemark hRemark)) fun _ => rfl
  | number => exact .keep rfl fun _ => rfl
  | give => exact .keep rfl fun _ => rfl
  | request => exact .keep (congrArg Desk.log (desk_request _ _ _)) (line_request _ _ _)
  | @attach name handle w hOffer hAdmit =>
    have hOther : w.cited? = none := by cases w <;> simp_all [Admits, Waiter.cited?]
    refine .keep ?_ fun _ => line_attach_other handle hOther
    simp only [State.desk, journal_attach]
  | @defer session specifier citation script hNone =>
    exact .join (log_defer session specifier citation (.callback s.tickets script))
      (line_defer hSound hPosted session specifier _ hNone)
  | cancel => exact .keep rfl fun name => line_settle (hGathered name) _ _
  | @launch i rest f hQueue =>
    refine .of_pop hQueue rfl (.keep (log_note rfl) fun name => ?_)
    exact line_setStage (s := s.pop) i .flying
  | landNow => exact .keep (log_landWith _ _ _ _) fun name => line_landWith (hGathered name) _ _ _
  | @comeBack i f landing =>
    exact .keep rfl fun name => (line_enqueue rfl).trans (line_setStage i _)
  | land hQueue =>
    exact .of_pop hQueue rfl (.keep (log_landWith _ _ _ _) fun name =>
      line_landWith (s := s.pop) (hGathered name) _ _ _)
  | @deliver settlement specifier citation session t script rest hQueue =>
    refine .of_answer hQueue
      (e := .delivered t (s.pop.complete env session specifier citation settlement).2) rfl rfl ?_
      fun name => line_complete _ _ _ _ _ _ _
    rw [desk_note_delivery rfl, desk_complete]
  | @hand settlement specifier citation session t rest hQueue =>
    refine .of_answer hQueue
      (e := .handed t (s.pop.complete env session specifier citation settlement).2) rfl rfl ?_
      fun name => ?_
    · rw [log_handOver, desk_complete]
    · rw [line_of_aside (aside_handOver _ _), line_complete]
  | @tell settlement w rest hQueue hOther =>
    have hLine : ∀ name, (s.pop.notify env settlement w).line name = s.line name := by
      intro name
      have hCites : w.cites name = false := by
        cases w <;> simp_all [Waiter.cites, Waiter.cited?, Waiter.isImport]
      rw [line_of_aside (aside_notify hOther settlement), line_pop hQueue]
      simp [Job.citing, Job.waiting, hCites]
    rcases log_notify (s := s.pop) hOther settlement with
      hLog | ⟨specifier, citation, t, fault, rfl, hLog⟩
    · exact .keep hLog hLine
    · have hWaiting : .unbound specifier citation t ∈ s.waiting :=
        (waiting_pop hQueue).mem_iff.mpr (List.mem_append_left _ (List.mem_singleton_self _))
      exact .apart (hAccounts.bound specifier citation t hWaiting) hLog hLine
  | startTask =>
    refine .of_aside (aside_startTask _) ?_
    unfold State.startTask
    split <;> rfl
  | cancelTask =>
    refine .of_aside (aside_cancelTask _) ?_
    unfold State.cancelTask
    split <;> rfl
  | @deferTask t rest work phase session specifier citation more outcomes hQueue hTask hPhase hWork
      hNone =>
    have hSound' : s.pop.fleet.Sound := sound_pop hSound hQueue fun _ => rfl
    exact .of_pop hQueue rfl (.join (log_defer session specifier citation (.task t))
      (line_defer hSound' hPosted.pop session specifier _ hNone))
  | park hQueue => exact .of_pop hQueue rfl (.of_aside (aside_setTask _ _) rfl)
  | finish hQueue =>
    exact .of_pop hQueue rfl (.of_aside (aside_finish _ _ _) (log_note rfl))
  | @skip job rest hQueue hIdle =>
    cases job with
    | notify => exact hIdle.elim
    | _ => exact .of_pop hQueue rfl (.keep rfl fun _ => rfl)

-- ---------------------------------------------------------------------------
-- The law of the line
-- ---------------------------------------------------------------------------

/-- Whether of the deferred imports of a pantry the first ones were answered, in the order of their
deferrals, and the others are in line. -/
def Orderly (s : State) (name : String) : Prop :=
  deferralsFor name s.desk.log =
    answersFor name s.desk.log ++ (s.line name).filterMap Waiter.number?

theorem Orderly.shift (h : s.Orderly name) (hAccounts : s.desk.Accounts) (hCited : s.desk.Cited)
    (hShift : Shift env s s') : s'.Orderly name := by
  unfold Orderly at h ⊢
  have hAlone : ∀ specifier citation session receiver,
      ([Waiter.importing specifier citation session receiver].filter (Waiter.cites name)).filterMap
        Waiter.number? = if citation.pantryName = name then [receiver.ticket] else [] := by
    intro specifier citation session receiver
    by_cases hName : citation.pantryName = name <;>
      simp [Waiter.cites, Waiter.cited?, Waiter.number?, hName]
  cases hShift with
  | keep hLog hLine => rw [hLog, hLine, h]
  | @join specifier citation session receiver hLog hLine =>
    have hNone : (Event.deferred receiver.ticket specifier citation.pantryName).answerTo? = none :=
      rfl
    rw [hLog, hLine, deferralsFor, answersFor, hNone, List.filterMap_append, hAlone, h]
    by_cases hName : citation.pantryName = name <;> simp [Event.deferralFor?, hName]
  | @leave settlement specifier citation session receiver e hJob hAnswer _ hLog hLine =>
    have hNone : e.deferralFor? name = none := by
      cases e <;> simp_all [Event.answerTo?, Event.deferralFor?]
    have hWaiting : .importing specifier citation session receiver ∈ s.waiting :=
      List.mem_append_right _ (List.mem_flatMap.mpr ⟨_, hJob, List.mem_singleton_self _⟩)
    have hLast := hCited specifier citation session receiver hWaiting
    rw [hLine, List.filterMap_append, hAlone, ← List.append_assoc] at h
    rw [hLog, deferralsFor, answersFor, hNone, hAnswer, Option.filter_some, hLast, h]
    by_cases hName : citation.pantryName = name <;> simp [hName]
  | @apart t written fault hUnbound hLog hLine =>
    have hLast : lastCited? t s.desk.log = none := by
      rw [lastCited?_eq, lastDeferred?_of_none ((hAccounts.account t).apart hUnbound).1]
      rfl
    have hNone : (Event.handed t (.failure written fault)).deferralFor? name = none := rfl
    rw [hLog, hLine, deferralsFor, answersFor, hNone, Event.answerTo?, Option.filter_some, hLast, h]
    simp

theorem line_seeded (config : Config) (name : String) : (seeded config).line name = [] := by
  show [] ++ (Cache.ofSeeds config.pantries).flights.flatMap (Flight.citing name) = []
  rw [(Cache.ofSeeds_empty config.pantries).2]
  rfl

theorem Moves.orderly (h : Moves env cancels (seeded config) s) (name : String) :
    s.Orderly name := by
  induction h with
  | refl =>
    rw [Orderly, line_seeded]
    rfl
  | @tail s₁ s₂ hMoves hMove ih =>
    have hSound : s₁.fleet.Sound := Moves.sound hMoves
    have hAccounts : s₁.desk.Accounts := Moves.accounts hMoves
    exact ih.shift hAccounts (Moves.written hMoves).cited (hMove.shift hSound (Moves.posted hMoves) hAccounts)

/-- **The imports of a pantry are answered in the order of their deferrals.** In every state that an
importer can come to, whatever became of the discoveries of the pantry, the answers to its deferred
imports are for the first of them and in their order; those that were not answered are in line for
it, in their order too. When nothing is under way, all were answered. -/
theorem answered_in_order (h : Reachable env config s) (name : String) :
    answersFor name s.journal <+: deferralsFor name s.journal ∧
    deferralsFor name s.journal =
      answersFor name s.journal ++ (s.line name).filterMap Waiter.number? ∧
    (s.Quiet → answersFor name s.journal = deferralsFor name s.journal) := by
  have hOrderly : s.Orderly name := h.moves.orderly name
  rw [Orderly, show s.desk.log = s.journal.filter Event.isDelivery from rfl, deferralsFor_filter,
    answersFor_filter] at hOrderly
  refine ⟨⟨_, hOrderly.symm⟩, hOrderly, fun hQuiet => ?_⟩
  have hLine : s.line name = [] := by
    have hNobody := List.append_eq_nil_iff.mp (waiting_of_quiet h.sound hQuiet)
    have hNone : s.cache.flights.flatMap (Flight.citing name) = [] := by
      show s.cache.flights.flatMap (fun f => f.waiting.filter (Waiter.cites name)) = []
      rw [← List.filter_flatMap, hNobody.1, List.filter_nil]
    rw [line, hQuiet.1, hNone]
    rfl
  rw [hOrderly, hLine, List.filterMap_nil, List.append_nil]

/-- The promise of a deferred import is cancelled; before it is told of that, another import is
deferred, and when it is told, its callback imports a third time. Then the second discovery
fails. -/
def takingTurns : State :=
  let what : Import := ⟨.named "main", .str "p/i", .str "/main.scss"⟩
  (actAll Setup.manual [.importing what (.importing what .stop .stop), .tick, .cancelRequest "p",
    .importing what .stop, .tick, .tick, .release 1 ⟨[], .other "dict"⟩, .tick, .tick]
    (create Setup.manual Config.bare)).1

/-- Two of the three were answered, and the last one is in line. -/
theorem answered_in_order_takingTurns :
    Reachable Setup.manual Config.bare takingTurns ∧
      deferralsFor "p" takingTurns.journal = [0, 1, 2] ∧
      (takingTurns.line "p").filterMap Waiter.number? = [2] ∧
      answersFor "p" takingTurns.journal = [0, 1] := by
  have hReach : Reachable Setup.manual Config.bare takingTurns := .actAll _ .create
  have hDeferrals : deferralsFor "p" takingTurns.journal = [0, 1, 2] := by decide
  have hLine : (takingTurns.line "p").filterMap Waiter.number? = [2] := rfl
  obtain ⟨_, hAll, _⟩ := answered_in_order hReach "p"
  rw [hDeferrals, hLine] at hAll
  exact ⟨hReach, hDeferrals, hLine, (List.append_cancel_right (hAll : [0, 1] ++ [2] = _)).symm⟩

end State

end Larder
