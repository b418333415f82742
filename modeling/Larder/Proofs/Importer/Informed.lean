import Larder.Proofs.Importer.Desk
import Larder.Proofs.Importer.Slots

/-!
# Larder — what those who wait are told

Whoever waits for a pantry waits for the end of some discovery, and is told of it in the end. Two
things can go wrong on the way: someone may wait for a discovery of another pantry than the one they
need, or be told of something that did not happen. `Informed` says that neither does. Whom it is
about, and what counts as an answer for a pantry, is left open: `Cites w name` reads "`w` needs the
pantry `name`", and `V name x` reads "`x` is something that the pantry came to".

Each elementary change has a lemma; a move is put together from them.

## Results

* `Informed.settle`: settling a promise tells those who wait for it.
* `Informed.attach`: whoever joins those who wait, waits for what they need.
* `Move.informed`: a move tells everyone of what the pantries came to.
-/

namespace Larder

namespace State

variable {env : Setup} {cancels : Prop} {s s' : State} {Cites : Waiter → String → Prop}
  {V : String → Settlement → Prop}

/-- Those who need a pantry wait for it and are told of it. -/
structure Informed (s : State) (Cites : Waiter → String → Prop) (V : String → Settlement → Prop) :
    Prop where
  -- they wait for a discovery of what they need
  addressed : ∀ f ∈ s.cache.flights, ∀ w ∈ f.waiting, ∀ name, Cites w name → f.call.name = name
  told : ∀ x w name, .notify x w ∈ s.queue → Cites w name → V name x

namespace Informed

theorem mono {W : String → Settlement → Prop} (h : s.Informed Cites V)
    (hMore : ∀ name x, V name x → W name x) : s.Informed Cites W where
  addressed := h.addressed
  told := fun x w name hJob hCites => hMore name x (h.told x w name hJob hCites)

-- ---------------------------------------------------------------------------
-- Nobody new
-- ---------------------------------------------------------------------------

/-- Nobody new waits for a discovery, and nobody new is told. -/
theorem frame (h : s.Informed Cites V)
    (hFlights : ∀ f' ∈ s'.cache.flights, f'.waiting = [] ∨
      ∃ f ∈ s.cache.flights, f'.call = f.call ∧ f'.waiting = f.waiting)
    (hQueue : ∀ x w, .notify x w ∈ s'.queue → .notify x w ∈ s.queue) : s'.Informed Cites V where
  addressed := by
    intro f' hf' w hw name hCites
    rcases hFlights f' hf' with hNobody | ⟨f, hf, hCall, hWaiting⟩
    · simp [hNobody] at hw
    · rw [hCall]
      exact h.addressed f hf w (hWaiting ▸ hw) name hCites
  told := fun x w name hJob hCites => h.told x w name (hQueue x w hJob) hCites

theorem frame_eq (h : s.Informed Cites V) (hFlights : s'.cache.flights = s.cache.flights)
    (hQueue : ∀ x w, .notify x w ∈ s'.queue → .notify x w ∈ s.queue) : s'.Informed Cites V :=
  h.frame (fun f hf => Or.inr ⟨f, hFlights ▸ hf, rfl, rfl⟩) hQueue

theorem pop (h : s.Informed Cites V) : s.pop.Informed Cites V :=
  h.frame_eq rfl fun _ _ hJob => List.mem_of_mem_tail hJob

theorem aside (h : s.Informed Cites V) (hAside : Aside s s') : s'.Informed Cites V := by
  obtain ⟨hCache, _, ⟨ts, hQueue⟩, _⟩ := hAside
  refine h.frame_eq (by rw [hCache]) fun x w hJob => ?_
  rw [hQueue] at hJob
  simpa using hJob

theorem complete (h : s.Informed Cites V) (session : SessionId) (specifier : String)
    (citation : Citation) (settlement : Settlement) :
    (s.complete env session specifier citation settlement).1.Informed Cites V := by
  rcases complete_cases env s session specifier citation settlement with
    ⟨_, _, _, _, _, hComplete⟩ | ⟨_, hComplete⟩ | ⟨_, _, hComplete⟩ <;> rw [hComplete]
  · exact h.frame_eq rfl fun _ _ => id
  · exact h
  · exact h.frame_eq rfl fun _ _ => id

theorem setStage (h : s.Informed Cites V) (i : FlightId) (stage : Stage) :
    (s.withCache (s.cache.setStage i stage)).Informed Cites V := by
  refine h.frame (fun f' hf' => ?_) fun _ _ => id
  obtain ⟨j, hj⟩ := List.mem_iff_getElem?.mp hf'
  rw [cache_withCache, Cache.setStage, Cache.getElem?_modifyFlight, Option.map_eq_some_iff] at hj
  obtain ⟨f, hGet, rfl⟩ := hj
  refine Or.inr ⟨f, List.mem_of_getElem? hGet, ?_⟩
  split <;> exact ⟨rfl, rfl⟩

theorem request (h : s.Informed Cites V) (name : String) :
    (s.request env name).1.Informed Cites V := by
  rcases request_cases env s name with ⟨p, _, hAsk⟩ | ⟨i, _, _, hAsk⟩ | ⟨_, _, hAsk⟩ <;> rw [hAsk]
  · exact h
  · exact h.frame_eq rfl fun _ _ => id
  · refine h.frame (fun f' hf' => ?_) fun x w hJob => ?_
    · rcases List.mem_append.mp hf' with hOld | hNew
      · exact Or.inr ⟨f', hOld, rfl, rfl⟩
      · rw [List.mem_singleton.mp hNew]
        exact Or.inl rfl
    · simpa using hJob

-- ---------------------------------------------------------------------------
-- Those who are told, and those who come to wait
-- ---------------------------------------------------------------------------

/-- Settling a promise tells those who wait for it. -/
theorem settle (h : s.Informed Cites V) {i : FlightId} {x : Settlement}
    (hCame : ∀ f, s.cache.flights[i]? = some f → V f.call.name x) :
    (s.settle i x).Informed Cites V where
  addressed := by
    intro f' hf' w hw name hCites
    obtain ⟨j, hj⟩ := List.mem_iff_getElem?.mp hf'
    rw [State.settle, cache_enqueue, cache_withCache, Cache.settle_eq, Cache.getElem?_modifyFlight,
      Option.map_eq_some_iff] at hj
    obtain ⟨f, hGet, rfl⟩ := hj
    split at hw
    · simp [waiting_settledWith] at hw
    · rename_i hij
      rw [if_neg hij]
      exact h.addressed f (List.mem_of_getElem? hGet) w hw name hCites
  told := by
    intro y w name hJob hCites
    rw [State.settle, queue_enqueue, queue_withCache, List.mem_append, List.mem_map] at hJob
    rcases hJob with hOld | ⟨w', hw', hJob⟩
    · exact h.told y w name hOld hCites
    · obtain ⟨rfl, rfl⟩ := Job.notify.inj hJob
      cases hFlight : s.cache.flights[i]? with
      | none => simp [Cache.waiters, Cache.promise?, hFlight] at hw'
      | some f =>
        rw [waiters_eq hFlight] at hw'
        have hName := h.addressed f (List.mem_of_getElem? hFlight) w' hw' name hCites
        exact hName ▸ hCame f hFlight

/-- Whoever joins those who wait for what the cache has to offer for a name, needs that name or
none. -/
theorem attach (h : s.Informed Cites V) (hSound : s.fleet.Sound) {name : String} {handle : Handle}
    {w : Waiter} (hOffer : s.cache.Offers name handle)
    (hNeeds : ∀ other, Cites w other → other = name)
    (hHand : ∀ P, s.cache.get? name = some P → V name (.kept P))
    (hCancelled : V name .cancelled) : (s.attach handle w).Informed Cites V := by
  -- all that is new in the queue is that this one is told
  have hTold : ∀ x, V name x → ∀ y w' other, .notify y w' ∈ (s.enqueue [.notify x w]).queue →
      Cites w' other → V other y := by
    intro x hx y w' other hJob hCites
    rw [queue_enqueue, List.mem_append, List.mem_singleton] at hJob
    rcases hJob with hOld | hNew
    · exact h.told y w' other hOld hCites
    · obtain ⟨rfl, rfl⟩ := Job.notify.inj hNew
      exact hNeeds other hCites ▸ hx
  cases handle with
  | ready p => exact ⟨h.addressed, hTold _ (hHand p hOffer)⟩
  | shared i =>
    obtain ⟨f, hServes, _, hOpen⟩ := (hSound.coherent.tidy name).live i hOffer
    obtain ⟨hFlight, hName⟩ : s.cache.flights[i]? = some f ∧ f.call.name = name := hServes
    have hPromise : s.cache.promise? i = some f.promise := by
      rw [Cache.promise?, hFlight, Option.map_some]
    rw [State.attach, hPromise]
    cases hState : f.promise with
    | waiting ws =>
      refine ⟨fun f' hf' w' hw' other hCites => ?_, h.told⟩
      obtain ⟨j, hj⟩ := List.mem_iff_getElem?.mp hf'
      rw [cache_withCache, Cache.setPromise, Cache.getElem?_modifyFlight,
        Option.map_eq_some_iff] at hj
      obtain ⟨g, hGet, rfl⟩ := hj
      have hOld := h.addressed g (List.mem_of_getElem? hGet)
      split at hw'
      · rename_i hij
        subst hij
        rw [if_pos rfl]
        obtain rfl : f = g := Option.some.inj (hFlight.symm.trans hGet)
        rcases List.mem_append.mp hw' with hBefore | hNew
        · exact hOld w' (by simpa [Flight.waiting, hState] using hBefore) other hCites
        · rw [List.mem_singleton.mp hNew] at hCites
          exact hName.trans (hNeeds other hCites).symm
      · rename_i hij
        rw [if_neg hij]
        exact hOld w' hw' other hCites
    | settled x =>
      -- only a cancelled promise is settled while its discovery is in flight
      obtain rfl := hOpen x hState
      exact ⟨h.addressed, hTold _ hCancelled⟩

/-- Someone who needs a pantry asks for it and waits. -/
theorem request_attach (h : s.Informed Cites V) (hSound : s.fleet.Sound) {name : String}
    {w : Waiter} (hNeeds : ∀ other, Cites w other → other = name)
    (hHand : ∀ P, s.cache.get? name = some P → V name (.kept P))
    (hCancelled : V name .cancelled) :
    ((s.request env name).1.attach (s.request env name).2 w).Informed Cites V := by
  have hSteps : Fleet.Steps env True s.fleet _ := fleet_request env s name
  refine (h.request name).attach (hSound.steps hSteps) (offers_request _ _ _) hNeeds
    (fun P hGet => hHand P ?_) hCancelled
  rw [← hGet, get?_request]

theorem defer (h : s.Informed Cites V) (hSound : s.fleet.Sound) {session : SessionId}
    {specifier : String} {citation : Citation} {receiver : Receiver}
    (hNeeds : ∀ other, Cites (.importing specifier citation session receiver) other →
      other = citation.pantryName)
    (hHand : ∀ name P, s.cache.get? name = some P → V name (.kept P))
    (hCancelled : ∀ name, V name .cancelled) :
    (s.defer env session specifier citation receiver).Informed Cites V := by
  have hNoted : (s.note (.deferred receiver.ticket specifier citation.pantryName)).Informed
      Cites V := h.frame_eq rfl fun _ _ => id
  exact hNoted.request_attach hSound hNeeds (hHand _) (hCancelled _)

theorem landWith (h : s.Informed Cites V) {i : FlightId} {f : Flight} {landing : Landing}
    (hFlight : s.cache.flights[i]? = some f)
    (hCame : V f.call.name (.ofResult (conclude f.call.name landing.returned))) :
    (s.landWith i f.call.name landing).Informed Cites V := by
  have hConcluded : (s.withCache ((s.cache.setStage i (.landed landing.returned)).conclude
      f.call.name i (conclude f.call.name landing.returned))).Informed Cites V :=
    (h.setStage i (.landed landing.returned)).frame_eq (flights_conclude _ _ _ _) fun _ _ => id
  have hNoted : (State.note (State.withCache (s.noteAll (landing.notes.map Event.told))
      ((s.cache.setStage i (.landed landing.returned)).conclude f.call.name i
        (conclude f.call.name landing.returned)))
      (resultEvent f.call.name (conclude f.call.name landing.returned))).Informed Cites V :=
    hConcluded.frame_eq rfl fun _ _ => id
  refine hNoted.settle fun g hGet => ?_
  have hCall : g.call = f.call := by
    rw [cache_note, cache_withCache, flights_conclude, Cache.setStage,
      Cache.getElem?_modifyFlight, hFlight] at hGet
    obtain rfl := Option.some.inj hGet
    simp
  rw [hCall]
  exact hCame

end Informed

-- ---------------------------------------------------------------------------
-- Moves
-- ---------------------------------------------------------------------------

/-- **A move tells everyone of what the pantries came to**: of what is at hand, of a cancelled
promise, or of what a discovery then comes to. -/
theorem Move.informed (hMove : Move env cancels s s') (hSound : s.fleet.Sound)
    (h : s.Informed Cites V)
    (hAdmitted : ∀ name w other, s.Admits name w → Cites w other → other = name)
    (hImport : ∀ specifier citation session receiver other,
      Cites (.importing specifier citation session receiver) other → other = citation.pantryName)
    (hHand : ∀ name P, s.cache.get? name = some P → V name (.kept P))
    (hCancelled : ∀ name, V name .cancelled)
    (hCame : ∀ name result, resultEvent name result ∈ s'.journal → V name (.ofResult result)) :
    s'.Informed Cites V := by
  have hLanded : ∀ {s₁ : State} {i name landing}, s' = s₁.landWith i name landing →
      V name (.ofResult (conclude name landing.returned)) := by
    intro s₁ i name landing hLand
    refine hCame name _ ?_
    rw [hLand]
    simp [State.landWith, State.settle]
  cases hMove with
  | remark => exact h.frame_eq rfl fun _ _ => id
  | number => exact h.frame_eq rfl fun _ _ => id
  | give => exact h.frame_eq rfl fun _ _ => id
  | request => exact h.request _
  | @attach name handle w hOffer hAdmit =>
    exact h.attach hSound hOffer (fun other => hAdmitted name w other hAdmit) (hHand name)
      (hCancelled name)
  | defer =>
    exact (h.defer hSound (hImport _ _ _ _) hHand hCancelled).frame_eq rfl fun _ _ => id
  | cancel => exact h.settle fun _ _ => hCancelled _
  | launch => exact (h.setStage _ .flying).pop.frame_eq rfl fun _ _ => id
  | landNow hFlight => exact h.landWith hFlight (hLanded rfl)
  | @comeBack i f landing =>
    refine (h.setStage i (.landing landing)).frame_eq rfl fun x w hJob => ?_
    simpa using hJob
  | land _ hFlight => exact h.pop.landWith hFlight (hLanded rfl)
  | deliver => exact (h.pop.complete _ _ _ _).frame_eq rfl fun _ _ => id
  | hand => exact (h.pop.complete _ _ _ _).aside (aside_handOver _ _)
  | tell _ hOther => exact h.pop.aside (aside_notify hOther _)
  | startTask => exact h.aside (aside_startTask _)
  | cancelTask => exact h.aside (aside_cancelTask _)
  | deferTask hQueue =>
    have hSound' : s.pop.fleet.Sound := sound_pop hSound hQueue fun _ => rfl
    exact (h.pop.defer hSound' (hImport _ _ _ _) hHand hCancelled).aside (aside_setTask _ _)
  | park => exact h.pop.aside (aside_setTask _ _)
  | finish => exact h.pop.aside (aside_finish _ _ _)
  | skip => exact h.pop

end State

end Larder
