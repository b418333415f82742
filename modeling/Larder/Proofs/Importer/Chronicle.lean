import Larder.Proofs.Importer.Coherence

/-!
# Larder — the journal tells the course of the discoveries

Each discovery leaves a trail in the journal: its start, its call, what became of it. The part of
the journal that is about discoveries is exactly these trails, in some order; so what is counted in
the journal can be counted on the discoveries. Together with the agreement of slots and
discoveries, and with the rule that the queue holds one job for each call that was not made yet,
this is what every reachable fleet keeps (`Fleet.Sound`).

## Results

* `Fleet.Sound.step`: a step of the fleet keeps it.
* `Reachable.sound`: so it holds in all runs.
* `Fleet.Sound.ended_stays`: a discovery that has ended does not change any more.
* `Fleet.uncancelled_steps`: without cancelling no promise is ever cancelled.
-/

namespace Larder

-- ---------------------------------------------------------------------------
-- The trail of a discovery
-- ---------------------------------------------------------------------------

namespace Flight

/-- Whether the call of a discovery has not been made yet. -/
def isScheduled (f : Flight) : Bool :=
  match f.stage with
  | .scheduled => true
  | _ => false

/-- What the journal tells of a discovery, the newest first. -/
def past (f : Flight) : List Event :=
  match f.stage with
  | .scheduled => [.started f.call.name]
  | .flying => [.called f.call, .started f.call.name]
  | .landing _ => [.called f.call, .started f.call.name]
  | .landed returned =>
    [State.resultEvent f.call.name (conclude f.call.name returned), .called f.call,
      .started f.call.name]

variable {f : Flight}

theorem isScheduled_iff : f.isScheduled = true ↔ f.stage = .scheduled := by
  unfold isScheduled
  split <;> simp_all

theorem live_of_isScheduled (h : f.isScheduled = true) : f.live = true := by
  rw [isScheduled_iff] at h
  simp [live, result?, h]

theorem past_settledWith (f : Flight) (x : Settlement) : (f.settledWith x).past = f.past := by
  simp only [past, stage_settledWith, call_settledWith]

theorem isScheduled_settledWith (f : Flight) (x : Settlement) :
    (f.settledWith x).isScheduled = f.isScheduled := by
  simp only [isScheduled, stage_settledWith]

theorem consistent_settledWith_cancelled (h : f.Consistent) :
    (f.settledWith .cancelled).Consistent := by
  obtain ⟨call, stage, promise⟩ := f
  cases promise with
  | settled x => exact h
  | waiting ws =>
    unfold Consistent at h ⊢
    rw [result?_settledWith]
    cases hResult : result? ⟨call, stage, .waiting ws⟩ with
    | none =>
      intro x hSettled
      exact (Promise.settled.inj hSettled).symm
    | some returned => exact Or.inr rfl

theorem consistent_of_waiting {ws : List Waiter} (hLive : f.live = true) :
    ({ f with promise := .waiting ws } : Flight).Consistent := by
  have hResult : ({ f with promise := .waiting ws } : Flight).result? = none := live_iff.mp hLive
  unfold Consistent
  rw [hResult]
  exact fun x hSettled => absurd hSettled (by simp)

/-- Whoever still waits, waits for a discovery in flight. -/
theorem live_of_waiting {ws : List Waiter} (h : f.Consistent) (hWaiting : f.promise = .waiting ws) :
    f.live = true := by
  rw [live_iff]
  unfold Consistent at h
  split at h
  · assumption
  · rw [hWaiting] at h
    simp at h

end Flight

-- ---------------------------------------------------------------------------
-- Sound fleets
-- ---------------------------------------------------------------------------

namespace Fleet

/-- What is true of every reachable fleet. -/
structure Sound (F : Fleet) : Prop where
  coherent : F.cache.Coherent
  launching : ∀ i, F.launching i =
    if (F.cache.flights[i]?).any Flight.isScheduled then 1 else 0
  chronicle : F.log.Perm (F.cache.flights.flatMap Flight.past)

variable {env : Setup} {cancels : Prop} {F F' : Fleet} {i : FlightId} {f : Flight}

theorem Sound.isScheduled_of_launching (h : F.Sound) (hFlight : F.cache.flights[i]? = some f)
    (hJob : 0 < F.launching i) : f.isScheduled = true := by
  have hLaunching := h.launching i
  rw [hFlight, Option.any_some] at hLaunching
  split at hLaunching
  · assumption
  · omega

/-- What is told of a change goes on the trail of the discovery. -/
theorem perm_past_modify {flights : List Flight} {log : List Event} (change : Flight → Flight)
    (told : List Event) (hFlight : flights[i]? = some f)
    (hPast : (change f).past = told ++ f.past) (h : log.Perm (flights.flatMap Flight.past)) :
    (told ++ log).Perm ((flights.modify i change).flatMap Flight.past) := by
  obtain ⟨rest, hOld, hNew⟩ := flatMap_modify Flight.past change hFlight
  rw [hPast, List.append_assoc] at hNew
  exact ((h.trans hOld).append_left told).trans hNew.symm

/-- A change of a discovery, and what is told of it. -/
theorem Sound.modify {change : Flight → Flight} {launching : FlightId → Nat} {log : List Event}
    (h : F.Sound) (hFlight : F.cache.flights[i]? = some f) (hUpholds : f.Upholds (change f))
    (hLaunching : ∀ j, launching j =
      if i = j then (if (change f).isScheduled then 1 else 0) else F.launching j)
    {told : List Event} (hLog : log = told ++ F.log) (hPast : (change f).past = told ++ f.past) :
    Sound ⟨F.cache.modifyFlight i change, launching, log⟩ where
  coherent := h.coherent.modify fun g hGet => by
    obtain rfl : g = f := Option.some.inj (hGet.symm.trans hFlight)
    exact hUpholds
  launching := by
    intro j
    show launching j = _
    rw [hLaunching, Cache.getElem?_modifyFlight]
    by_cases hij : i = j
    · subst hij
      simp [hFlight]
    · simp [hij, h.launching j]
  chronicle := by
    subst hLog
    exact perm_past_modify change told hFlight hPast h.chronicle

theorem Sound.modify_untold {change : Flight → Flight} (h : F.Sound)
    (hFlight : F.cache.flights[i]? = some f) (hUpholds : f.Upholds (change f))
    (hScheduled : (change f).isScheduled = f.isScheduled) (hPast : (change f).past = f.past) :
    Sound { F with cache := F.cache.modifyFlight i change } := by
  refine h.modify hFlight hUpholds (fun j => ?_) (List.nil_append _).symm hPast
  split
  · rename_i hij
    subst hij
    rw [h.launching i, hFlight, hScheduled]
    rfl
  · rfl

theorem Sound.start {searchPaths : List Path} {name : String} (h : F.Sound)
    (hNone : F.cache.get? name = none) (hFree : F.cache.joinable? name = none) :
    Sound ⟨F.cache.start searchPaths name,
      fun i => F.launching i + if F.cache.flights.length = i then 1 else 0,
      .started name :: F.log⟩ where
  coherent := h.coherent.start hNone hFree
  launching := by
    intro i
    show F.launching i + (if F.cache.flights.length = i then 1 else 0) = _
    rw [h.launching i, Cache.getElem?_start]
    by_cases hi : F.cache.flights.length = i
    · subst hi
      simp [Cache.newFlight, Flight.isScheduled]
    · simp [hi]
  chronicle := by
    have hPast : ((F.cache.start searchPaths name).flights.flatMap Flight.past) =
        F.cache.flights.flatMap Flight.past ++ [.started name] := by
      simp [Cache.start, Cache.newFlight, Flight.past]
    rw [hPast]
    exact (h.chronicle.cons _).trans (List.perm_append_singleton _ _).symm

theorem Sound.land {returned : Returned} (h : F.Sound)
    (hFlight : F.cache.flights[i]? = some f)
    (hUnderway : f.stage = .flying ∨ ∃ landing, f.stage = .landing landing) :
    Sound ⟨F.cache.land i f.call.name returned, F.launching,
      State.resultEvent f.call.name (conclude f.call.name returned) :: F.log⟩ where
  coherent := by
    refine h.coherent.land ⟨hFlight, rfl⟩ ?_
    rcases hUnderway with hStage | ⟨_, hStage⟩ <;> simp [Flight.live, Flight.result?, hStage]
  launching := by
    intro j
    show F.launching j = _
    rw [h.launching j, Cache.getElem?_land]
    by_cases hij : i = j
    · subst hij
      rcases hUnderway with hStage | ⟨_, hStage⟩ <;>
        simp [hFlight, Flight.isScheduled_settledWith] <;> simp [Flight.isScheduled, hStage]
    · simp [hij]
  chronicle := by
    have hPast : (({ f with stage := .landed returned } : Flight).settledWith
        (.ofResult (conclude f.call.name returned))).past =
        [State.resultEvent f.call.name (conclude f.call.name returned)] ++ f.past := by
      rw [Flight.past_settledWith]
      rcases hUnderway with hStage | ⟨_, hStage⟩ <;> simp [Flight.past, hStage]
    show (_ :: F.log).Perm (List.flatMap _ (Cache.flights _))
    rw [Cache.flights_land]
    exact perm_past_modify _ [_] hFlight hPast h.chronicle

/-- A step of a sound fleet leads to a sound fleet. -/
theorem Sound.step (h : F.Sound) (hStep : Step env cancels F F') : F'.Sound := by
  cases hStep with
  | start hNone hFree => exact h.start hNone hFree
  | wait hWaiting =>
    rename_i i ws w
    rw [Cache.promise?, Option.map_eq_some_iff] at hWaiting
    obtain ⟨f, hFlight, hWaiting⟩ := hWaiting
    have hLive := Flight.live_of_waiting (h.coherent.consistent hFlight) hWaiting
    refine h.modify_untold hFlight ⟨rfl, rfl, ?_, ?_⟩ rfl rfl
    · intro hCancelled
      rw [Flight.cancelled_iff, hWaiting] at hCancelled
      exact absurd hCancelled (by simp)
    · intro _
      exact Flight.consistent_of_waiting hLive
  | cancel _ hSlot =>
    obtain ⟨f, hServes, _⟩ := h.coherent.slot hSlot
    rw [Cache.settle_eq]
    exact h.modify_untold hServes.1 ⟨Flight.call_settledWith _ _, Flight.result?_settledWith _ _,
      Flight.cancelled_settledWith f, Flight.consistent_settledWith_cancelled⟩
      (Flight.isScheduled_settledWith _ _) (Flight.past_settledWith _ _)
  | launch hFlight hJob =>
    rename_i i f
    have hScheduled := h.isScheduled_of_launching hFlight hJob
    have hStage := Flight.isScheduled_iff.mp hScheduled
    refine h.modify hFlight ⟨rfl, ?_, id, ?_⟩ (fun j => ?_)
      (List.singleton_append (l := F.log)).symm ?_
    · simp [Flight.result?, hStage]
    · simp [Flight.Consistent, Flight.result?, hStage]
    · have hLaunching := h.launching i
      simp only [hFlight, Option.any_some, hScheduled, if_true] at hLaunching
      split
      · rename_i hij
        subst hij
        simp [hLaunching, Flight.isScheduled]
      · rfl
    · simp [Flight.past, hStage]
  | comeBack hFlight hFlying =>
    refine h.modify_untold hFlight ⟨rfl, ?_, id, ?_⟩ ?_ ?_
    · simp [Flight.result?, hFlying]
    · simp [Flight.Consistent, Flight.result?, hFlying]
    · simp [Flight.isScheduled, hFlying]
    · simp [Flight.past, hFlying]
  | land hFlight hUnderway => exact h.land hFlight hUnderway
  | drop hNone hJob =>
    rename_i i
    have hLaunching := h.launching i
    rw [hNone] at hLaunching
    simp at hLaunching
    omega

theorem Sound.steps (h : F.Sound) (hSteps : Steps env cancels F F') : F'.Sound := by
  induction hSteps with
  | refl => exact h
  | tail _ hStep ih => exact ih.step hStep

-- ---------------------------------------------------------------------------
-- What stays as it is
-- ---------------------------------------------------------------------------

theorem isSome_get?_step (hStep : Step env cancels F F') {name : String}
    (hGet : (F.cache.get? name).isSome) : (F'.cache.get? name).isSome := by
  cases hStep with
  | start => exact hGet
  | wait => exact hGet
  | cancel =>
    show ((Cache.settle _ _ _).get? name).isSome
    rw [Cache.settle_eq]
    exact hGet
  | launch => exact hGet
  | comeBack => exact hGet
  | land => exact Cache.isSome_get?_land _ _ _ hGet
  | drop => exact hGet

/-- No discovery of a name is started while it is resolved or can be joined. -/
theorem count_started_step (hStep : Step env cancels F F') {name : String}
    (hBusy : F.cache.get? name ≠ none ∨ F.cache.joinable? name ≠ none) :
    F'.log.count (.started name) = F.log.count (.started name) := by
  cases hStep with
  | start hNone hFree =>
    rename_i other
    have hNe : Event.started other ≠ .started name := by
      rintro ⟨⟩
      rcases hBusy with hGet | hJoin
      · exact hGet hNone
      · exact hJoin hFree
    exact List.count_cons_of_ne hNe
  | wait => rfl
  | cancel => rfl
  | launch => exact List.count_cons_of_ne (by simp)
  | comeBack => rfl
  | land =>
    refine List.count_cons_of_ne ?_
    unfold State.resultEvent
    split <;> simp
  | drop => rfl

/-- Discoveries are never forgotten. -/
theorem serves_step (hStep : Step env cancels F F') {name : String}
    (h : F.cache.Serves name i f) : ∃ g, F'.cache.Serves name i g := by
  obtain ⟨hFlight, hName⟩ := h
  have hModify : ∀ (j : FlightId) (change : Flight → Flight), (∀ f, (change f).call = f.call) →
      ∃ g, (F.cache.modifyFlight j change).Serves name i g := by
    intro j change hCall
    refine ⟨if j = i then change f else f, ?_, ?_⟩
    · rw [Cache.getElem?_modifyFlight, hFlight, Option.map_some]
    · split
      · rw [hCall, hName]
      · exact hName
  cases hStep with
  | start => exact ⟨f, Cache.serves_start_iff.mpr (Or.inl ⟨hFlight, hName⟩)⟩
  | wait => exact hModify _ _ fun _ => rfl
  | cancel =>
    show ∃ g, (Cache.settle _ _ _).Serves name i g
    rw [Cache.settle_eq]
    exact hModify _ _ fun g => Flight.call_settledWith g _
  | @launch j _ => exact hModify j (fun g => { g with stage := .flying }) fun _ => rfl
  | @comeBack j _ landing =>
    exact hModify j (fun g => { g with stage := .landing landing }) fun _ => rfl
  | land hGet => exact ⟨_, Cache.serves_land ⟨hGet, rfl⟩ ⟨hFlight, hName⟩⟩
  | drop => exact ⟨f, hFlight, hName⟩

theorem serves_steps (hSteps : Steps env cancels F F') {name : String}
    (h : F.cache.Serves name i f) : ∃ g, F'.cache.Serves name i g := by
  induction hSteps with
  | refl => exact ⟨f, h⟩
  | tail _ hStep ih =>
    obtain ⟨g, hServes⟩ := ih
    exact serves_step hStep hServes

/-- A discovery that has ended does not change any more. -/
theorem Sound.ended_stays (h : F.Sound) (hStep : Step env cancels F F')
    (hFlight : F.cache.flights[i]? = some f) (hEnded : f.live = false) :
    F'.cache.flights[i]? = some f := by
  have hConsistent := h.coherent.consistent hFlight
  -- whatever is changed is another discovery
  have hOther : ∀ {j g} (change : Flight → Flight), F.cache.flights[j]? = some g → g.live = true →
      (F.cache.modifyFlight j change).flights[i]? = some f := by
    intro j g change hGet hLive
    have hNe : j ≠ i := by
      rintro rfl
      obtain rfl : g = f := Option.some.inj (hGet.symm.trans hFlight)
      simp [hLive] at hEnded
    rw [Cache.getElem?_modifyFlight, hFlight]
    simp [hNe]
  cases hStep with
  | start =>
    have hNe : F.cache.flights.length ≠ i := by
      rintro rfl
      simp at hFlight
    show (F.cache.start _ _).flights[i]? = some f
    rw [Cache.getElem?_start, if_neg hNe]
    exact hFlight
  | wait hWaiting =>
    rw [Cache.promise?, Option.map_eq_some_iff] at hWaiting
    obtain ⟨g, hGet, hWaiting⟩ := hWaiting
    exact hOther _ hGet (Flight.live_of_waiting (h.coherent.consistent hGet) hWaiting)
  | cancel =>
    show (Cache.settle _ _ _).flights[i]? = some f
    rw [Cache.settle_eq, Cache.getElem?_modifyFlight, hFlight, Option.map_some,
      Flight.settledWith_of_ended hConsistent hEnded]
    simp
  | launch hGet hJob =>
    exact hOther _ hGet (Flight.live_of_isScheduled (h.isScheduled_of_launching hGet hJob))
  | comeBack hGet hFlying =>
    exact hOther _ hGet (by simp [Flight.live, Flight.result?, hFlying])
  | land hGet hUnderway =>
    rename_i j g returned
    have hNe : j ≠ i := by
      rintro rfl
      obtain rfl : g = f := Option.some.inj (hGet.symm.trans hFlight)
      rcases hUnderway with hStage | ⟨_, hStage⟩ <;>
        simp [Flight.live, Flight.result?, hStage] at hEnded
    show (F.cache.land j g.call.name returned).flights[i]? = some f
    rw [Cache.getElem?_land, hFlight]
    simp [hNe]
  | drop => exact hFlight

/-- What stays as it is from a sound fleet on. -/
theorem Sound.stays (h : F.Sound) (hSteps : Steps env cancels F F') :
    (∀ {i : FlightId} {f : Flight}, F.cache.flights[i]? = some f → f.live = false →
      F'.cache.flights[i]? = some f) ∧
    ∀ {name}, (F.cache.get? name).isSome → (F'.cache.get? name).isSome ∧
      F'.log.count (.started name) = F.log.count (.started name) := by
  induction hSteps with
  | refl => exact ⟨fun hFlight _ => hFlight, fun hGet => ⟨hGet, rfl⟩⟩
  | tail hSteps hStep ih =>
    obtain ⟨hFlights, hGets⟩ := ih
    refine ⟨fun hFlight hEnded => ?_, fun hGet => ?_⟩
    · exact (h.steps hSteps).ended_stays hStep (hFlights hFlight hEnded) hEnded
    · obtain ⟨hGet', hCount⟩ := hGets hGet
      have hCount' := count_started_step hStep (Or.inl (Option.isSome_iff_ne_none.mp hGet'))
      exact ⟨isSome_get?_step hStep hGet', hCount'.trans hCount⟩

-- ---------------------------------------------------------------------------
-- Runs without cancelling
-- ---------------------------------------------------------------------------

theorem uncancelled_modify {c : Cache} (h : c.Uncancelled) (change : Flight → Flight)
    (hChange : ∀ f, f.cancelled = false → (change f).cancelled = false) (j : FlightId) :
    (c.modifyFlight j change).Uncancelled := by
  intro i g hGet
  rw [Cache.getElem?_modifyFlight, Option.map_eq_some_iff] at hGet
  obtain ⟨f, hFlight, rfl⟩ := hGet
  split
  · exact hChange f (h i f hFlight)
  · exact h i f hFlight

theorem uncancelled_step (h : F.cache.Uncancelled) (hStep : Step env False F F') :
    F'.cache.Uncancelled := by
  cases hStep with
  | start =>
    intro i f hGet
    rw [Cache.getElem?_start] at hGet
    split at hGet
    · obtain rfl := Option.some.inj hGet
      rfl
    · exact h i f hGet
  | wait => exact uncancelled_modify h _ (fun _ _ => rfl) _
  | cancel hCancels => exact hCancels.elim
  | launch => exact uncancelled_modify h (fun f => { f with stage := .flying }) (fun _ hNot => hNot) _
  | @comeBack _ _ landing =>
    exact uncancelled_modify h (fun f => { f with stage := .landing landing })
      (fun _ hNot => hNot) _
  | land =>
    intro i g hGet
    rw [Cache.getElem?_land, Option.map_eq_some_iff] at hGet
    obtain ⟨f, hFlight, rfl⟩ := hGet
    split
    · exact Flight.cancelled_settledWith_ofResult _ (h i f hFlight)
    · exact h i f hFlight
  | drop => exact h

theorem uncancelled_steps (h : F.cache.Uncancelled) (hSteps : Steps env False F F') :
    F'.cache.Uncancelled := by
  induction hSteps with
  | refl => exact h
  | tail _ hStep ih => exact uncancelled_step ih hStep

end Fleet

-- ---------------------------------------------------------------------------
-- Runs
-- ---------------------------------------------------------------------------

namespace State

variable {env : Setup} {cancels : Prop} {config : Config} {s : State}

theorem sound_seeded (config : Config) : (seeded config).fleet.Sound where
  coherent := Cache.coherent_ofSeeds _
  launching := by
    intro i
    simp [seeded, fleet, (Cache.ofSeeds_empty config.pantries).2]
  chronicle := by simp [seeded, fleet, (Cache.ofSeeds_empty config.pantries).2]

theorem uncancelled_seeded (config : Config) : (seeded config).cache.Uncancelled := by
  intro i f hGet
  simp [seeded, (Cache.ofSeeds_empty config.pantries).2] at hGet

theorem Moves.sound (h : Moves env cancels (seeded config) s) : s.fleet.Sound :=
  (sound_seeded config).steps h.fleet

theorem Moves.uncancelled (h : Moves env False (seeded config) s) : s.cache.Uncancelled :=
  Fleet.uncancelled_steps (uncancelled_seeded config) h.fleet

theorem Reachable.sound (h : Reachable env config s) : s.fleet.Sound := h.moves.sound

/-- A job that makes no call can leave the queue. -/
theorem sound_pop (h : s.fleet.Sound) {job : Job} {rest : List Job} (hQueue : s.queue = job :: rest)
    (hJob : ∀ i, job.launches i = false) : s.pop.fleet.Sound := by
  rw [fleet_pop hQueue hJob]
  exact h

end State

end Larder
