import Larder.Proofs.Importer.Roster

/-!
# Larder — calls that have come back

A discovery call that comes back from outside does not take effect at once: its end is put into the
queue. Nothing takes it out there but the job that lets it take effect. So when no job is left, a
discovery that has not ended is one whose call is still under way.

## Results

* `Move.pledged`: the end of a call that has come back is in the queue until it takes effect.
* `Moves.flying_of_drained`: when no job is left, a discovery is in flight only as long as its call
  is.
-/

namespace Larder

namespace State

variable {env : Setup} {cancels : Prop} {config : Config} {s s' : State}

/-- Whether the end of every call that has come back is in the queue. -/
def Pledged (s : State) : Prop :=
  ∀ (i : FlightId) (f : Flight) (landing : Landing), s.cache.flights[i]? = some f →
    f.stage = .landing landing → .land i ∈ s.queue

/-- No call comes back, and no end of a call leaves the queue. -/
theorem Pledged.frame (h : s.Pledged)
    (hFlights : ∀ (i : FlightId) (f' : Flight) (landing : Landing),
      s'.cache.flights[i]? = some f' → f'.stage = .landing landing →
        ∃ f : Flight, s.cache.flights[i]? = some f ∧ f.stage = .landing landing)
    (hQueue : ∀ i, .land i ∈ s.queue → .land i ∈ s'.queue) : s'.Pledged := by
  intro i f' landing hFlight hStage
  obtain ⟨f, hOld, hLanding⟩ := hFlights i f' landing hFlight hStage
  exact hQueue i (h i f landing hOld hLanding)

theorem Pledged.frame_eq (h : s.Pledged) (hFlights : s'.cache.flights = s.cache.flights)
    (hQueue : ∀ i, .land i ∈ s.queue → .land i ∈ s'.queue) : s'.Pledged :=
  h.frame (fun _ f' _ hFlight hStage => ⟨f', hFlights ▸ hFlight, hStage⟩) hQueue

/-- A discovery is changed, and has not come back then. -/
theorem Pledged.modify (h : s.Pledged) (i : FlightId) (change : Flight → Flight)
    (hFlights : s'.cache.flights = (s.cache.modifyFlight i change).flights)
    (hStage : ∀ f landing, (change f).stage = .landing landing → f.stage = .landing landing)
    (hQueue : ∀ j, .land j ∈ s.queue → .land j ∈ s'.queue) : s'.Pledged := by
  refine h.frame (fun j f' landing hFlight hLanding => ?_) hQueue
  rw [hFlights, Cache.getElem?_modifyFlight, Option.map_eq_some_iff] at hFlight
  obtain ⟨f, hGet, rfl⟩ := hFlight
  refine ⟨f, hGet, ?_⟩
  split at hLanding
  · exact hStage f landing hLanding
  · exact hLanding

/-- Another job leaves the queue. -/
theorem Pledged.pop (h : s.Pledged) {job : Job} {rest : List Job} (hQueue : s.queue = job :: rest)
    (hOther : ∀ (i : FlightId) (f : Flight) (landing : Landing), job = .land i →
      s.cache.flights[i]? = some f → f.stage ≠ .landing landing) : s.pop.Pledged := by
  intro i f landing hFlight hLanding
  have hJob := h i f landing hFlight hLanding
  rw [hQueue] at hJob
  rcases List.mem_cons.mp hJob with hHead | hTail
  · exact absurd hLanding (hOther i f landing hHead.symm hFlight)
  · rw [queue_pop, hQueue]
    exact hTail

theorem Pledged.pop_of_ne (h : s.Pledged) {job : Job} {rest : List Job}
    (hQueue : s.queue = job :: rest) (hOther : ∀ i, job ≠ .land i) : s.pop.Pledged :=
  h.pop hQueue fun i _ _ hJob => absurd hJob (hOther i)

theorem Pledged.aside (h : s.Pledged) (hAside : Aside s s') : s'.Pledged := by
  obtain ⟨hCache, _, ⟨ts, hQueue⟩, _⟩ := hAside
  exact h.frame_eq (by rw [hCache]) fun i hJob => hQueue ▸ List.mem_append_left _ hJob

theorem Pledged.request (h : s.Pledged) (name : String) : (s.request env name).1.Pledged := by
  refine h.frame (fun i f' landing hFlight hLanding => ?_) fun i => queue_request env s name _
  rcases request_cases env s name with ⟨p, _, hAsk⟩ | ⟨j, _, _, hAsk⟩ | ⟨_, _, hAsk⟩ <;>
    rw [hAsk] at hFlight
  · exact ⟨f', hFlight, hLanding⟩
  · exact ⟨f', hFlight, hLanding⟩
  · -- a discovery that is started has not come back
    have hSplit : (s.cache.flights ++ [s.cache.newFlight env.searchPaths name])[i]? = some f' :=
      hFlight
    rw [List.getElem?_append] at hSplit
    split at hSplit
    · exact ⟨f', hSplit, hLanding⟩
    · obtain rfl := List.mem_singleton.mp (List.mem_of_getElem? hSplit)
      exact absurd hLanding (by simp [Cache.newFlight])

theorem Pledged.attach (h : s.Pledged) (handle : Handle) (w : Waiter) :
    (s.attach handle w).Pledged := by
  have hQueue : ∀ i, .land i ∈ s.queue → .land i ∈ (s.attach handle w).queue :=
    fun i => queue_attach s handle w _
  rcases attach_cases s handle w with ⟨_, hAttach⟩ | ⟨i, ws, _, _, hAttach⟩ | ⟨_, _, _, hAttach⟩ <;>
    rw [hAttach] at hQueue ⊢
  · exact h.frame_eq rfl hQueue
  · exact h.modify i (fun f => { f with promise := .waiting (ws ++ [w]) }) rfl (fun _ _ => id) hQueue
  · exact h

theorem Pledged.defer (h : s.Pledged) (session : SessionId) (specifier : String) (citation : Citation)
    (receiver : Receiver) : (s.defer env session specifier citation receiver).Pledged := by
  have hNoted : (s.note (.deferred receiver.ticket specifier citation.pantryName)).Pledged :=
    h.frame_eq rfl fun _ => id
  exact (hNoted.request _).attach _ _

theorem Pledged.complete (h : s.Pledged) (session : SessionId) (specifier : String)
    (citation : Citation) (settlement : Settlement) :
    (s.complete env session specifier citation settlement).1.Pledged := by
  rcases complete_cases env s session specifier citation settlement with
    ⟨_, _, _, _, _, hComplete⟩ | ⟨_, hComplete⟩ | ⟨_, _, hComplete⟩ <;> rw [hComplete]
  · exact h.frame_eq rfl fun _ => id
  · exact h
  · exact h.frame_eq rfl fun _ => id

theorem Pledged.settle (h : s.Pledged) (i : FlightId) (x : Settlement) : (s.settle i x).Pledged := by
  refine h.modify i (·.settledWith x) ?_ (fun f landing hLanding => ?_) fun j hJob =>
    List.mem_append_left _ hJob
  · rw [State.settle, cache_enqueue, cache_withCache, Cache.settle_eq]
  · rwa [Flight.stage_settledWith] at hLanding

theorem Pledged.landWith {i : FlightId} {name : String} {landing : Landing}
    (h : ∀ (j : FlightId) (f : Flight) (other : Landing), s.cache.flights[j]? = some f →
      f.stage = .landing other → j ≠ i → .land j ∈ s.queue) : (s.landWith i name landing).Pledged := by
  have hLanded : (s.withCache ((s.cache.setStage i (.landed landing.returned)).conclude name i
      (conclude name landing.returned))).Pledged := by
    intro j f' other hFlight hLanding
    rw [cache_withCache, flights_conclude, Cache.setStage, Cache.getElem?_modifyFlight,
      Option.map_eq_some_iff] at hFlight
    obtain ⟨f, hGet, rfl⟩ := hFlight
    split at hLanding
    · exact absurd hLanding (by simp)
    · rename_i hNe
      exact h j f other hGet hLanding (Ne.symm hNe)
  have hNoted : (State.note (State.withCache (s.noteAll (landing.notes.map Event.told))
      ((s.cache.setStage i (.landed landing.returned)).conclude name i
        (conclude name landing.returned)))
      (resultEvent name (conclude name landing.returned))).Pledged :=
    hLanded.frame_eq rfl fun _ => id
  exact hNoted.settle i _

/-- The end of a call that has come back is in the queue until it takes effect. -/
theorem Move.pledged (hMove : Move env cancels s s') (h : s.Pledged) : s'.Pledged := by
  cases hMove with
  | remark => exact h.frame_eq rfl fun _ => id
  | number => exact h.frame_eq rfl fun _ => id
  | give => exact h.frame_eq rfl fun _ => id
  | request => exact h.request _
  | attach => exact h.attach _ _
  | defer => exact (h.defer _ _ _ _).frame_eq rfl fun _ => id
  | cancel => exact h.settle _ _
  | @launch i rest f hQueue =>
    refine (h.pop_of_ne hQueue (by simp)).modify i (fun f => { f with stage := .flying }) rfl
      (fun f landing hLanding => ?_) fun _ => id
    exact absurd hLanding (by simp)
  | landNow => exact Pledged.landWith fun j f other hGet hLanding _ => h j f other hGet hLanding
  | @comeBack i f landing hFlight hFlying =>
    intro j g other hGet hLanding
    rw [queue_enqueue, queue_withCache, List.mem_append, List.mem_singleton]
    rw [cache_enqueue, cache_withCache, Cache.setStage, Cache.getElem?_modifyFlight,
      Option.map_eq_some_iff] at hGet
    obtain ⟨g, hGet, rfl⟩ := hGet
    by_cases hij : i = j
    · exact Or.inr (by rw [hij])
    · rw [if_neg hij] at hLanding
      exact Or.inl (h j g other hGet hLanding)
  | @land i rest f landing hQueue =>
    refine Pledged.landWith fun j g other hGet hLanding hNe => ?_
    have hJob := h j g other hGet hLanding
    rw [hQueue] at hJob
    rw [queue_pop, hQueue]
    exact (List.mem_cons.mp hJob).resolve_left fun hEq => hNe (Job.land.inj hEq)
  | deliver hQueue =>
    exact ((h.pop_of_ne hQueue (by simp)).complete _ _ _ _).frame_eq rfl fun _ => id
  | hand hQueue =>
    exact ((h.pop_of_ne hQueue (by simp)).complete _ _ _ _).aside (aside_handOver _ _)
  | tell hQueue hOther => exact (h.pop_of_ne hQueue (by simp)).aside (aside_notify hOther _)
  | startTask => exact h.aside (aside_startTask _)
  | cancelTask => exact h.aside (aside_cancelTask _)
  | deferTask hQueue =>
    exact ((h.pop_of_ne hQueue (by simp)).defer _ _ _ _).aside (aside_setTask _ _)
  | park hQueue => exact (h.pop_of_ne hQueue (by simp)).aside (aside_setTask _ _)
  | finish hQueue => exact (h.pop_of_ne hQueue (by simp)).aside (aside_finish _ _ _)
  | @skip job rest hQueue hIdle =>
    refine h.pop hQueue fun i f landing hJob hFlight => ?_
    subst hJob
    exact hIdle f landing hFlight

theorem Moves.pledged (h : Moves env cancels (seeded config) s) : s.Pledged := by
  induction h with
  | refl =>
    intro i f landing hFlight
    have hNone : (seeded config).cache.flights = [] := (Cache.ofSeeds_empty config.pantries).2
    simp [hNone] at hFlight
  | tail _ hMove ih => exact hMove.pledged ih

/-- When no job is left, a discovery is in flight only if its call has not come back. -/
theorem Moves.flying_of_drained (h : Moves env cancels (seeded config) s) (hDrained : s.queue = [])
    {f : Flight} (hf : f ∈ s.cache.flights) (hLive : f.result? = none) : f.stage = .flying := by
  obtain ⟨i, hFlight⟩ := List.mem_iff_getElem?.mp hf
  cases hStage : f.stage with
  | flying => rfl
  | scheduled =>
    -- its call would be in the queue
    have hLaunching := h.sound.launching i
    rw [show s.fleet.cache.flights[i]? = some f from hFlight] at hLaunching
    have hNoJob : s.fleet.launching i = 0 := by simp [State.fleet, hDrained]
    simp [Flight.isScheduled, hStage, hNoJob] at hLaunching
  | landing landing => simpa [hDrained] using h.pledged i f landing hFlight hStage
  | landed returned => simp [Flight.result?, hStage] at hLive

end State

end Larder
