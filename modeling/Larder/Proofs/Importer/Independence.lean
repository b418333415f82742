import Larder.Proofs.Importer.OnceOnly
import Larder.Proofs.Importer.Parts

/-!
# Larder — pantry names are independent

What happens to one name neither helps nor hinders another. A *story* of a cache is all that happens
to it, in order, whoever brings it about. Leave out what happens to some names, and the rest can
still happen and is, moment by moment, the same for every other name: what is at hand, what is
pending, which calls are made, and what those who wait are told. And it does not matter in which
order things happen to different names. Only the order in which the pantries were resolved depends
on it, and nobody notices that, since an import looks for the pantries that there are.

The runs of an importer are stories of its cache, with the calls that its journal tells of.

## Results

* `Story.only`: the rest of a story when some names are left out.
* `Story.rearranged`: a story with another order between the names.
* `Moves.tells`: what an importer does is a story of its cache.
* `resolve_relative_congr`: what a relative import depends on.
* `names_independent`: pantry names are independent.
-/

namespace Larder

-- ---------------------------------------------------------------------------
-- Vocabulary
-- ---------------------------------------------------------------------------

/-- Something that happened, what was seen of it, and the cache afterwards. -/
structure Moment where
  incident : Incident
  effect : Effect
  /-- The cache afterwards. -/
  cache : Cache

/-- What a moment is to a name. -/
structure Sight where
  incident : Incident
  effect : Effect
  /-- The pantry at hand. -/
  pantry : Option Pantry
  /-- Whether it is pending. -/
  pending : Bool
  part : Part

namespace Moment

/-- What a moment is to a name. -/
def seenFor (name : String) (e : Moment) : Sight where
  incident := e.incident
  effect := e.effect
  pantry := e.cache.get? name
  pending := e.cache.isPending name
  part := e.cache.part name

/-- The call that was made. -/
def call? (e : Moment) : Option Call :=
  match e.effect with
  | .called call => some call
  | _ => none

/-- The name that was asked for. -/
def asked? (e : Moment) : Option String :=
  match e.incident.deed with
  | .ask => some e.incident.name
  | _ => none

theorem seenFor_congr {x : Incident} {e : Effect} {c d : Cache} {name : String}
    (h : d.part name = c.part name) :
    seenFor name ⟨x, e, d⟩ = seenFor name ⟨x, e, c⟩ := by
  have hPantry : d.get? name = c.get? name := congrArg Part.pantry h
  have hPending : ∀ c : Cache, c.isPending name = (c.part name).slot.isSome := fun c =>
    Option.isSome_map.symm
  simp only [seenFor, hPantry, hPending, h]

end Moment

/-- All that happens to a cache, in order, from one state of it to another. -/
inductive Cache.Story (searchPaths : List Path) : Cache → List Moment → Cache → Prop where
  | still {c} : Story searchPaths c [] c
  | next {c c' c'' x e moments} (h : c.happen? searchPaths x = some (e, c'))
      (hRest : Story searchPaths c' moments c'') :
      Story searchPaths c (⟨x, e, c'⟩ :: moments) c''

/-- The call that an event tells of. -/
def Event.call? : Event → Option Call
  | .called call => some call
  | _ => none

-- ---------------------------------------------------------------------------
-- Stories
-- ---------------------------------------------------------------------------

namespace Cache

variable {searchPaths : List Path} {c c' c₁ c₂ d : Cache} {x : Incident} {e : Effect}
  {moments moments' : List Moment} {xs : List Incident} {name : String}

/-- Caches that agree about a name let the same things happen to it, and agree again. -/
theorem happen?_congr (hc : c.Slotted) (hd : d.Slotted) (hPart : d.part x.name = c.part x.name)
    (h : c.happen? searchPaths x = some (e, c')) :
    ∃ d', d.happen? searchPaths x = some (e, d') ∧ d'.part x.name = c'.part x.name := by
  have hBoth : (d.happen? searchPaths x).map (Prod.map id (·.part x.name)) =
      (c.happen? searchPaths x).map (Prod.map id (·.part x.name)) :=
    (part_happen? hd x.name x.deed).trans
      ((congrArg (Part.happen? searchPaths x.name · x.deed) hPart).trans
        (part_happen? hc x.name x.deed).symm)
  rw [h] at hBoth
  obtain ⟨⟨e', d'⟩, hHappen, hEq⟩ := Option.map_eq_some_iff.mp hBoth
  obtain ⟨rfl, hSame⟩ := Prod.mk.inj hEq
  exact ⟨d', hHappen, hSame⟩

theorem Story.slotted (h : Story searchPaths c moments c₁) (hc : c.Slotted) : c₁.Slotted := by
  induction h with
  | still => exact hc
  | next hHappen _ ih => exact ih (hc.happen hHappen)

theorem Story.append (h : Story searchPaths c moments c₁) (h' : Story searchPaths c₁ moments' c₂) :
    Story searchPaths c (moments ++ moments') c₂ := by
  induction h with
  | still => exact h'
  | next hHappen _ ih => exact .next hHappen (ih h')

/-- What happens decides everything. -/
theorem Story.unique (h : Story searchPaths c moments c₁) (h' : Story searchPaths c moments' c₂)
    (hSame : moments'.map Moment.incident = moments.map Moment.incident) :
    moments' = moments ∧ c₂ = c₁ := by
  induction h generalizing moments' with
  | still =>
    obtain rfl := List.map_eq_nil_iff.mp hSame
    cases h'
    exact ⟨rfl, rfl⟩
  | next hHappen _ ih =>
    cases h' with
    | still => exact absurd hSame (by simp)
    | next hHappen' hRest' =>
      obtain ⟨rfl, hSame'⟩ := List.cons.inj hSame
      obtain ⟨rfl, rfl⟩ := Prod.mk.inj (Option.some.inj (hHappen'.symm.trans hHappen))
      obtain ⟨rfl, rfl⟩ := ih hRest' hSame'
      exact ⟨rfl, rfl⟩

/-- **What happens to the names that are kept can happen without the rest**, in any cache that
agrees about them, and it is the same for them at every moment. -/
theorem Story.only (keep : String → Bool) (h : Story searchPaths c moments c₁) (hc : c.Slotted)
    (hd : d.Slotted) (hSame : ∀ n, keep n = true → d.part n = c.part n) :
    ∃ moments' d₁, Story searchPaths d moments' d₁ ∧
      moments'.map Moment.incident =
        (moments.map Moment.incident).filter (fun x => keep x.name) ∧
      ∀ n, keep n = true → d₁.part n = c₁.part n ∧
        moments'.map (Moment.seenFor n) =
          (moments.filter fun e => keep e.incident.name).map (Moment.seenFor n) := by
  induction h generalizing d with
  | still => exact ⟨[], d, .still, rfl, fun n hn => ⟨hSame n hn, rfl⟩⟩
  | @next c c' c'' x e moments hHappen _ ih =>
    have hc' : c'.Slotted := hc.happen hHappen
    by_cases hKeep : keep x.name = true
    · obtain ⟨d', hHappen', hPart⟩ := happen?_congr hc hd (hSame _ hKeep) hHappen
      have hSame' : ∀ n, keep n = true → d'.part n = c'.part n := by
        intro n hn
        by_cases hName : n = x.name
        · rw [hName, hPart]
        · rw [part_of_ne hd hHappen' hName, part_of_ne hc hHappen hName, hSame n hn]
      obtain ⟨moments', d₁, hStory, hIncidents, hSeen⟩ := ih hc' (hd.happen hHappen') hSame'
      refine ⟨⟨x, e, d'⟩ :: moments', d₁, .next hHappen' hStory, ?_, fun n hn => ?_⟩
      · simp only [List.map_cons, List.filter_cons, hKeep, if_true, hIncidents]
      · obtain ⟨hEnd, hSights⟩ := hSeen n hn
        refine ⟨hEnd, ?_⟩
        simp only [List.filter_cons, hKeep, if_true, List.map_cons, hSights,
          Moment.seenFor_congr (hSame' n hn)]
    · -- what is left out concerns none of the names that are kept
      have hSame' : ∀ n, keep n = true → d.part n = c'.part n := by
        intro n hn
        have hName : n ≠ x.name := fun hEq => hKeep (hEq ▸ hn)
        rw [part_of_ne hc hHappen hName, hSame n hn]
      obtain ⟨moments', d₁, hStory, hIncidents, hSeen⟩ := ih hc' hd hSame'
      refine ⟨moments', d₁, hStory, ?_, fun n hn => ?_⟩
      · simp only [List.map_cons, List.filter_cons, hKeep, hIncidents]
        rfl
      · simp only [List.filter_cons, hKeep]
        exact hSeen n hn

/-- Things can happen in some order if those of each name can happen by themselves. -/
theorem exists_story_of_parts (hc : c.Slotted)
    (h : ∀ n, ∃ d moments d₁, d.Slotted ∧ d.part n = c.part n ∧
      Story searchPaths d moments d₁ ∧
      moments.map Moment.incident = xs.filter fun x => x.name = n) :
    ∃ moments c₁, Story searchPaths c moments c₁ ∧ moments.map Moment.incident = xs := by
  induction xs generalizing c with
  | nil => exact ⟨[], c, .still, rfl⟩
  | cons x xs ih =>
    obtain ⟨d, moments, d₁, hd, hPart, hStory, hIncidents⟩ := h x.name
    rw [List.filter_cons_of_pos (by simp)] at hIncidents
    cases hStory with
    | still => exact absurd hIncidents (by simp)
    | @next _ d' _ y e moments hHappen hRest =>
      obtain ⟨rfl, hIncidents⟩ := List.cons.inj hIncidents
      obtain ⟨c', hHappen', hPart'⟩ := happen?_congr hd hc hPart.symm hHappen
      obtain ⟨moments', c₁, hStory, hAll⟩ := ih (hc.happen hHappen') fun n => by
        by_cases hName : n = y.name
        · subst hName
          exact ⟨d', moments, d₁, hd.happen hHappen, hPart'.symm, hRest, hIncidents⟩
        · obtain ⟨b, others, b₁, hb, hPartOther, hOther, hOthers⟩ := h n
          rw [List.filter_cons_of_neg (by simpa using Ne.symm hName)] at hOthers
          refine ⟨b, others, b₁, hb, ?_, hOther, hOthers⟩
          rw [part_of_ne hc hHappen' hName, hPartOther]
      exact ⟨_, c₁, .next hHappen' hStory, congrArg (y :: ·) hAll⟩

/-- **The order between different names is of no account**: if each name has the same things happen
to it in the same order, all of it can happen, and it is the same for each name. -/
theorem Story.rearranged (h : Story searchPaths c moments c₁) (hc : c.Slotted)
    (hSame : ∀ n, xs.filter (fun x => x.name = n) =
      (moments.map Moment.incident).filter fun x => x.name = n) :
    ∃ moments' c₂, Story searchPaths c moments' c₂ ∧ moments'.map Moment.incident = xs ∧
      ∀ n, c₂.part n = c₁.part n ∧
        (moments'.filter fun e => e.incident.name = n).map (Moment.seenFor n) =
          (moments.filter fun e => e.incident.name = n).map (Moment.seenFor n) := by
  have hAlone : ∀ n, ∃ alone d₁, Story searchPaths c alone d₁ ∧
      alone.map Moment.incident = (moments.map Moment.incident).filter (fun x => x.name = n) ∧
      d₁.part n = c₁.part n ∧ alone.map (Moment.seenFor n) =
        (moments.filter fun e => e.incident.name = n).map (Moment.seenFor n) := by
    intro n
    obtain ⟨alone, d₁, hStory, hIncidents, hSeen⟩ :=
      h.only (fun m => m = n) hc hc fun _ _ => rfl
    exact ⟨alone, d₁, hStory, hIncidents, hSeen n (by simp)⟩
  obtain ⟨moments', c₂, hStory', hIncidents'⟩ : ∃ moments' c₂,
      Story searchPaths c moments' c₂ ∧ moments'.map Moment.incident = xs := by
    refine exists_story_of_parts hc fun n => ?_
    obtain ⟨alone, d₁, hStory, hIncidents, _⟩ := hAlone n
    exact ⟨c, alone, d₁, hc, rfl, hStory, hIncidents.trans (hSame n).symm⟩
  refine ⟨moments', c₂, hStory', hIncidents', fun n => ?_⟩
  -- by itself, each name has the same story in both
  obtain ⟨alone, d₁, hStory, hIncidents, hEnd, hSights⟩ := hAlone n
  obtain ⟨alone', d₂, hStory'', hIncidents'', hSeen⟩ :=
    hStory'.only (fun m => m = n) hc hc fun _ _ => rfl
  obtain ⟨hEnd', hSights'⟩ := hSeen n (by simp)
  obtain ⟨rfl, rfl⟩ := hStory.unique hStory''
    (by rw [hIncidents'', hIncidents', hIncidents]; exact hSame n)
  exact ⟨hEnd'.symm.trans hEnd, hSights'.symm.trans hSights⟩

/-- Places are forgotten name by name. -/
theorem Story.locations (h : Story searchPaths c moments c₁) : ∃ keep : String → Bool,
    c₁.locations.entries = c.locations.entries.filter fun entry => keep entry.1 := by
  induction h with
  | still => exact ⟨fun _ => true, (List.filter_eq_self.mpr fun _ _ => rfl).symm⟩
  | @next c c' c'' x e moments hHappen _ ih =>
    obtain ⟨keep, hKeep⟩ := ih
    have hStays : c'.locations = c.locations ∨ c'.locations = c.locations.erase x.name := by
      rcases happen?_cases hHappen with rfl | rfl | ⟨k, f, change, _, _, rfl⟩ |
        ⟨k, f, returned, _, rfl⟩
      · exact Or.inl rfl
      · exact Or.inl rfl
      · exact Or.inl rfl
      · rw [Fleet.locations_land]
        cases Larder.conclude x.name returned with
        | ok pantry => exact Or.inr rfl
        | error fault => exact Or.inl rfl
    rcases hStays with hSame | hErased
    · exact ⟨keep, by rw [hKeep, hSame]⟩
    · refine ⟨fun n => keep n && n ≠ x.name, ?_⟩
      rw [hKeep, hErased, Registry.erase, List.filter_filter]

/-- Two stories after which the same places are known leave them in the same order. -/
theorem Story.locations_eq (h : Story searchPaths c moments c₁)
    (h' : Story searchPaths c moments' c₂)
    (hSame : ∀ n, c₂.locations.get? n = c₁.locations.get? n) :
    c₂.locations.entries = c₁.locations.entries := by
  obtain ⟨keep, hKeep⟩ := h.locations
  obtain ⟨keep', hKeep'⟩ := h'.locations
  have hMem : ∀ entry, entry ∈ c₂.locations.entries ↔ entry ∈ c₁.locations.entries := by
    intro entry
    rw [← Registry.get?_eq_some_iff, ← Registry.get?_eq_some_iff, hSame]
  rw [hKeep, hKeep'] at hMem ⊢
  refine List.filter_congr fun entry hEntry => ?_
  have hEither := hMem entry
  simp only [List.mem_filter, hEntry, true_and] at hEither
  exact Bool.eq_iff_iff.mpr hEither

end Cache

-- ---------------------------------------------------------------------------
-- What an importer does
-- ---------------------------------------------------------------------------

namespace Fleet

/-- The calls that were made, in order. -/
def calls (F : Fleet) : List Call := F.log.reverse.filterMap Event.call?

/-- Whether a story leads from one fleet to another, with the calls that are told of. -/
def Tells (searchPaths : List Path) (F : Fleet) (moments : List Moment) (F' : Fleet) : Prop :=
  F.cache.Story searchPaths moments F'.cache ∧ F'.calls = F.calls ++ moments.filterMap Moment.call?

variable {searchPaths : List Path} {F F' F'' : Fleet} {moments moments' : List Moment}

theorem Tells.refl (F : Fleet) : Tells searchPaths F [] F :=
  ⟨.still, (List.append_nil _).symm⟩

theorem Tells.trans (h : Tells searchPaths F moments F') (h' : Tells searchPaths F' moments' F'') :
    Tells searchPaths F (moments ++ moments') F'' :=
  ⟨h.1.append h'.1, by rw [h'.2, h.2, List.filterMap_append, List.append_assoc]⟩

end Fleet

namespace Cache

variable {searchPaths : List Path} {c : Cache} {name : String} {i : FlightId} {f : Flight}

/-- Someone waits for a discovery, or is told at once. -/
theorem happen?_wait (searchPaths : List Path) (h : c.Serves name i f) (w : Waiter) :
    c.happen? searchPaths ⟨name, .wait (c.ordinal name i) w⟩ =
      match f.promise with
      | .waiting ws => some (.unseen, c.setPromise i (.waiting (ws ++ [w])))
      | .settled settlement => some (.told settlement [w], c) := by
  simp only [happen?, numbered_ordinal h, promise?, h.1, Option.map_some]
  cases f.promise <;> rfl

theorem happen?_cancel (h : c.Serves name i f) :
    c.happen? searchPaths ⟨name, .cancel (c.ordinal name i)⟩ =
      some (.told .cancelled (c.waiters i), c.settle i .cancelled) := by
  simp only [happen?, numbered_ordinal h, promise?, h.1, Option.map_some]

theorem happen?_call (h : c.Serves name i f) (hStage : f.stage = .scheduled) :
    c.happen? searchPaths ⟨name, .call (c.ordinal name i)⟩ =
      some (.called f.call, c.setStage i .flying) := by
  obtain ⟨call, stage, promise⟩ := f
  obtain rfl : stage = .scheduled := hStage
  simp only [happen?, numbered_ordinal h, h.1]

theorem happen?_comeBack (h : c.Serves name i f) (hStage : f.stage = .flying) (landing : Landing) :
    c.happen? searchPaths ⟨name, .comeBack (c.ordinal name i) landing⟩ =
      some (.unseen, c.setStage i (.landing landing)) := by
  obtain ⟨call, stage, promise⟩ := f
  obtain rfl : stage = .flying := hStage
  simp only [happen?, numbered_ordinal h, h.1]

theorem happen?_land (h : c.Serves name i f) {returned : Returned}
    (hLands : f.canLand returned = true) :
    c.happen? searchPaths ⟨name, .land (c.ordinal name i) returned⟩ =
      some (.told (.ofResult (Larder.conclude name returned)) (c.waiters i),
        c.land i name returned) := by
  simp only [happen?, numbered_ordinal h, h.1, hLands, if_true]

end Cache

namespace State

variable {env : Setup} {cancels : Prop} {config : Config} {s s' : State} {name : String}
  {handle : Handle} {w : Waiter}

theorem cache_request (env : Setup) (s : State) (name : String) :
    (s.request env name).1.cache = (s.cache.request env.searchPaths name).1 := by
  unfold request
  generalize s.cache.request env.searchPaths name = r
  obtain ⟨c, asked⟩ := r
  cases asked <;> rfl

/-- An event that tells of no call adds none. -/
theorem calls_told {F F' : Fleet} {e : Event} (hLog : F'.log = e :: F.log)
    (hNone : e.call? = none) : F'.calls = F.calls := by
  rw [Fleet.calls, Fleet.calls, hLog, List.reverse_cons, List.filterMap_append,
    List.filterMap_cons_none hNone, List.filterMap_nil, List.append_nil]

theorem calls_request (env : Setup) (s : State) (name : String) :
    (s.request env name).1.fleet.calls = s.fleet.calls := by
  rcases request_cases env s name with ⟨_, _, h⟩ | ⟨i, _, _, h⟩ | ⟨_, _, h⟩ <;> rw [h]
  · rw [fleet_note rfl]
  · have hLog : (s.journal.cons (.started name)).filter Event.isDiscovery =
        .started name :: s.journal.filter Event.isDiscovery := List.filter_cons_of_pos rfl
    exact calls_told hLog rfl

/-- Asking for a pantry is one incident. -/
theorem tells_request (env : Setup) (s : State) (name : String) :
    ∃ moments, s.fleet.Tells env.searchPaths moments (s.request env name).1.fleet ∧
      moments.map Moment.incident = [⟨name, .ask⟩] := by
  have hStory : s.cache.Story env.searchPaths _ (s.cache.request env.searchPaths name).1 :=
    .next (x := ⟨name, .ask⟩) rfl .still
  rw [← cache_request] at hStory
  refine ⟨_, ⟨hStory, ?_⟩, rfl⟩
  exact (calls_request env s name).trans (List.append_nil _).symm

/-- Waiting for what was asked for is an incident, unless the pantry is at hand. -/
theorem tells_attach (env : Setup) (hSlotted : s.cache.Slotted)
    (hOffer : s.cache.Offers name handle) (w : Waiter) :
    ∃ moments, s.fleet.Tells env.searchPaths moments (s.attach handle w).fleet ∧
      ∀ e ∈ moments, ∃ k, e.incident = ⟨name, .wait k w⟩ := by
  cases handle with
  | ready pantry =>
    refine ⟨[], ?_, by simp⟩
    show s.fleet.Tells _ _ (s.enqueue _).fleet
    rw [fleet_enqueue fun _ => rfl]
    exact .refl _
  | shared i =>
    obtain ⟨f, hServes⟩ := hSlotted hOffer
    have hPromise : s.cache.promise? i = some f.promise := by
      rw [Cache.promise?, hServes.1, Option.map_some]
    have hHappen := Cache.happen?_wait env.searchPaths hServes w
    unfold attach
    simp only [hPromise]
    cases hState : f.promise with
    | waiting ws =>
      rw [hState] at hHappen
      exact ⟨_, ⟨.next hHappen .still, (List.append_nil _).symm⟩, by simp⟩
    | settled settlement =>
      rw [hState] at hHappen
      simp only
      rw [fleet_enqueue fun _ => rfl]
      exact ⟨_, ⟨.next hHappen .still, (List.append_nil _).symm⟩, by simp⟩

/-- Asking and waiting happen to the name that is asked for. -/
theorem tells_request_attach (env : Setup) (hSlotted : s.cache.Slotted) (name : String)
    (w : Waiter) :
    ∃ moments, s.fleet.Tells env.searchPaths moments
        ((s.request env name).1.attach (s.request env name).2 w).fleet ∧
      moments.filterMap Moment.asked? = [name] ∧ ∀ e ∈ moments, e.incident.name = name := by
  obtain ⟨asking, hAsking, hAsked⟩ := tells_request env s name
  obtain ⟨waiting, hWaiting, hWaited⟩ := tells_attach env (hAsking.1.slotted hSlotted)
    (offers_request env s name) w
  obtain ⟨e, rfl, hIncident⟩ := List.map_eq_singleton_iff.mp hAsked
  refine ⟨[e] ++ waiting, hAsking.trans hWaiting, ?_, ?_⟩
  · have hNone : waiting.filterMap Moment.asked? = [] := by
      refine List.filterMap_eq_nil_iff.mpr fun e he => ?_
      obtain ⟨k, hWait⟩ := hWaited e he
      rw [Moment.asked?, hWait]
    rw [List.filterMap_append, hNone, List.append_nil, List.filterMap_cons, Moment.asked?,
      hIncident]
    rfl
  · intro e' he'
    rcases List.mem_append.mp he' with hMem | hMem
    · rw [List.mem_singleton.mp hMem, hIncident]
    · obtain ⟨k, hWait⟩ := hWaited e' hMem
      rw [hWait]

/-- Whether a story asks for these names in this order, and concerns no others. -/
def AsksEach (names : List String) (moments : List Moment) : Prop :=
  moments.filterMap Moment.asked? = names ∧ ∀ e ∈ moments, e.incident.name ∈ names

theorem AsksEach.cons {names : List String} {moments moments' : List Moment}
    (h : moments.filterMap Moment.asked? = [name] ∧ ∀ e ∈ moments, e.incident.name = name)
    (h' : AsksEach names moments') : AsksEach (name :: names) (moments ++ moments') := by
  refine ⟨by rw [List.filterMap_append, h.1, h'.1, List.singleton_append], fun e he => ?_⟩
  rcases List.mem_append.mp he with hMem | hMem
  · exact List.mem_cons.mpr (Or.inl (h.2 e hMem))
  · exact List.mem_cons_of_mem _ (h'.2 e hMem)

/-- A prefetch asks for its names one by one. -/
theorem tells_prefetchAll (env : Setup) (names : List String) (hSlotted : s.cache.Slotted) :
    ∃ moments, s.fleet.Tells env.searchPaths moments (prefetchAll env names s).fleet ∧
      AsksEach names moments := by
  induction names generalizing s with
  | nil => exact ⟨[], .refl _, rfl, by simp⟩
  | cons name names ih =>
    obtain ⟨moments, hFirst, hEach⟩ := tells_request_attach env hSlotted name .prefetcher
    obtain ⟨more, hRest, hOthers⟩ := ih (hFirst.1.slotted hSlotted)
    exact ⟨moments ++ more, hFirst.trans hRest, .cons hEach hOthers⟩

/-- So does a task that awaits several pantries. -/
theorem tells_awaitAll (env : Setup) (t : Ticket) (slot : Nat) (names : List String)
    (hSlotted : s.cache.Slotted) :
    ∃ moments, s.fleet.Tells env.searchPaths moments (awaitAll env t slot names s).fleet ∧
      AsksEach names moments := by
  induction names generalizing s slot with
  | nil => exact ⟨[], .refl _, rfl, by simp⟩
  | cons name names ih =>
    obtain ⟨moments, hFirst, hEach⟩ :=
      tells_request_attach env hSlotted name (.collector t slot)
    obtain ⟨more, hRest, hOthers⟩ := ih (slot + 1) (hFirst.1.slotted hSlotted)
    exact ⟨moments ++ more, hFirst.trans hRest, .cons hEach hOthers⟩

theorem tells_of_fleet_eq (h : s'.fleet = s.fleet) :
    ∃ moments, s.fleet.Tells env.searchPaths moments s'.fleet :=
  ⟨[], by rw [h]; exact .refl _⟩

theorem tells_defer (env : Setup) (hSlotted : s.cache.Slotted) (session : SessionId)
    (specifier : String) (citation : Citation) (receiver : Receiver) :
    ∃ moments, s.fleet.Tells env.searchPaths moments
      (s.defer env session specifier citation receiver).fleet := by
  have hNoted : (s.note (.deferred receiver.ticket specifier citation.pantryName)).cache.Slotted :=
    hSlotted
  obtain ⟨moments, hTells, _⟩ := tells_request_attach env hNoted citation.pantryName
    (.importing specifier citation session receiver)
  rw [fleet_note rfl] at hTells
  exact ⟨moments, hTells⟩

/-- The end of a discovery is one incident. -/
theorem tells_landWith {i : FlightId} {f : Flight} {landing : Landing}
    (hFlight : s.cache.flights[i]? = some f) (hLands : f.canLand landing.returned = true) :
    ∃ moments, s.fleet.Tells env.searchPaths moments
      (s.landWith i f.call.name landing).fleet := by
  have hServes : s.cache.Serves f.call.name i f := ⟨hFlight, rfl⟩
  have hNone : (resultEvent f.call.name (conclude f.call.name landing.returned)).call? = none := by
    cases conclude f.call.name landing.returned <;> rfl
  rw [fleet_landWith]
  refine ⟨_, .next (Cache.happen?_land hServes hLands) .still, ?_⟩
  exact (calls_told rfl hNone).trans (List.append_nil _).symm

/-- What an importer does in a move is a story of its cache. -/
theorem Move.tells (hSound : s.fleet.Sound) (h : Move env cancels s s') :
    ∃ moments, s.fleet.Tells env.searchPaths moments s'.fleet := by
  have hSlotted : s.cache.Slotted := hSound.coherent.slotted
  cases h with
  | remark hRemark =>
    exact tells_of_fleet_eq (fleet_note (Event.isDiscovery_of_isRemark hRemark))
  | number => exact tells_of_fleet_eq rfl
  | give => exact tells_of_fleet_eq (fleet_giveOnce _ _ _)
  | request =>
    obtain ⟨moments, hTells, _⟩ := tells_request env s _
    exact ⟨moments, hTells⟩
  | attach hOffer =>
    obtain ⟨moments, hTells, _⟩ := tells_attach env hSlotted hOffer _
    exact ⟨moments, hTells⟩
  | defer => exact tells_defer env hSlotted _ _ _ _
  | @cancel name i _ hOffer =>
    obtain ⟨f, hServes⟩ := hSlotted hOffer
    rw [fleet_settle]
    exact ⟨_, .next (Cache.happen?_cancel hServes) .still, (List.append_nil _).symm⟩
  | @launch i rest f hQueue hFlight =>
    have hJob : 0 < s.fleet.launching i := by
      simp [State.fleet, hQueue, List.countP_cons, Job.launches]
    have hStage := Flight.isScheduled_iff.mp (hSound.isScheduled_of_launching hFlight hJob)
    have hServes : s.cache.Serves f.call.name i f := ⟨hFlight, rfl⟩
    refine ⟨_, .next (Cache.happen?_call hServes hStage) .still, ?_⟩
    have hLog : (s.journal.cons (.called f.call)).filter Event.isDiscovery =
        .called f.call :: s.journal.filter Event.isDiscovery := List.filter_cons_of_pos rfl
    show ((s.journal.cons (.called f.call)).filter Event.isDiscovery).reverse.filterMap _ = _
    rw [hLog, List.reverse_cons, List.filterMap_append]
    rfl
  | landNow hFlight hFlying =>
    exact tells_landWith hFlight (by rw [Flight.canLand, hFlying])
  | @comeBack i f landing hFlight hFlying =>
    have hServes : s.cache.Serves f.call.name i f := ⟨hFlight, rfl⟩
    rw [fleet_enqueue fun _ => rfl]
    exact ⟨_, .next (Cache.happen?_comeBack hServes hFlying landing) .still,
      (List.append_nil _).symm⟩
  | @land i rest f landing hQueue hFlight hLanding =>
    have hPop : s.pop.fleet = s.fleet := fleet_pop hQueue fun _ => rfl
    rw [← hPop]
    exact tells_landWith (s := s.pop) hFlight (by simp [Flight.canLand, hLanding])
  | deliver hQueue =>
    exact tells_of_fleet_eq (by rw [fleet_note rfl, fleet_complete, fleet_pop hQueue fun _ => rfl])
  | hand hQueue =>
    exact tells_of_fleet_eq
      (by rw [fleet_of_aside (aside_handOver _ _), fleet_complete, fleet_pop hQueue fun _ => rfl])
  | tell hQueue hOther =>
    exact tells_of_fleet_eq
      (by rw [fleet_of_aside (aside_notify hOther _), fleet_pop hQueue fun _ => rfl])
  | startTask => exact tells_of_fleet_eq (fleet_of_aside (aside_startTask _))
  | cancelTask => exact tells_of_fleet_eq (fleet_of_aside (aside_cancelTask _))
  | @deferTask t _ _ _ session specifier citation _ _ hQueue =>
    have hPop : s.pop.fleet = s.fleet := fleet_pop hQueue fun _ => rfl
    obtain ⟨moments, hTells⟩ :=
      tells_defer (s := s.pop) env hSlotted session specifier citation (.task t)
    rw [hPop] at hTells
    exact ⟨moments, hTells⟩
  | park hQueue =>
    exact tells_of_fleet_eq
      (by rw [fleet_of_aside (aside_setTask _ _), fleet_pop hQueue fun _ => rfl])
  | finish hQueue =>
    exact tells_of_fleet_eq
      (by rw [fleet_of_aside (aside_finish _ _ _), fleet_pop hQueue fun _ => rfl])
  | @skip job rest hQueue hIdle =>
    cases job with
    | launch i =>
      -- a call that is still to be made belongs to a discovery that is there
      have hLaunching := hSound.launching i
      rw [show s.fleet.cache.flights[i]? = none from hIdle] at hLaunching
      simp [State.fleet, hQueue, List.countP_cons, Job.launches] at hLaunching
    | land i => exact tells_of_fleet_eq (fleet_pop hQueue fun _ => rfl)
    | notify settlement w => exact tells_of_fleet_eq (fleet_pop hQueue fun _ => rfl)
    | resume t => exact tells_of_fleet_eq (fleet_pop hQueue fun _ => rfl)

/-- **What an importer does is a story of its cache**, with the calls that its journal tells of. -/
theorem Moves.tells (hSound : s.fleet.Sound) (h : Moves env cancels s s') :
    ∃ moments, s.fleet.Tells env.searchPaths moments s'.fleet := by
  induction h with
  | refl => exact ⟨[], .refl _⟩
  | tail hMoves hMove ih =>
    obtain ⟨moments, hTells⟩ := ih
    obtain ⟨more, hMore⟩ := hMove.tells (hSound.steps (Moves.fleet hMoves))
    exact ⟨moments ++ more, hTells.trans hMore⟩

/-- The calls of the fleet are those that the journal tells of. -/
theorem calls_fleet (s : State) : s.fleet.calls = s.history.filterMap Event.call? := by
  rw [Fleet.calls, history, fleet, ← List.filter_reverse, List.filterMap_filter]
  congr 1
  funext e
  cases e <;> rfl

-- ---------------------------------------------------------------------------
-- Relative imports
-- ---------------------------------------------------------------------------

section Relative

variable {what : Import} {path : Path}

/-- Whether a path lies in a pantry depends on which pantries there are. -/
theorem inPantry_congr (hSame : ∀ P, P ∈ s'.cache.resolved.values ↔ P ∈ s.cache.resolved.values)
    (path : Path) : s'.inPantry env path = s.inPantry env path := by
  rw [Bool.eq_iff_iff, inPantry, inPantry, List.any_eq_true, List.any_eq_true]
  exact exists_congr fun P => and_congr_left' (hSame P)

/-- A relative import depends on which pantries there are and on what its compilation was given, and
not on the order in which the pantries came. -/
theorem resolve_relative_congr
    (hSame : ∀ P, P ∈ s'.cache.resolved.values ↔ P ∈ s.cache.resolved.values)
    (hGiven : s'.emission what.session = s.emission what.session)
    (hClass : classify env.cwd what.specifier what.file = .relative path)
    (receiver receiver' : Receiver) :
    (s'.resolve env what receiver').2 = (s.resolve env what receiver).2 ∧
      (s'.resolve env what receiver').1.emission what.session =
        (s.resolve env what receiver).1.emission what.session := by
  simp only [resolve, hClass, resolveRelative, inPantry_congr hSame]
  split
  · refine ⟨?_, ?_⟩
    · simp only [giveOnce, hGiven]
    · rw [emission_giveOnce, emission_giveOnce, if_pos rfl, if_pos rfl, hGiven]
  · exact ⟨rfl, hGiven⟩

end Relative

-- ---------------------------------------------------------------------------
-- Independence
-- ---------------------------------------------------------------------------

/-- **Pantry names are independent.**

Whatever an importer does is a story of its cache, with the same calls; a prefetch or preload asks
for its names one by one and concerns no others; and cancelling a task that waits is no incident.

Leave out of a story all that happens to one name. The rest can happen, and at each of the remaining
moments all other names have the same pantry at hand, are pending or not as before, and keep the
same discoveries with the same promises; the same calls are made for them, and those who wait are
told the same.

Let things happen in another order that is the same for each name. They can happen, each name sees
the same, and afterwards the cache is the same for every name, with the same pantries, perhaps in
another order, and the same places in the same order.

A relative import is answered alike where the same pantries are resolved, in whatever order. -/
theorem names_independent (env : Setup) (config : Config) :
    (∀ cancels s, Moves env cancels (seeded config) s →
      (∃ moments, (Cache.ofSeeds config.pantries).Story env.searchPaths moments s.cache ∧
        s.history.filterMap Event.call? = moments.filterMap Moment.call?) ∧
      (∀ names, ∃ moments, AsksEach names moments ∧
        s.cache.Story env.searchPaths moments (prefetchAll env names s).cache) ∧
      (∀ t slot names, ∃ moments, AsksEach names moments ∧
        s.cache.Story env.searchPaths moments (awaitAll env t slot names s).cache) ∧
      ∀ t, (s.cancelTask t).1.cache = s.cache) ∧
    (∀ moments c, (Cache.ofSeeds config.pantries).Story env.searchPaths moments c →
      (∀ m, ∃ moments' c', (Cache.ofSeeds config.pantries).Story env.searchPaths moments' c' ∧
        moments'.map Moment.incident =
          (moments.map Moment.incident).filter (fun x => x.name ≠ m) ∧
        ∀ n, n ≠ m → moments'.map (Moment.seenFor n) =
          (moments.filter fun e => e.incident.name ≠ m).map (Moment.seenFor n)) ∧
      ∀ xs : List Incident, (∀ n, xs.filter (fun x => x.name = n) =
          (moments.map Moment.incident).filter fun x => x.name = n) →
        ∃ moments' c', (Cache.ofSeeds config.pantries).Story env.searchPaths moments' c' ∧
          moments'.map Moment.incident = xs ∧
          (∀ n, c'.part n = c.part n ∧
            (moments'.filter fun e => e.incident.name = n).map (Moment.seenFor n) =
              (moments.filter fun e => e.incident.name = n).map (Moment.seenFor n)) ∧
          c'.resolved.entries.Perm c.resolved.entries ∧
          c'.locations.entries = c.locations.entries) ∧
    ∀ (s s' : State) (what : Import) (path : Path) (receiver receiver' : Receiver),
      (∀ P, P ∈ s'.cache.resolved.values ↔ P ∈ s.cache.resolved.values) →
      s'.emission what.session = s.emission what.session →
      classify env.cwd what.specifier what.file = .relative path →
      (s'.resolve env what receiver').2 = (s.resolve env what receiver).2 ∧
        (s'.resolve env what receiver').1.emission what.session =
          (s.resolve env what receiver).1.emission what.session := by
  have hSeeds : (Cache.ofSeeds config.pantries).Slotted :=
    (Cache.coherent_ofSeeds config.pantries).slotted
  refine ⟨fun cancels s h => ⟨?_, fun names => ?_, fun t slot names => ?_, fun t => ?_⟩,
    fun moments c h => ⟨fun m => ?_, fun xs hSame => ?_⟩, fun s s' what path receiver receiver'
      hSame hGiven hClass => resolve_relative_congr hSame hGiven hClass receiver receiver'⟩
  · obtain ⟨moments, hStory, hCalls⟩ := Moves.tells (sound_seeded config) h
    rw [calls_fleet, calls_fleet] at hCalls
    exact ⟨moments, hStory, hCalls⟩
  · obtain ⟨moments, hTells, hEach⟩ := tells_prefetchAll env names h.sound.coherent.slotted
    exact ⟨moments, hEach, hTells.1⟩
  · obtain ⟨moments, hTells, hEach⟩ := tells_awaitAll env t slot names h.sound.coherent.slotted
    exact ⟨moments, hEach, hTells.1⟩
  · exact (aside_cancelTask t).cache
  · obtain ⟨moments', c', hStory, hIncidents, hSeen⟩ :=
      h.only (fun n => n ≠ m) hSeeds hSeeds fun _ _ => rfl
    exact ⟨moments', c', hStory, hIncidents, fun n hn => (hSeen n (by simpa using hn)).2⟩
  · obtain ⟨moments', c', hStory, hIncidents, hSeen⟩ := h.rearranged hSeeds hSame
    refine ⟨moments', c', hStory, hIncidents, hSeen, ?_, ?_⟩
    · exact Registry.entries_perm_of_get?_eq fun n => congrArg Part.pantry (hSeen n).1
    · exact h.locations_eq hStory fun n => congrArg Part.place (hSeen n).1

/-- Two pantries are asked for in turn. The promise of one is cancelled, and the pantry is asked for
again before the first discovery of it ends. The other one lies inside it. -/
def mingled : List Incident :=
  [⟨"m", .ask⟩, ⟨"n", .ask⟩, ⟨"n", .wait 0 (.observer 0)⟩, ⟨"m", .call 0⟩, ⟨"m", .cancel 0⟩,
    ⟨"n", .call 0⟩, ⟨"m", .ask⟩,
    ⟨"m", .land 0 (.pantry ⟨none, some (Path.ofString "/m"), .empty⟩)⟩,
    ⟨"n", .land 0 (.pantry ⟨none, some (Path.ofString "/m/i"), .empty⟩)⟩]

/-- What happens to a name. -/
def mingledFor (name : String) : List Incident := mingled.filter fun x => x.name = name

/-- The other name sees the same when all this is left out, and when it comes later; and what leads
into both pantries is answered alike. -/
theorem names_independent_mingled :
    ∃ moments c moments' c' moments'' c'',
      (Cache.ofSeeds Config.bare.pantries).Story Setup.manual.searchPaths moments c ∧
      moments.map Moment.incident = mingled ∧
      (Cache.ofSeeds Config.bare.pantries).Story Setup.manual.searchPaths moments' c' ∧
      moments'.map Moment.incident = mingledFor "n" ∧
      moments'.map (Moment.seenFor "n") =
        (moments.filter fun e => e.incident.name ≠ "m").map (Moment.seenFor "n") ∧
      (Cache.ofSeeds Config.bare.pantries).Story Setup.manual.searchPaths moments'' c'' ∧
      moments''.map Moment.incident = mingledFor "n" ++ mingledFor "m" ∧
      c''.part "n" = c.part "n" ∧ c.resolved.keys = ["m", "n"] ∧
      ∀ session receiver,
        let what : Import := ⟨session, .str "./a", .str "/m/i/index.scss"⟩
        (({ cache := c'' } : State).resolve Setup.manual what receiver).2 =
          (({ cache := c } : State).resolve Setup.manual what receiver).2 := by
  obtain ⟨moments, c, hStory, hIncidents, hKeys⟩ : ∃ moments c,
      (Cache.ofSeeds Config.bare.pantries).Story Setup.manual.searchPaths moments c ∧
        moments.map Moment.incident = mingled ∧ c.resolved.keys = ["m", "n"] :=
    ⟨_, _, .next rfl (.next rfl (.next rfl (.next rfl (.next rfl (.next rfl (.next rfl (.next rfl
      (.next rfl .still)))))))), rfl, rfl⟩
  obtain ⟨_, hStories, hRelative⟩ := names_independent Setup.manual Config.bare
  obtain ⟨hWithout, hRearranged⟩ := hStories moments c hStory
  obtain ⟨moments', c', hStory', hIncidents', hSeen⟩ := hWithout "m"
  have hOrder : ∀ n, (mingledFor "n" ++ mingledFor "m").filter (fun x => x.name = n) =
      (moments.map Moment.incident).filter fun x => x.name = n := by
    intro n
    rw [hIncidents]
    by_cases hm : "m" = n
    · subst hm
      rfl
    · by_cases hn : "n" = n
      · subst hn
        rfl
      · simp [mingledFor, mingled, hm, hn]
  obtain ⟨moments'', c'', hStory'', hIncidents'', hSame, hPerm, _⟩ := hRearranged _ hOrder
  refine ⟨moments, c, moments', c', moments'', c'', hStory, hIncidents, hStory',
    by rw [hIncidents', hIncidents]; rfl, hSeen "n" (by decide), hStory'', hIncidents'',
    (hSame "n").1, hKeys, fun session receiver => ?_⟩
  have hValues : ∀ P, P ∈ c''.resolved.values ↔ P ∈ c.resolved.values := fun P =>
    (hPerm.map Prod.snd).mem_iff
  exact (hRelative { cache := c } { cache := c'' } _ _ receiver receiver hValues rfl rfl).1

end State

end Larder
