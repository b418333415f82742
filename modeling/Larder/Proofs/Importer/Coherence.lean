import Larder.Proofs.Importer.Fleet

/-!
# Larder — the slots and the discoveries agree

The cache keeps a slot for each pending name and a list of all discoveries. A slot is taken by the
start of a discovery and given up by its end, but a cancelled promise lets another discovery take
the slot while the first one goes on. `Coherent` says what holds nevertheless: a slot names the
newest discovery of its name, which has not ended; the newest discovery of a name keeps the slot as
long as it is under way; a discovery that was followed by another one had been cancelled or has
failed.

## Results

* `Coherent.modify`, `Coherent.start`, `Coherent.land`: the three kinds of changes keep it.
* `Cache.coherent_ofSeeds`: it holds of a cache that knows seeds only.
-/

namespace Larder

-- ---------------------------------------------------------------------------
-- One discovery
-- ---------------------------------------------------------------------------

namespace Flight

variable {f : Flight}

/-- What a discovery came back with, once that has taken effect. -/
def result? (f : Flight) : Option Returned :=
  match f.stage with
  | .landed returned => some returned
  | _ => none

/-- Whether a discovery is in flight. -/
def live (f : Flight) : Bool := f.result?.isNone

/-- Whether a discovery brought its pantry. -/
def brought (f : Flight) : Bool :=
  match f.result? with
  | some (.pantry _) => true
  | _ => false

/-- Whether a discovery ended without a pantry. -/
def failed (f : Flight) : Bool := !f.live && !f.brought

/-- Whether the promise of a discovery was cancelled. -/
def cancelled (f : Flight) : Bool :=
  match f.promise with
  | .settled .cancelled => true
  | _ => false

/-- The discovery with its promise settled, unless it is settled already. -/
def settledWith (f : Flight) (settlement : Settlement) : Flight :=
  match f.promise with
  | .waiting _ => { f with promise := .settled settlement }
  | .settled _ => f

/-- Whether the promise says what became of the discovery: while it is under way nothing, except
that the promise may be cancelled, and that stays. -/
def Consistent (f : Flight) : Prop :=
  match f.result? with
  | none => ∀ settlement, f.promise = .settled settlement → settlement = .cancelled
  | some returned =>
    f.promise = .settled (.ofResult (conclude f.call.name returned)) ∨
      f.promise = .settled .cancelled

theorem live_iff : f.live = true ↔ f.result? = none := by
  simp [live]

theorem cancelled_iff : f.cancelled = true ↔ f.promise = .settled .cancelled := by
  unfold cancelled
  split <;> simp_all

theorem not_live_of_brought (h : f.brought = true) : f.live = false := by
  unfold brought at h
  split at h
  · rename_i hResult
    simp [live, hResult]
  · exact absurd h (by simp)

theorem not_failed_of_live (h : f.live = true) : f.failed = false := by
  simp [failed, h]

theorem not_failed_of_brought (h : f.brought = true) : f.failed = false := by
  simp [failed, h]

/-- A discovery is in flight, brought its pantry, or failed. -/
theorem failed_eq_false_iff : f.failed = false ↔ f.live = true ∨ f.brought = true := by
  simp only [failed]
  cases f.live <;> cases f.brought <;> simp

theorem call_settledWith (f : Flight) (x : Settlement) : (f.settledWith x).call = f.call := by
  unfold settledWith
  split <;> rfl

theorem stage_settledWith (f : Flight) (x : Settlement) : (f.settledWith x).stage = f.stage := by
  unfold settledWith
  split <;> rfl

theorem result?_settledWith (f : Flight) (x : Settlement) :
    (f.settledWith x).result? = f.result? := by
  simp [result?, stage_settledWith]

theorem cancelled_settledWith (f : Flight) {x : Settlement} (h : f.cancelled = true) :
    (f.settledWith x).cancelled = true := by
  rw [cancelled_iff] at h ⊢
  unfold settledWith
  rw [h]
  exact h

/-- What a discovery is after its end. -/
def ended (f : Flight) (returned : Returned) : Flight :=
  ({ f with stage := .landed returned } : Flight).settledWith
    (.ofResult (Larder.conclude f.call.name returned))

theorem result?_ended (f : Flight) (returned : Returned) :
    (f.ended returned).result? = some returned := by
  rw [ended, result?_settledWith]
  rfl

theorem call_ended (f : Flight) (returned : Returned) : (f.ended returned).call = f.call := by
  rw [ended, call_settledWith]

theorem consistent_ended (h : f.Consistent) (hLive : f.live = true) (returned : Returned) :
    (f.ended returned).Consistent := by
  unfold Consistent at h ⊢
  rw [result?_ended, call_ended]
  rw [live_iff.mp hLive] at h
  obtain ⟨call, stage, promise⟩ := f
  cases promise with
  | waiting ws => exact Or.inl rfl
  | settled x =>
    have hCancelled : x = .cancelled := h x rfl
    subst hCancelled
    exact Or.inr rfl

theorem settledWith_of_ended (h : f.Consistent) (hEnded : f.live = false) (x : Settlement) :
    f.settledWith x = f := by
  obtain ⟨call, stage, promise⟩ := f
  cases promise with
  | settled y => rfl
  | waiting ws =>
    unfold Consistent at h
    split at h
    · rename_i hResult
      simp [live, hResult] at hEnded
    · simp at h

theorem cancelled_settledWith_ofResult (result : Except Fault Pantry)
    (h : f.cancelled = false) : (f.settledWith (.ofResult result)).cancelled = false := by
  obtain ⟨call, stage, promise⟩ := f
  cases promise with
  | settled x => exact h
  | waiting ws => cases result <;> rfl

/-- Whether a change of a discovery leaves its call and its result alone, keeps a cancelled promise
cancelled, and keeps the promise consistent. -/
structure Upholds (f g : Flight) : Prop where
  call : g.call = f.call
  result : g.result? = f.result?
  cancelled : f.cancelled = true → g.cancelled = true
  consistent : f.Consistent → g.Consistent

theorem Upholds.refl (f : Flight) : f.Upholds f := ⟨rfl, rfl, id, id⟩

theorem Upholds.live {g : Flight} (h : f.Upholds g) : g.live = f.live := by
  simp only [Flight.live, h.result]

theorem Upholds.brought {g : Flight} (h : f.Upholds g) : g.brought = f.brought := by
  simp only [Flight.brought, h.result]

theorem Upholds.failed {g : Flight} (h : f.Upholds g) : g.failed = f.failed := by
  simp only [Flight.failed, h.live, h.brought]

end Flight

-- ---------------------------------------------------------------------------
-- The cache
-- ---------------------------------------------------------------------------

namespace Cache

variable {c : Cache} {name : String} {i j : FlightId} {f g : Flight}

/-- Whether `f` is the discovery with the number `i`, and one of `name`. -/
def Serves (c : Cache) (name : String) (i : FlightId) (f : Flight) : Prop :=
  c.flights[i]? = some f ∧ f.call.name = name

/-- Whether the discovery with the number `i` is the last that was started for `name`. -/
def Newest (c : Cache) (name : String) (i : FlightId) : Prop :=
  ∀ j f, c.Serves name j f → j ≤ i

/-- Whether a discovery of `name` is in flight. -/
def InFlight (c : Cache) (name : String) : Prop := ∃ i f, c.Serves name i f ∧ f.live = true

/-- Whether no promise was cancelled. -/
def Uncancelled (c : Cache) : Prop :=
  ∀ (i : FlightId) (f : Flight), c.flights[i]? = some f → f.cancelled = false

/-- The slots, the pantries and the discoveries agree. -/
structure Coherent (c : Cache) : Prop where
  slot : ∀ {name i}, c.pending.get? name = some i → ∃ f, c.Serves name i f ∧ f.live = true
  newest : ∀ {name i}, c.pending.get? name = some i → c.Newest name i
  held : ∀ {name i f}, c.Serves name i f → f.live = true → c.Newest name i →
    c.pending.get? name = some i
  consistent : ∀ {i : FlightId} {f : Flight}, c.flights[i]? = some f → f.Consistent
  replaced : ∀ {name i j f g}, c.Serves name i f → c.Serves name j g → i < j →
    f.cancelled = true ∨ f.failed = true
  known : ∀ {name i f}, c.Serves name i f → f.brought = true → (c.get? name).isSome
  source : ∀ {name}, (c.get? name).isSome →
    (∃ i f, c.Serves name i f ∧ f.brought = true) ∨ ∀ i f, ¬ c.Serves name i f

-- ---------------------------------------------------------------------------
-- What the operations do
-- ---------------------------------------------------------------------------

theorem getElem?_modifyFlight (c : Cache) (i j : FlightId) (change : Flight → Flight) :
    (c.modifyFlight i change).flights[j]? =
      (c.flights[j]?).map fun f => if i = j then change f else f := by
  rw [modifyFlight]
  simp only [List.getElem?_modify]
  split <;> simp

theorem modifyFlight_congr {change change' : Flight → Flight}
    (h : ∀ f, c.flights[i]? = some f → change f = change' f) :
    c.modifyFlight i change = c.modifyFlight i change' := by
  have hFlights : c.flights.modify i change = c.flights.modify i change' := by
    apply List.ext_getElem?
    intro j
    simp only [List.getElem?_modify]
    by_cases hij : i = j
    · subst hij
      cases hFlight : c.flights[i]? with
      | none => rfl
      | some f => simp [h f hFlight]
    · simp [hij]
  simp only [modifyFlight, hFlights]

/-- Settling a promise is a change of its discovery. -/
theorem settle_eq (c : Cache) (i : FlightId) (x : Settlement) :
    c.settle i x = c.modifyFlight i (·.settledWith x) := by
  have hSame : c.modifyFlight i id = c := by simp [modifyFlight]
  unfold settle
  split
  · -- someone may still be told
    rename_i ws hPromise
    refine modifyFlight_congr fun f hFlight => ?_
    simp only [promise?, hFlight, Option.map_some, Option.some.injEq] at hPromise
    simp [Flight.settledWith, hPromise]
  · rename_i hSettled
    conv => lhs; rw [← hSame]
    refine modifyFlight_congr fun f hFlight => ?_
    obtain ⟨call, stage, promise⟩ := f
    cases promise with
    | waiting ws => exact absurd (by simp [promise?, hFlight]) (hSettled ws)
    | settled y => rfl

theorem pending_release (c : Cache) (name : String) (i : FlightId) :
    (c.release name i).pending =
      if c.pending.get? name = some i then c.pending.erase name else c.pending := by
  unfold release
  split <;> rfl

theorem resolved_release (c : Cache) (name : String) (i : FlightId) :
    (c.release name i).resolved = c.resolved := by
  unfold release
  split <;> rfl

/-- The end of a discovery gives up the slot of its name, unless another one holds it. -/
theorem pending_land (c : Cache) (i : FlightId) (name : String) (returned : Returned) :
    (c.land i name returned).pending =
      if c.pending.get? name = some i then c.pending.erase name else c.pending := by
  rw [land, settle_eq]
  cases Larder.conclude name returned <;>
    simp only [conclude, modifyFlight, pending_release, setStage]

theorem getElem?_land (c : Cache) (i j : FlightId) (name : String) (returned : Returned) :
    (c.land i name returned).flights[j]? = (c.flights[j]?).map fun f =>
      if i = j then ({ f with stage := .landed returned }).settledWith
        (.ofResult (Larder.conclude name returned)) else f := by
  rw [land, settle_eq, getElem?_modifyFlight, State.flights_conclude, setStage,
    getElem?_modifyFlight, Option.map_map]
  congr 1
  funext f
  by_cases h : i = j <;> simp [h]

/-- The end of a discovery changes that discovery and no other. -/
theorem flights_land (c : Cache) (i : FlightId) (name : String) (returned : Returned) :
    (c.land i name returned).flights = c.flights.modify i fun f =>
      ({ f with stage := .landed returned } : Flight).settledWith
        (.ofResult (Larder.conclude name returned)) := by
  apply List.ext_getElem?
  intro j
  rw [getElem?_land, List.getElem?_modify]
  split <;> simp

theorem get?_land (c : Cache) (i : FlightId) (name other : String) (returned : Returned) :
    (c.land i name returned).get? other =
      match Larder.conclude name returned with
      | .ok pantry => if other = name then some pantry else c.get? other
      | .error _ => c.get? other := by
  rw [land, settle_eq]
  cases Larder.conclude name returned <;>
    simp [conclude, modifyFlight, resolved_release, setStage, get?, Registry.get?_insert]

-- ---------------------------------------------------------------------------
-- Changes that leave every result alone
-- ---------------------------------------------------------------------------

theorem serves_modifyFlight {change : Flight → Flight}
    (hChange : ∀ f, c.flights[i]? = some f → f.Upholds (change f)) (h : c.Serves name j f) :
    ∃ g, (c.modifyFlight i change).Serves name j g ∧ f.Upholds g := by
  obtain ⟨hFlight, hName⟩ := h
  by_cases hij : i = j
  · subst hij
    have hUpholds := hChange f hFlight
    refine ⟨change f, ⟨?_, by rw [hUpholds.call, hName]⟩, hUpholds⟩
    simp [getElem?_modifyFlight, hFlight]
  · exact ⟨f, ⟨by simp [getElem?_modifyFlight, hFlight, hij], hName⟩, .refl f⟩

theorem serves_of_modifyFlight {change : Flight → Flight}
    (hChange : ∀ f, c.flights[i]? = some f → f.Upholds (change f))
    (h : (c.modifyFlight i change).Serves name j g) :
    ∃ f, c.Serves name j f ∧ f.Upholds g := by
  obtain ⟨hFlight, hName⟩ := h
  rw [getElem?_modifyFlight, Option.map_eq_some_iff] at hFlight
  obtain ⟨f, hFlight, rfl⟩ := hFlight
  by_cases hij : i = j
  · subst hij
    have hUpholds := hChange f hFlight
    rw [if_pos rfl] at hName ⊢
    exact ⟨f, ⟨hFlight, by rw [← hUpholds.call, hName]⟩, hUpholds⟩
  · rw [if_neg hij] at hName ⊢
    exact ⟨f, ⟨hFlight, hName⟩, .refl f⟩

/-- A change of one discovery that leaves its result alone keeps the cache coherent. -/
theorem Coherent.modify {change : Flight → Flight} (h : c.Coherent)
    (hChange : ∀ f, c.flights[i]? = some f → f.Upholds (change f)) :
    (c.modifyFlight i change).Coherent := by
  have hNewest : ∀ {name j}, (c.modifyFlight i change).Newest name j → c.Newest name j := by
    intro name j hNew k f hServes
    obtain ⟨g, hServes', _⟩ := serves_modifyFlight hChange hServes
    exact hNew k g hServes'
  constructor
  case slot =>
    intro name j hSlot
    obtain ⟨f, hServes, hLive⟩ := h.slot hSlot
    obtain ⟨g, hServes', hUpholds⟩ := serves_modifyFlight hChange hServes
    exact ⟨g, hServes', by rw [hUpholds.live, hLive]⟩
  case newest =>
    intro name j hSlot k g hServes
    obtain ⟨f, hServes', _⟩ := serves_of_modifyFlight hChange hServes
    exact h.newest hSlot k f hServes'
  case held =>
    intro name j g hServes hLive hNew
    obtain ⟨f, hServes', hUpholds⟩ := serves_of_modifyFlight hChange hServes
    exact h.held hServes' (by rw [← hUpholds.live, hLive]) (hNewest hNew)
  case consistent =>
    intro j g hFlight
    obtain ⟨f, hServes, hUpholds⟩ := serves_of_modifyFlight hChange ⟨hFlight, rfl⟩
    exact hUpholds.consistent (h.consistent hServes.1)
  case replaced =>
    intro name j k g g' hServes hServes' hLt
    obtain ⟨f, hOld, hUpholds⟩ := serves_of_modifyFlight hChange hServes
    obtain ⟨f', hOld', _⟩ := serves_of_modifyFlight hChange hServes'
    rcases h.replaced hOld hOld' hLt with hCancelled | hFailed
    · exact Or.inl (hUpholds.cancelled hCancelled)
    · exact Or.inr (by rw [hUpholds.failed, hFailed])
  case known =>
    intro name j g hServes hBrought
    obtain ⟨f, hServes', hUpholds⟩ := serves_of_modifyFlight hChange hServes
    exact h.known hServes' (by rw [← hUpholds.brought, hBrought])
  case source =>
    intro name hGet
    rcases h.source hGet with ⟨j, f, hServes, hBrought⟩ | hNone
    · obtain ⟨g, hServes', hUpholds⟩ := serves_modifyFlight hChange hServes
      exact Or.inl ⟨j, g, hServes', by rw [hUpholds.brought, hBrought]⟩
    · refine Or.inr fun j g hServes => ?_
      obtain ⟨f, hServes', _⟩ := serves_of_modifyFlight hChange hServes
      exact hNone j f hServes'

-- ---------------------------------------------------------------------------
-- The start of a discovery
-- ---------------------------------------------------------------------------

variable {searchPaths : List Path}

theorem getElem?_start (c : Cache) (searchPaths : List Path) (name : String) (j : FlightId) :
    (c.start searchPaths name).flights[j]? =
      if c.flights.length = j then some (c.newFlight searchPaths name) else c.flights[j]? := by
  simp only [start, List.getElem?_append]
  split
  · rename_i hLt
    rw [if_neg (Nat.ne_of_gt hLt)]
  · rename_i hGe
    split
    · rename_i hEq
      subst hEq
      simp
    · rename_i hNe
      have hGt : c.flights.length < j := Nat.lt_of_le_of_ne (Nat.le_of_not_lt hGe) hNe
      rw [List.getElem?_eq_none_iff.mpr (Nat.le_of_lt hGt)]
      exact List.getElem?_eq_none_iff.mpr (Nat.sub_pos_of_lt hGt)

theorem serves_start_iff {other : String} :
    (c.start searchPaths name).Serves other j f ↔
      c.Serves other j f ∨
        (j = c.flights.length ∧ f = c.newFlight searchPaths name ∧ other = name) := by
  unfold Serves
  rw [getElem?_start]
  split
  · rename_i hLast
    subst hLast
    have hOut : c.flights[c.flights.length]? = none := List.getElem?_eq_none_iff.mpr (Nat.le_refl _)
    simp only [hOut, Option.some.injEq, reduceCtorEq, false_and, false_or, true_and]
    constructor
    · rintro ⟨rfl, rfl⟩
      exact ⟨rfl, rfl⟩
    · rintro ⟨rfl, rfl⟩
      exact ⟨rfl, rfl⟩
  · rename_i hNe
    simp [Ne.symm hNe]

theorem index_lt (h : c.Serves name i f) : i < c.flights.length :=
  (List.getElem?_eq_some_iff.mp h.1).1

/-- Where a request starts a discovery, the earlier ones of the name were cancelled or failed. -/
theorem Coherent.superseded (h : c.Coherent) (hNone : c.get? name = none)
    (hFree : c.joinable? name = none) (hServes : c.Serves name i f) :
    f.cancelled = true ∨ f.failed = true := by
  by_cases hNew : c.Newest name i
  · cases hLive : f.live with
    | true =>
      -- it holds the slot, so its promise must have been cancelled
      have hSlot := h.held hServes hLive hNew
      obtain ⟨call, stage, promise⟩ := f
      have hPromise : c.promise? i = some promise := by simp [promise?, hServes.1]
      unfold joinable? at hFree
      rw [hSlot] at hFree
      simp only [hPromise] at hFree
      split at hFree
      · rename_i hCancelled
        exact Or.inl (Flight.cancelled_iff.mpr (Option.some.inj hCancelled))
      · exact absurd hFree (by simp)
    | false =>
      have hBrought : f.brought = false := by
        rw [Bool.eq_false_iff]
        intro hBrought
        have hKnown := h.known hServes hBrought
        simp [hNone] at hKnown
      exact Or.inr (by simp [Flight.failed, hLive, hBrought])
  · simp only [Newest, Classical.not_forall] at hNew
    obtain ⟨j, g, hServes', hLt⟩ := hNew
    exact h.replaced hServes hServes' (Nat.lt_of_not_le hLt)

/-- The start of a discovery where nothing is at hand or under way keeps the cache coherent. -/
theorem Coherent.start (h : c.Coherent) (hNone : c.get? name = none)
    (hFree : c.joinable? name = none) : (c.start searchPaths name).Coherent := by
  have hPending : ∀ other, (c.start searchPaths name).pending.get? other =
      if other = name then some c.flights.length else c.pending.get? other := fun other =>
    Registry.get?_insert _ _ _ _
  constructor
  case slot =>
    intro other j hSlot
    rw [hPending] at hSlot
    split at hSlot
    · rename_i hOther
      exact ⟨c.newFlight searchPaths name,
        serves_start_iff.mpr (Or.inr ⟨(Option.some.inj hSlot).symm, rfl, hOther⟩), rfl⟩
    · obtain ⟨f, hServes, hLive⟩ := h.slot hSlot
      exact ⟨f, serves_start_iff.mpr (Or.inl hServes), hLive⟩
  case newest =>
    intro other j hSlot k g hServes
    rw [hPending] at hSlot
    rcases serves_start_iff.mp hServes with hOld | ⟨rfl, _, rfl⟩
    · split at hSlot
      · have hLast := Option.some.inj hSlot
        subst hLast
        exact Nat.le_of_lt (index_lt hOld)
      · exact h.newest hSlot k g hOld
    · rw [if_pos rfl] at hSlot
      exact Nat.le_of_eq (Option.some.inj hSlot)
  case held =>
    intro other j g hServes hLive hNew
    rw [hPending]
    rcases serves_start_iff.mp hServes with hOld | ⟨rfl, _, rfl⟩
    · split
      · -- the discovery that was started is newer
        rename_i hOther
        have hLast := hNew _ _ (serves_start_iff.mpr (Or.inr ⟨rfl, rfl, hOther⟩))
        exact absurd (index_lt hOld) (Nat.not_lt_of_le hLast)
      · exact h.held hOld hLive fun k f hServes' =>
          hNew k f (serves_start_iff.mpr (Or.inl hServes'))
    · rw [if_pos rfl]
  case consistent =>
    intro j g hFlight
    have hServes : (c.start searchPaths name).Serves g.call.name j g := ⟨hFlight, rfl⟩
    rcases serves_start_iff.mp hServes with hOld | ⟨_, rfl, _⟩
    · exact h.consistent hOld.1
    · intro settlement hSettled
      exact absurd hSettled (by simp [newFlight])
  case replaced =>
    intro other j k g g' hServes hServes' hLt
    rcases serves_start_iff.mp hServes' with hOld' | ⟨rfl, _, rfl⟩
    · rcases serves_start_iff.mp hServes with hOld | ⟨rfl, _, _⟩
      · exact h.replaced hOld hOld' hLt
      · exact absurd (index_lt hOld') (Nat.not_lt_of_lt hLt)
    · rcases serves_start_iff.mp hServes with hOld | ⟨rfl, _, _⟩
      · exact h.superseded hNone hFree hOld
      · exact absurd hLt (Nat.lt_irrefl _)
  case known =>
    intro other j g hServes hBrought
    rcases serves_start_iff.mp hServes with hOld | ⟨_, rfl, _⟩
    · exact h.known hOld hBrought
    · exact absurd hBrought (by simp [newFlight, Flight.brought, Flight.result?])
  case source =>
    intro other hGet
    have hGet' : (c.get? other).isSome := hGet
    rcases h.source hGet' with ⟨j, f, hServes, hBrought⟩ | hNo
    · exact Or.inl ⟨j, f, serves_start_iff.mpr (Or.inl hServes), hBrought⟩
    · refine Or.inr fun j f hServes => ?_
      rcases serves_start_iff.mp hServes with hOld | ⟨_, _, rfl⟩
      · exact hNo j f hOld
      · simp [hNone] at hGet'

-- ---------------------------------------------------------------------------
-- The end of a discovery
-- ---------------------------------------------------------------------------

variable {returned : Returned}

theorem serves_land (hFlight : c.Serves name i f) {other : String} (h : c.Serves other j g) :
    (c.land i name returned).Serves other j (if i = j then f.ended returned else g) := by
  obtain ⟨hGet, hName⟩ := h
  refine ⟨?_, ?_⟩
  · rw [getElem?_land, hGet]
    by_cases hij : i = j
    · subst hij
      obtain rfl : f = g := Option.some.inj (hFlight.1.symm.trans hGet)
      simp [Flight.ended, hFlight.2]
    · simp [hij]
  · by_cases hij : i = j
    · subst hij
      obtain rfl : f = g := Option.some.inj (hFlight.1.symm.trans hGet)
      simp [Flight.call_ended, hName]
    · simp [hij, hName]

theorem serves_of_land (hFlight : c.Serves name i f) {other : String}
    (h : (c.land i name returned).Serves other j g) :
    (i = j ∧ other = name ∧ g = f.ended returned) ∨ (i ≠ j ∧ c.Serves other j g) := by
  obtain ⟨hGet, hName⟩ := h
  rw [getElem?_land, Option.map_eq_some_iff] at hGet
  obtain ⟨g', hGet, rfl⟩ := hGet
  by_cases hij : i = j
  · subst hij
    obtain rfl : f = g' := Option.some.inj (hFlight.1.symm.trans hGet)
    have hEnded : f.ended returned = ({ f with stage := .landed returned } : Flight).settledWith
        (.ofResult (Larder.conclude name returned)) := by rw [Flight.ended, hFlight.2]
    rw [if_pos rfl, ← hEnded] at hName ⊢
    rw [Flight.call_ended, hFlight.2] at hName
    exact Or.inl ⟨rfl, hName.symm, rfl⟩
  · rw [if_neg hij] at hName ⊢
    exact Or.inr ⟨hij, hGet, hName⟩

/-- A slot that is still held was held before, by another discovery than the one that ended. -/
theorem Coherent.pending_of_land (h : c.Coherent) (hFlight : c.Serves name i f) {other : String}
    (hSlot : (c.land i name returned).pending.get? other = some j) :
    c.pending.get? other = some j ∧ i ≠ j := by
  rw [pending_land] at hSlot
  have hOld : c.pending.get? other = some j := by
    split at hSlot
    · rw [Registry.get?_erase] at hSlot
      split at hSlot
      · exact absurd hSlot (by simp)
      · exact hSlot
    · exact hSlot
  refine ⟨hOld, ?_⟩
  rintro rfl
  obtain ⟨g, hServes, _⟩ := h.slot hOld
  obtain rfl : f = g := Option.some.inj (hFlight.1.symm.trans hServes.1)
  obtain rfl : other = name := hServes.2.symm.trans hFlight.2
  simp [hOld] at hSlot

/-- A pantry that is at hand stays at hand, perhaps in another version. -/
theorem isSome_get?_land (i : FlightId) (name : String) (returned : Returned) {other : String}
    (h : (c.get? other).isSome) : ((c.land i name returned).get? other).isSome := by
  rw [get?_land]
  split
  · split
    · rfl
    · exact h
  · exact h

/-- The end of a discovery that was in flight keeps the cache coherent. -/
theorem Coherent.land (h : c.Coherent) (hFlight : c.Serves name i f) (hLive : f.live = true) :
    (c.land i name returned).Coherent := by
  have hNotBrought : f.brought = false := by
    rw [Bool.eq_false_iff]
    intro hBrought
    simp [Flight.not_live_of_brought hBrought] at hLive
  constructor
  case slot =>
    intro other j hSlot
    obtain ⟨hOld, hNe⟩ := h.pending_of_land hFlight hSlot
    obtain ⟨g, hServes, hLive⟩ := h.slot hOld
    refine ⟨g, ?_, hLive⟩
    have hServes' : (c.land i name returned).Serves other j _ := serves_land hFlight hServes
    rwa [if_neg hNe] at hServes'
  case newest =>
    intro other j hSlot k g hServes
    obtain ⟨hOld, _⟩ := h.pending_of_land hFlight hSlot
    rcases serves_of_land hFlight hServes with ⟨rfl, rfl, _⟩ | ⟨_, hServes'⟩
    · exact h.newest hOld _ _ hFlight
    · exact h.newest hOld _ _ hServes'
  case held =>
    intro other j g hServes hLive' hNew
    rcases serves_of_land hFlight hServes with ⟨_, _, rfl⟩ | ⟨hNe, hServes'⟩
    · simp [Flight.live, Flight.result?_ended] at hLive'
    · have hSlot : c.pending.get? other = some j :=
        h.held hServes' hLive' fun k g' hOld => hNew k _ (serves_land hFlight hOld)
      rw [pending_land]
      split
      · rename_i hMine
        rw [Registry.get?_erase_of_ne]
        · exact hSlot
        · rintro rfl
          exact hNe (Option.some.inj (hMine.symm.trans hSlot))
      · exact hSlot
  case consistent =>
    intro j g hGet
    rcases serves_of_land hFlight ⟨hGet, rfl⟩ with ⟨_, _, rfl⟩ | ⟨_, hServes⟩
    · exact Flight.consistent_ended (h.consistent hFlight.1) hLive _
    · exact h.consistent hServes.1
  case replaced =>
    intro other j k g g' hServes hServes' hLt
    -- what follows is the same discovery as before, perhaps with its end
    obtain ⟨f', hOld'⟩ : ∃ f', c.Serves other k f' := by
      rcases serves_of_land hFlight hServes' with ⟨rfl, rfl, _⟩ | ⟨_, hOld'⟩
      · exact ⟨f, hFlight⟩
      · exact ⟨g', hOld'⟩
    rcases serves_of_land hFlight hServes with ⟨rfl, rfl, rfl⟩ | ⟨_, hOld⟩
    · rcases h.replaced hFlight hOld' hLt with hCancelled | hFailed
      · exact Or.inl (Flight.cancelled_settledWith _ hCancelled)
      · simp [Flight.failed, hLive] at hFailed
    · exact h.replaced hOld hOld' hLt
  case known =>
    intro other j g hServes hBrought
    rcases serves_of_land hFlight hServes with ⟨_, rfl, rfl⟩ | ⟨_, hOld⟩
    · simp only [Flight.brought, Flight.result?_ended] at hBrought
      rw [get?_land]
      cases returned with
      | pantry p => simp [Larder.conclude]
      | other typeName => simp at hBrought
      | raised fault => simp at hBrought
    · exact isSome_get?_land i name returned (h.known hOld hBrought)
  case source =>
    intro other hGet
    by_cases hBrings : other = name ∧ ∃ p, returned = .pantry p
    · obtain ⟨rfl, p, rfl⟩ := hBrings
      refine Or.inl ⟨i, _, serves_land hFlight hFlight, ?_⟩
      simp [Flight.brought, Flight.result?_ended]
    · have hOld : (c.get? other).isSome := by
        rw [get?_land] at hGet
        split at hGet
        · rename_i pantry hResult
          split at hGet
          · rename_i hOther
            cases returned with
            | pantry p => exact absurd ⟨hOther, p, rfl⟩ hBrings
            | other typeName => simp [Larder.conclude] at hResult
            | raised fault => cases fault <;> simp [Larder.conclude] at hResult
          · exact hGet
        · exact hGet
      rcases h.source hOld with ⟨j, g, hServes, hBrought⟩ | hNo
      · refine Or.inl ⟨j, g, ?_, hBrought⟩
        have hNe : i ≠ j := by
          rintro rfl
          obtain rfl : f = g := Option.some.inj (hFlight.1.symm.trans hServes.1)
          simp [hNotBrought] at hBrought
        have hServes' : (c.land i name returned).Serves other j _ := serves_land hFlight hServes
        rwa [if_neg hNe] at hServes'
      · refine Or.inr fun j g hServes => ?_
        rcases serves_of_land hFlight hServes with ⟨_, rfl, _⟩ | ⟨_, hServes'⟩
        · exact hNo _ _ hFlight
        · exact hNo _ _ hServes'

-- ---------------------------------------------------------------------------
-- The seeds
-- ---------------------------------------------------------------------------

theorem ofSeeds_empty (seeds : Registry String Seed) :
    (ofSeeds seeds).pending = {} ∧ (ofSeeds seeds).flights = [] := by
  unfold ofSeeds
  -- no seed takes a slot or starts a discovery
  refine List.foldlRecOn (motive := fun c : Cache => c.pending = {} ∧ c.flights = []) _ _
    ⟨rfl, rfl⟩ fun c h entry _ => ?_
  cases entry.2 <;> exact h

/-- The cache that knows seeds only is coherent. -/
theorem coherent_ofSeeds (seeds : Registry String Seed) : (ofSeeds seeds).Coherent := by
  obtain ⟨hPending, hFlights⟩ := ofSeeds_empty seeds
  have hNo : ∀ name i f, ¬ (ofSeeds seeds).Serves name i f := by
    intro name i f hServes
    simp [Serves, hFlights] at hServes
  have hFree : ∀ name i, (ofSeeds seeds).pending.get? name ≠ some i := by
    intro name i hSlot
    rw [hPending] at hSlot
    exact absurd hSlot (by simp [Registry.get?, lookupPair])
  exact {
    slot := fun h => absurd h (hFree _ _)
    newest := fun h => absurd h (hFree _ _)
    held := fun h => absurd h (hNo _ _ _)
    consistent := fun {i f} h => absurd ⟨h, rfl⟩ (hNo f.call.name i f)
    replaced := fun h => absurd h (hNo _ _ _)
    known := fun h => absurd h (hNo _ _ _)
    source := fun _ => Or.inr (hNo _) }

end Cache

end Larder
