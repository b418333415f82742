import Larder.Proofs.Importer.Chronicle

/-!
# Larder — when a name is in exactly one state

A name should be absent, pending or resolved, and pending exactly while a discovery of it is in
flight. Runs without cancelled promises keep that law. A cancelled promise lets a second discovery
of a name start while the first goes on, and then the law breaks in two ways, and only in these.
Either the first one brings the pantry while the second still holds the slot: the name is resolved
and pending (`Outrun`). Or the second one ends first and gives the slot up: the name is not
pending, though a discovery of it is in flight (`Abandoned`).

What every run keeps, cancelled promises or not, is that no slot is leaked and none is stale
(`Tidy`): a slot is given up when its discovery ends, and a discovery whose promise may still be
kept holds the slot. So a request is given a promise that is still open.

## Results

* `slot_law_iff`: the law holds of a name unless it is outrun or abandoned.
* `no_stale_slot`: no slot is leaked or stale, and requests are given open promises.
-/

namespace Larder

namespace Cache

variable {c : Cache} {name : String}

/-- The law of the three states: a name is never resolved and pending, and it is pending exactly
while a discovery of it is in flight. -/
def Exclusive (c : Cache) (name : String) : Prop :=
  ¬ (c.get? name ≠ none ∧ c.isPending name = true) ∧ (c.isPending name = true ↔ c.InFlight name)

/-- A discovery whose promise was cancelled brought the pantry, and a newer one holds the slot. -/
def Outrun (c : Cache) (name : String) : Prop :=
  ∃ i j f g, c.Serves name i f ∧ c.Serves name j g ∧ i < j ∧ c.Newest name j ∧
    f.cancelled = true ∧ f.brought = true ∧ g.live = true

/-- A discovery whose promise was cancelled is in flight, and the newest one has ended. -/
def Abandoned (c : Cache) (name : String) : Prop :=
  ∃ i j f g, c.Serves name i f ∧ c.Serves name j g ∧ i < j ∧ c.Newest name j ∧
    f.cancelled = true ∧ f.live = true ∧ g.live = false

/-- No slot of a name is leaked or stale. -/
structure Tidy (c : Cache) (name : String) : Prop where
  -- a slot holds a discovery in flight, of which nothing is known except that it may be cancelled
  live : ∀ i, c.pending.get? name = some i → ∃ f, c.Serves name i f ∧ f.live = true ∧
    ∀ settlement, f.promise = .settled settlement → settlement = .cancelled
  -- one in flight that was not cancelled holds the slot, so there is one such at most
  held : ∀ i f, c.Serves name i f → f.live = true → f.cancelled = false →
    c.pending.get? name = some i
  alone : ∀ i j f g, c.Serves name i f → c.Serves name j g → f.live = true → g.live = true →
    f.cancelled = false → g.cancelled = false → i = j
  free : ¬ c.InFlight name → c.isPending name = false

theorem isPending_iff : c.isPending name = true ↔ ∃ i, c.pending.get? name = some i := by
  rw [isPending, Registry.contains, Option.isSome_iff_exists]

/-- A name of which there is a discovery has a newest one. -/
theorem exists_newest {i : FlightId} {f : Flight} (h : c.Serves name i f) :
    ∃ j g, c.Serves name j g ∧ c.Newest name j ∧ i ≤ j := by
  -- the distance to the end of the list shrinks as long as there is a newer one
  induction hFar : c.flights.length - i using Nat.strongRecOn generalizing i f with
  | _ n ih =>
    by_cases hNew : c.Newest name i
    · exact ⟨i, f, h, hNew, Nat.le_refl i⟩
    · simp only [Newest, Classical.not_forall] at hNew
      obtain ⟨k, g, hServes, hLt⟩ := hNew
      have hLt : i < k := Nat.lt_of_not_le hLt
      have hIn : k < c.flights.length := index_lt hServes
      obtain ⟨j, g', hServes', hNew', hLe⟩ := ih (c.flights.length - k)
        (hFar ▸ Nat.sub_lt_sub_left (Nat.lt_trans hLt hIn) hLt) hServes rfl
      exact ⟨j, g', hServes', hNew', Nat.le_trans (Nat.le_of_lt hLt) hLe⟩

/-- A pending name has a discovery in flight. -/
theorem Coherent.inFlight_of_isPending (h : c.Coherent) (hPending : c.isPending name = true) :
    c.InFlight name := by
  obtain ⟨i, hSlot⟩ := isPending_iff.mp hPending
  obtain ⟨f, hServes, hLive⟩ := h.slot hSlot
  exact ⟨i, f, hServes, hLive⟩

theorem Coherent.outrun_iff (h : c.Coherent) :
    c.get? name ≠ none ∧ c.isPending name = true ↔ c.Outrun name := by
  constructor
  · rintro ⟨hGet, hPending⟩
    obtain ⟨j, hSlot⟩ := isPending_iff.mp hPending
    obtain ⟨g, hServes, hLive⟩ := h.slot hSlot
    -- a discovery brought what is at hand; as it has ended, it is not the one in the slot
    rcases h.source (Option.isSome_iff_ne_none.mpr hGet) with ⟨i, f, hServes', hBrought⟩ | hNo
    · have hNe : i ≠ j := by
        rintro rfl
        obtain rfl : f = g := Option.some.inj (hServes'.1.symm.trans hServes.1)
        simp [Flight.not_live_of_brought hBrought] at hLive
      have hLt : i < j := Nat.lt_of_le_of_ne (h.newest hSlot i f hServes') hNe
      refine ⟨i, j, f, g, hServes', hServes, hLt, h.newest hSlot, ?_, hBrought, hLive⟩
      rcases h.replaced hServes' hServes hLt with hCancelled | hFailed
      · exact hCancelled
      · simp [Flight.not_failed_of_brought hBrought] at hFailed
    · exact absurd hServes (hNo j g)
  · rintro ⟨i, j, f, g, hServes, hServes', _, hNew, _, hBrought, hLive⟩
    have hKnown := h.known hServes hBrought
    exact ⟨Option.isSome_iff_ne_none.mp hKnown, isPending_iff.mpr ⟨j, h.held hServes' hLive hNew⟩⟩

theorem Coherent.abandoned_iff (h : c.Coherent) :
    c.InFlight name ∧ ¬ c.isPending name = true ↔ c.Abandoned name := by
  constructor
  · rintro ⟨⟨i, f, hServes, hLive⟩, hFree⟩
    obtain ⟨j, g, hServes', hNew, hLe⟩ := exists_newest hServes
    have hEnded : g.live = false := by
      rw [Bool.eq_false_iff]
      exact fun hLive' => hFree (isPending_iff.mpr ⟨j, h.held hServes' hLive' hNew⟩)
    have hNe : i ≠ j := by
      rintro rfl
      obtain rfl : f = g := Option.some.inj (hServes.1.symm.trans hServes'.1)
      simp [hEnded] at hLive
    have hLt : i < j := Nat.lt_of_le_of_ne hLe hNe
    refine ⟨i, j, f, g, hServes, hServes', hLt, hNew, ?_, hLive, hEnded⟩
    rcases h.replaced hServes hServes' hLt with hCancelled | hFailed
    · exact hCancelled
    · simp [Flight.not_failed_of_live hLive] at hFailed
  · rintro ⟨i, j, f, g, hServes, hServes', _, hNew, _, hLive, hEnded⟩
    refine ⟨⟨i, f, hServes, hLive⟩, fun hPending => ?_⟩
    -- the slot would be held by the newest discovery, which has ended
    obtain ⟨k, hSlot⟩ := isPending_iff.mp hPending
    obtain ⟨g', hServes'', hLive'⟩ := h.slot hSlot
    obtain rfl : k = j := Nat.le_antisymm (hNew k g' hServes'') (h.newest hSlot j g hServes')
    obtain rfl : g' = g := Option.some.inj (hServes''.1.symm.trans hServes'.1)
    simp [hEnded] at hLive'

theorem Coherent.exclusive_iff (h : c.Coherent) :
    c.Exclusive name ↔ ¬ c.Outrun name ∧ ¬ c.Abandoned name := by
  rw [Exclusive, h.outrun_iff, ← h.abandoned_iff]
  constructor
  · rintro ⟨hOne, hIff⟩
    exact ⟨hOne, fun hBoth => hBoth.2 (hIff.mpr hBoth.1)⟩
  · rintro ⟨hOne, hHeld⟩
    exact ⟨hOne, h.inFlight_of_isPending, fun hFlight =>
      Classical.byContradiction fun hFree => hHeld ⟨hFlight, hFree⟩⟩

/-- A discovery in flight was followed by another one only if it was cancelled. -/
theorem Coherent.newest_of_uncancelled (h : c.Coherent) {i : FlightId} {f : Flight}
    (hServes : c.Serves name i f) (hLive : f.live = true) (hKept : f.cancelled = false) :
    c.Newest name i := by
  intro j g hServes'
  refine Nat.le_of_not_lt fun hLater => ?_
  rcases h.replaced hServes hServes' hLater with hCancelled | hFailed
  · simp [hKept] at hCancelled
  · simp [Flight.not_failed_of_live hLive] at hFailed

theorem Coherent.tidy (h : c.Coherent) (name : String) : c.Tidy name := by
  have hHeld : ∀ i f, c.Serves name i f → f.live = true → f.cancelled = false →
      c.pending.get? name = some i := fun i f hServes hLive hKept =>
    h.held hServes hLive (h.newest_of_uncancelled hServes hLive hKept)
  constructor
  case live =>
    intro i hSlot
    obtain ⟨f, hServes, hLive⟩ := h.slot hSlot
    have hConsistent := h.consistent hServes.1
    unfold Flight.Consistent at hConsistent
    rw [Flight.live_iff.mp hLive] at hConsistent
    exact ⟨f, hServes, hLive, hConsistent⟩
  case held => exact hHeld
  case alone =>
    intro i j f g hServes hServes' hLive hLive' hKept hKept'
    have hSlot := hHeld i f hServes hLive hKept
    have hSlot' := hHeld j g hServes' hLive' hKept'
    exact Option.some.inj (hSlot.symm.trans hSlot')
  case free =>
    intro hNone
    rw [Bool.eq_false_iff]
    exact fun hPending => hNone (h.inFlight_of_isPending hPending)

/-- Whoever joins a discovery is given a promise that is still open. -/
theorem Coherent.waiting_of_joinable (h : c.Coherent) {i : FlightId}
    (hJoin : c.joinable? name = some i) : ∃ ws, c.promise? i = some (.waiting ws) := by
  obtain ⟨f, hServes, _, hOpen⟩ := (h.tidy name).live i (State.pending_of_joinable hJoin)
  have hPromise : c.promise? i = some f.promise := by rw [promise?, hServes.1, Option.map_some]
  cases hState : f.promise with
  | waiting ws => exact ⟨ws, by rw [hPromise, hState]⟩
  | settled settlement =>
    -- a cancelled promise is not joined
    obtain rfl := hOpen settlement hState
    unfold joinable? at hJoin
    rw [State.pending_of_joinable hJoin] at hJoin
    simp [hPromise, hState] at hJoin

end Cache

namespace State

variable {env : Setup} {config : Config} {s : State}

/-- **The law of the three states.** In every state that an importer can come to, it holds of a
name unless a discovery whose promise was cancelled has outrun the one in the slot, or is still in
flight after the slot was given up. -/
theorem slot_law_iff (h : Reachable env config s) (name : String) :
    s.cache.Exclusive name ↔ ¬ s.cache.Outrun name ∧ ¬ s.cache.Abandoned name :=
  h.sound.coherent.exclusive_iff

/-- A request is cancelled and made again; then the first discovery brings the pantry. -/
def outrunning : State :=
  (actAll Setup.manual [.request "p", .tick, .cancelRequest "p", .request "p", .tick,
    .release 0 ⟨[], .pantry ⟨none, none, .empty⟩⟩, .tick, .tick]
    (create Setup.manual Config.bare)).1

theorem outrun_outrunning : outrunning.cache.Outrun "p" := by
  have hLength : outrunning.cache.flights.length = 2 := rfl
  refine ⟨0, 1, _, _, ⟨rfl, rfl⟩, ⟨rfl, rfl⟩, Nat.zero_lt_one, ?_, rfl, rfl, rfl⟩
  intro j f hServes
  have hIn := Cache.index_lt hServes
  rw [hLength] at hIn
  exact Nat.le_of_lt_succ hIn

/-- So the law is not kept by every run: here the name is resolved and pending. -/
theorem slot_law_broken :
    Reachable Setup.manual Config.bare outrunning ∧ ¬ outrunning.cache.Exclusive "p" :=
  have h : Reachable Setup.manual Config.bare outrunning := .actAll _ .create
  ⟨h, fun hLaw => ((slot_law_iff h "p").mp hLaw).1 outrun_outrunning⟩

/-- **No slot is leaked or stale.** In every state that an importer can come to, cancelled promises
or not, the slot of a name is tidy. A request is given the pantry at hand, or a promise that nobody
had broken or cancelled before and that is open. -/
theorem no_stale_slot (h : Reachable env config s) (name : String) :
    s.cache.Tidy name ∧
    (∀ pantry, (s.request env name).2 = .ready pantry → s.cache.get? name = some pantry) ∧
    ∀ i, (s.request env name).2 = .shared i →
      (∀ settlement, s.cache.promise? i ≠ some (.settled settlement)) ∧
      ∃ ws, (s.request env name).1.cache.promise? i = some (.waiting ws) := by
  have hCoherent : s.cache.Coherent := h.sound.coherent
  refine ⟨hCoherent.tidy name, ?_⟩
  rcases request_cases env s name with ⟨p, hGet, hAsk⟩ | ⟨j, _, hJoin, hAsk⟩ | ⟨_, _, hAsk⟩ <;>
    rw [hAsk]
  · refine ⟨?_, by simp⟩
    rintro _ ⟨⟩
    exact hGet
  · refine ⟨by simp, ?_⟩
    rintro _ ⟨⟩
    obtain ⟨ws, hOpen⟩ : ∃ ws, s.cache.promise? j = some (.waiting ws) :=
      hCoherent.waiting_of_joinable hJoin
    exact ⟨by simp [hOpen], ws, hOpen⟩
  · -- the discovery that is started was not there before
    refine ⟨by simp, ?_⟩
    rintro _ ⟨⟩
    refine ⟨by simp [Cache.promise?], [], ?_⟩
    show ((s.cache.start env.searchPaths name).flights[s.cache.flights.length]?).map _ = _
    rw [Cache.getElem?_start, if_pos rfl]
    rfl

/-- After a cancelled discovery has come back, the slot is still held by the one that followed. -/
theorem no_stale_slot_outrunning :
    Reachable Setup.manual Config.bare outrunning ∧ outrunning.cache.Tidy "p" ∧
      outrunning.cache.pending.get? "p" = some 1 :=
  have h : Reachable Setup.manual Config.bare outrunning := .actAll _ .create
  ⟨h, (no_stale_slot h "p").1, rfl⟩

end State

end Larder
