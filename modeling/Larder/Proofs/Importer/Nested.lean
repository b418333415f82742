import Larder.Proofs.Importer.Apart

/-!
# Larder — imports from inside a callback

A completion callback is called some time after the discovery that it waited for has ended. In
between other callbacks are called and import, tasks go on, promises are cancelled, and discoveries
that were given up come back and bring their pantry too. When the callback is called and imports
again, it relies on what held when its discovery ended.

What held then is that the pantry was resolved and the slot of its name free (`AtRest`). Nothing
takes that back: a discovery is started only for a name that is not resolved, so the slot stays
free, and whatever comes back late can only bring another version. So it holds as long as a job is
in the queue that tells of the pantry, and from then on.

## Results

* `Fleet.atRest_step`, `Moves.atRest`: a name at rest stays at rest.
* `EndsFor.atRest`, `Moves.told_atRest`: when a deferred import is told of a pantry, it is at rest.
* `nested_at_once`: imports of the pantry from inside the callback are answered at once.
-/

namespace Larder

-- ---------------------------------------------------------------------------
-- Names at rest
-- ---------------------------------------------------------------------------

/-- Whether a name is resolved and no discovery of it is pending. -/
structure Cache.AtRest (c : Cache) (name : String) : Prop where
  found : c.get? name ≠ none
  free : c.isPending name = false

namespace Cache

variable {c c' : Cache} {name : String}

theorem isPending_eq_false_iff : c.isPending name = false ↔ c.pending.get? name = none := by
  rw [isPending, Registry.contains, Option.isSome_eq_false_iff, Option.isNone_iff_eq_none]

theorem AtRest.frame (h : c.AtRest name) (hResolved : c'.resolved = c.resolved)
    (hPending : c'.pending = c.pending) : c'.AtRest name where
  found := by
    rw [get?, hResolved]
    exact h.found
  free := by
    rw [isPending, hPending]
    exact h.free

/-- A discovery is started for another name. -/
theorem AtRest.start (h : c.AtRest name) (searchPaths : List Path) {other : String}
    (hNone : c.get? other = none) : (c.start searchPaths other).AtRest name where
  found := h.found
  free := by
    have hNe : name ≠ other := by
      rintro rfl
      exact h.found hNone
    rw [isPending_eq_false_iff, Cache.start, Registry.get?_insert_of_ne _ _ hNe]
    exact isPending_eq_false_iff.mp h.free

/-- A discovery that ends may bring another version, and takes no slot. -/
theorem AtRest.land (h : c.AtRest name) (i : FlightId) (other : String) (returned : Returned) :
    (c.land i other returned).AtRest name where
  found := Option.isSome_iff_ne_none.mp
    (isSome_get?_land i other returned (Option.isSome_iff_ne_none.mpr h.found))
  free := by
    have hFree := isPending_eq_false_iff.mp h.free
    rw [isPending_eq_false_iff, pending_land]
    split
    · rw [Registry.get?_erase, hFree, ite_self]
    · exact hFree

end Cache

namespace Fleet

variable {env : Setup} {cancels : Prop} {F F' : Fleet} {name : String}

theorem atRest_step (hStep : Step env cancels F F') (h : F.cache.AtRest name) :
    F'.cache.AtRest name := by
  cases hStep with
  | start hNone => exact h.start _ hNone
  | wait => exact h.frame rfl rfl
  | cancel =>
    rw [Cache.settle_eq]
    exact h.frame rfl rfl
  | launch => exact h.frame rfl rfl
  | comeBack => exact h.frame rfl rfl
  | land => exact h.land _ _ _
  | drop => exact h

theorem atRest_steps (hSteps : Steps env cancels F F') (h : F.cache.AtRest name) :
    F'.cache.AtRest name := by
  induction hSteps with
  | refl => exact h
  | tail _ hStep ih => exact atRest_step hStep ih

end Fleet

namespace State

variable {env : Setup} {config : Config} {cancels : Prop} {s s' : State} {name : String}
  {V : String → Pantry → Prop} {w : Waiter} {P : Pantry} {what : Import}

/-- **A name at rest stays at rest.** -/
theorem Moves.atRest (hMoves : Moves env cancels s s') (h : s.cache.AtRest name) :
    s'.cache.AtRest name :=
  Fleet.atRest_steps (Moves.fleet hMoves) h

-- ---------------------------------------------------------------------------
-- What held when the discovery ended
-- ---------------------------------------------------------------------------

/-- The discovery that imports of a pantry wait for holds the slot of its name; so when it brings the
pantry, it frees the slot. -/
theorem EndsFor.atRest (h : EndsFor s s' (.kept P) w) (hSound : s.fleet.Sound)
    (hPosted : s.Posted V) (hCites : w.cites name = true) : s'.cache.AtRest name := by
  obtain ⟨i, f, returned, hFlight, hWaits, hKept, hCache⟩ := h
  obtain rfl : f.call.name = name := hPosted.call_name hFlight hWaits hCites
  have hSlot : s.cache.pending.get? f.call.name = some i :=
    slot_of_citing hSound hPosted hFlight
      (List.ne_nil_of_mem (List.mem_filter.mpr ⟨hWaits, hCites⟩))
  have hBrought : conclude f.call.name returned = .ok P := by
    cases hResult : conclude f.call.name returned <;>
      simp_all [Settlement.ofResult]
  rw [hCache]
  constructor
  case found => simp [Cache.get?_land, hBrought]
  case free => rw [Cache.isPending_eq_false_iff, Cache.pending_land, if_pos hSlot,
    Registry.get?_erase_self]

/-- **When a deferred import is told of a pantry, the pantry is at rest.** -/
theorem Moves.told_atRest (h : Moves env cancels (seeded config) s)
    (hJob : .notify (.kept P) w ∈ s.queue) (hCites : w.cites name = true) :
    s.cache.AtRest name := by
  induction h with
  | refl => exact absurd hJob (by simp [seeded])
  | tail hMoves hMove ih =>
    rcases hMove.notify_cases (Moves.sound hMoves) hJob hCites with hOld | ⟨_, hCancelled⟩ | hEnds
    · exact Moves.atRest (.single hMove) (ih hOld)
    · exact absurd hCancelled (by simp)
    · exact hEnds.atRest (Moves.sound hMoves) (Moves.posted hMoves) hCites

-- ---------------------------------------------------------------------------
-- Imports of a pantry at rest
-- ---------------------------------------------------------------------------

/-- Whether an import is answered at once: its compilation is given something, and otherwise nothing
changes. No discovery is started, and who would be told later is not kept. -/
def AnswersAtOnce (env : Setup) (s : State) (what : Import) : Prop :=
  ∃ s' outcome, GivesOnly what.session s s' ∧
    (∀ receiver, s.resolve env what receiver = (s', .answered outcome)) ∧
    ∀ script, s.importing env what script = (s', .answered outcome)

/-- Whether a pantry is at rest and every import of it is answered at once, in any compilation. -/
structure Provides (env : Setup) (s : State) (name : String) : Prop where
  rest : s.cache.AtRest name
  answers : ∀ session what, Import.Cites env.cwd session name what → s.AnswersAtOnce env what

/-- Only an outcome that passes the import through can be taken for a deferral. -/
theorem importing_of_ne_passThrough {script : Script} {outcome : Outcome}
    (hNe : outcome ≠ .passThrough)
    (h : s.resolve env what (.callback s.tickets script) = (s', .answered outcome)) :
    s.importing env what script = (s', .answered outcome) := by
  cases outcome <;> simp_all [importing]

theorem answersAtOnce_of_get? {session : SessionId} (hCites : what.Cites env.cwd session name)
    (hGet : s.cache.get? name = some P) : s.AnswersAtOnce env what := by
  obtain ⟨_, citation, hClass, rfl⟩ := hCites
  let r := s.resolveIn env what.session what.specifier.text P citation.ingredientName
  have hResolve : ∀ receiver, s.resolve env what receiver = (r.1, .answered r.2) := by
    intro receiver
    simp only [resolve, hClass, hGet]
    rfl
  have hGives : GivesOnly what.session s (s.resolve env what (.task 0)).1 :=
    resolve_answered (congrArg Prod.snd (hResolve (.task 0)))
  rw [hResolve] at hGives
  have hDelivered : r.2.IsDelivered :=
    isDelivered_complete env s what.session what.specifier.text citation (.kept P)
  exact ⟨r.1, r.2, hGives, hResolve, fun script =>
    importing_of_ne_passThrough hDelivered.ne_passThrough (hResolve _)⟩

theorem provides_of_atRest (h : s.cache.AtRest name) : s.Provides env name where
  rest := h
  answers := fun _ _ hCites =>
    have ⟨_, hGet⟩ := Option.ne_none_iff_exists'.mp h.found
    answersAtOnce_of_get? hCites hGet

-- ---------------------------------------------------------------------------
-- Callbacks
-- ---------------------------------------------------------------------------

/-- The imports that the script of a callback makes, each with the state in which it is made. -/
def scriptImports (env : Setup) (t : Ticket) : Script → State → List (State × Import)
  | .stop, _ => []
  | .fail, _ => []
  | .importing what receive next, s =>
    let r := s.importing env what receive
    (s, what) :: scriptImports env t next (r.1.note (.nested t r.2))

/-- The imports that are made from inside the callback that is called next, if one is. -/
def callbackImports (env : Setup) (s : State) : List (State × Import) :=
  match s.queue with
  | .notify settlement (.importing specifier citation session (.callback t script)) :: _ =>
    let r := s.pop.complete env session specifier citation settlement
    scriptImports env t script (r.1.note (.delivered t r.2))
  | _ => []

theorem scriptImports_moves {t : Ticket} {script : Script} {i : State × Import}
    (hIn : i ∈ scriptImports env t script s) : Moves env cancels s i.1 := by
  induction script generalizing s with
  | stop => cases hIn
  | fail => cases hIn
  | importing what receive next _ ih =>
    rcases List.mem_cons.mp hIn with rfl | hRest
    · exact .refl
    · exact ((importing_moves what receive s).tail (.remark rfl)).trans (ih hRest)

theorem callbackImports_moves {i : State × Import} (hIn : i ∈ s.callbackImports env) :
    Moves env cancels s i.1 := by
  unfold callbackImports at hIn
  split at hIn
  · rename_i hQueue
    exact .trans (.single (.deliver hQueue)) (scriptImports_moves hIn)
  · cases hIn

/-- **Imports from inside a callback are answered at once.** In every run, promises cancelled or not,
a callback that is called because a discovery brought a pantry finds that pantry at rest: resolved,
and no discovery of it pending. So are all imports of it answered at once that are made when the
callback is called or later, in any compilation; and so are those that the callback makes itself and
those that any later callback makes, however deeply they are nested. -/
theorem nested_at_once (h : Reachable env config s) {specifier : String} {citation : Citation}
    {session : SessionId} {receiver : Receiver} {rest : List Job}
    (hQueue : s.queue =
      .notify (.kept P) (.importing specifier citation session receiver) :: rest)
    (actions : List Action) :
    let name := citation.pantryName
    let called := (s.pop.complete env session specifier citation (.kept P)).1
    let later := (actAll env actions (s.tick env)).1
    called.Provides env name ∧
      (∀ i ∈ s.callbackImports env, i.2.Cites env.cwd i.2.session name →
        i.1.AnswersAtOnce env i.2) ∧
      later.Provides env name ∧
      ∀ i ∈ later.callbackImports env, i.2.Cites env.cwd i.2.session name →
        i.1.AnswersAtOnce env i.2 := by
  intro name called later
  have hRest : s.cache.AtRest name :=
    Moves.told_atRest h.moves (hQueue ▸ List.mem_cons_self)
      (by simp [Waiter.cites, Waiter.cited?, name])
  have hNested : ∀ {s' : State}, s'.cache.AtRest name → ∀ i ∈ s'.callbackImports env,
      i.2.Cites env.cwd i.2.session name → i.1.AnswersAtOnce env i.2 := by
    intro s' hRest' i hIn hCites
    have hMoves : Moves env True s' i.1 := callbackImports_moves hIn
    exact (provides_of_atRest (Moves.atRest hMoves hRest')).answers _ _ hCites
  have hCalled : called.cache = s.cache := by
    have hFleet : called.fleet = s.fleet := by
      rw [fleet_complete, fleet_pop hQueue fun _ => rfl]
    exact congrArg Fleet.cache hFleet
  have hLater : Moves env True s later :=
    tick_moves.trans (actAll_moves actions (fun _ _ _ => trivial) _)
  have hRestLater : later.cache.AtRest name := Moves.atRest hLater hRest
  exact ⟨provides_of_atRest (hCalled ▸ hRest), hNested hRest, provides_of_atRest hRestLater,
    hNested hRestLater⟩

/-- An import for another compilation. -/
def again : Import := ⟨.named "other", .str "p/i", .str "/other.scss"⟩

/-- A request is cancelled, and an import starts a second discovery, with a callback that imports
the same for another compilation. Then both discoveries bring the pantry, one after the other. -/
def returning : State :=
  (actAll Setup.manual [.request "p", .tick, .cancelRequest "p",
    .importing (citing "p/i") (.importing again .stop .stop), .tick, .tick,
    .release 0 ⟨[], .pantry stocked⟩, .release 1 ⟨[], .pantry stocked⟩, .tick, .tick]
    (create Setup.manual Config.bare)).1

/-- The callback is called next, and its import is answered at once. -/
theorem nested_at_once_returning :
    Reachable Setup.manual Config.bare returning ∧
      (∃ citation session receiver, citation.pantryName = "p" ∧ returning.queue =
        [.notify (.kept (stocked.named "p")) (.importing "p/i" citation session receiver)]) ∧
      (returning.callbackImports Setup.manual).map Prod.snd = [again] ∧
      (∀ i ∈ returning.callbackImports Setup.manual, i.1.AnswersAtOnce Setup.manual i.2) ∧
      (returning.tick Setup.manual).Provides Setup.manual "p" := by
  have hReach : Reachable Setup.manual Config.bare returning := .actAll _ .create
  have hCites : again.Cites Setup.manual.cwd (.named "other") "p" := ⟨rfl, _, rfl, rfl⟩
  have hImports : (returning.callbackImports Setup.manual).map Prod.snd = [again] := rfl
  obtain ⟨_, hNested, hLater, _⟩ := nested_at_once (P := stocked.named "p") hReach rfl []
  refine ⟨hReach, ⟨_, _, _, rfl, rfl⟩, hImports, fun i hIn => hNested i hIn ?_, hLater⟩
  have hAgain : i.2 ∈ [again] := hImports ▸ List.mem_map_of_mem hIn
  rw [List.mem_singleton.mp hAgain]
  exact hCites

end State

end Larder
