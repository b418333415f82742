import Larder.Proofs.Importer.Apart
import Larder.Proofs.Importer.Routing

/-!
# Larder — what leaves no trace

An import that comes to nothing must not leave anything half done behind: no slot that nobody fills,
no path that was taken down before the look-up failed, nothing given to a compilation whose outcome
is still to come. This module says for every way in which an import can be answered, deferred or
refused what it leaves as it was.

What a compilation has been given is the set of paths that decisions handed out (`GivenOnce`), and
whatever an action decides is answered to somebody by that action (`Covers`). So a compilation is
given something only in the very moment in which one of its imports is answered with it.

## Results

* `resolve_left`, `resolve_failure_keeps`: what is left to the host, and what fails at once, changes
  nothing at all.
* `emission_answered`: a compilation is given something only together with an answer.
* `Moves.locations`: the places that are kept are those of the location seeds that are not resolved.
* `failing_leaves_no_trace`: what comes to nothing leaves no trace.
-/

namespace Larder

namespace State

variable {env : Setup} {cancels : Prop} {config : Config} {s s' : State} {what : Import}
  {receiver : Receiver} {session : SessionId} {specifier : String} {citation : Citation}
  {settlement : Settlement}

-- ---------------------------------------------------------------------------
-- Answers
-- ---------------------------------------------------------------------------

/-- Whether an import is left to the host: a path from a root, a relative one that leads into no
resolved pantry, or something that only the host understands. -/
def LeftToHost (env : Setup) (s : State) (what : Import) : Prop :=
  match classify env.cwd what.specifier what.file with
  | .absolute _ => True
  | .unrecognized _ => True
  | .relative path => ∀ name P root, s.cache.get? name = some P → P.path = some root →
      env.cwd.isWithin path root = false
  | .ingredient _ => False

/-- What is left to the host is passed through, and nothing changes. -/
theorem resolve_left (h : s.LeftToHost env what) (receiver : Receiver) :
    s.resolve env what receiver = (s, .answered .passThrough) := by
  unfold LeftToHost at h
  split at h
  · rename_i path hClass
    exact resolve_absolute hClass
  · rename_i text hClass
    simp only [resolve, hClass]
  · rename_i path hClass
    have hOutside : ¬ s.inPantry env path = true := by
      intro hInside
      obtain ⟨P, hMem, hWithin⟩ := List.any_eq_true.mp hInside
      obtain ⟨name, hGet⟩ := Registry.mem_values_iff.mp hMem
      cases hRoot : P.path with
      | none => simp [hRoot] at hWithin
      | some root => simp [hRoot, h name P root hGet hRoot] at hWithin
    simp only [resolve, hClass, resolveRelative, if_neg hOutside]
  · exact absurd h id

/-- An answer for a path is no failure. -/
theorem giveOnce_ne_failure {path : Path} {fresh : Outcome} (hFresh : Fresh path fresh)
    (fault : Fault) : (s.giveOnce session path fresh).2 ≠ .failure specifier fault := by
  rcases giveOnce_cases s session path fresh with h | h <;> rw [h]
  · rcases hFresh.2 with rfl | rfl <;> simp
  · simp [Outcome.suppressed]

/-- What fails at once changes nothing. -/
theorem resolve_failure_keeps {fault : Fault}
    (h : (s.resolve env what receiver).2 = .answered (.failure specifier fault)) :
    (s.resolve env what receiver).1 = s := by
  rcases resolve_cases env s what receiver with
    ⟨path, fresh, hFresh, hResolve⟩ | ⟨_, hResolve⟩ | ⟨_, _, _, hResolve⟩ |
      ⟨_, _, _, hResolve⟩ <;>
    rw [hResolve] at h ⊢
  · exact absurd (Reply.answered.inj h) (giveOnce_ne_failure hFresh fault)
  · exact absurd h (by simp)
  · exact absurd h (by simp)

/-- What is deferred gives nothing to anybody. -/
theorem resolve_deferred_keeps {t : Ticket}
    (h : (s.resolve env what receiver).2 = .deferred t) :
    (s.resolve env what receiver).1.sessions = s.sessions := by
  rcases resolve_cases env s what receiver with
    ⟨_, _, _, hResolve⟩ | ⟨_, hResolve⟩ | ⟨citation, _, _, hResolve⟩ | ⟨_, _, _, hResolve⟩ <;>
    rw [hResolve] at h ⊢
  · exact absurd h (by simp)
  · exact congrArg Prod.fst (given_defer what.session what.specifier.text citation receiver)
  · exact absurd h (by simp)

/-- A failure that is delivered gives nothing to anybody either. -/
theorem complete_failure_keeps {told : String} {fault : Fault}
    (h : (s.complete env session specifier citation settlement).2 = .failure told fault) :
    (s.complete env session specifier citation settlement).1.sessions = s.sessions ∧
      (s.complete env session specifier citation settlement).1.cache = s.cache := by
  rcases complete_cases env s session specifier citation settlement with
    ⟨P, path, _, _, hNormal, hComplete⟩ | ⟨_, hComplete⟩ | ⟨_, _, hComplete⟩ <;>
    rw [hComplete] at h ⊢
  · exact absurd h (giveOnce_ne_failure ⟨hNormal, Or.inr rfl⟩ fault)
  · exact ⟨rfl, rfl⟩
  · exact ⟨rfl, rfl⟩

/-- What needs a discovery is refused without an event loop, and nothing is left of it but a note. -/
theorem resolve_idle (hIdle : env.running = false) (h : ¬ s.AtHand env what)
    (receiver : Receiver) : ∃ citation : Citation,
      classify env.cwd what.specifier what.file = .ingredient citation ∧
      s.resolve env what receiver =
        (s.note (.refused what.specifier.text citation.pantryName), .noLoop) := by
  obtain ⟨citation, hCited⟩ := not_forall.mp h
  obtain ⟨hClass, hNone⟩ := Classical.not_imp.mp hCited
  exact ⟨citation, hClass, resolve_noLoop hClass (not_not.mp hNone) hIdle⟩

-- ---------------------------------------------------------------------------
-- Runs
-- ---------------------------------------------------------------------------

/-- A compilation is given something only by an action that answers one of its imports with it. -/
theorem emission_answered (h : Moves env cancels (seeded config) s) (a : Action)
    (hChanged : (s.act env a).1.emission session ≠ s.emission session) :
    ∃ r ∈ s.receptions env a, r.session = session ∧ r.outcome.isReal = true := by
  have hGiven := h.givenOnce session (givenOnce_seeded config session)
  have hStep : Moves env True s (s.act env a).1 := act_moves a (fun _ => trivial) s
  have hCovers : Covers s (s.act env a).1 (s.receptions env a) := covers_act s a
  obtain ⟨new, hNew, hAnswered⟩ := hCovers session
  by_contra hNone
  -- otherwise no decision was made that hands out a path
  have hUnreal : new.filter (fun d => d.2.isReal) = [] := by
    rw [List.filter_eq_nil_iff]
    intro d hd hReal
    obtain ⟨r, hr, hSession, hOutcome⟩ := hAnswered d hd
    exact hNone ⟨r, hr, hSession, hOutcome ▸ hReal⟩
  refine hChanged (Emission.eq_of_perm ?_)
  have hReal := (hStep.givenOnce session hGiven).real
  rw [hNew, List.filter_append, hUnreal, List.append_nil] at hReal
  exact hReal.symm.trans hGiven.real

/-- The places that are kept are those of the location seeds that are not resolved. -/
theorem Moves.locations (h : Moves env cancels (seeded config) s) :
    s.cache.locations.entries =
      config.locations.filter fun entry => (s.cache.get? entry.1).isNone := by
  -- where the other pantries are looked for does not matter here
  have hRouted : s.fleet.Routed { config with searchPaths := env.searchPaths } :=
    Moves.routed h rfl
  exact hRouted.locations

/-- Without an event loop a prefetch is refused as long as a location seed is left to load. -/
theorem prefetch_idle (h : Moves env cancels (seeded config) s) {idle : Setup}
    (hIdle : idle.running = false) :
    ((∃ name path, config.pantries.get? name = some (.location path) ∧
        s.cache.get? name = none) → s.prefetch idle = (s, .noLoop)) ∧
    ((∀ name path, config.pantries.get? name = some (.location path) →
        s.cache.get? name ≠ none) → s.prefetch idle = (s, .done)) := by
  have hKeys : s.cache.locations.keys = (config.locations.filter fun entry =>
      (s.cache.get? entry.1).isNone).map Prod.fst := by
    rw [Registry.keys, h.locations]
  refine ⟨?_, fun hAll => ?_⟩
  · rintro ⟨name, path, hSeed, hNone⟩
    have hLeft : name ∈ s.cache.locations.keys := by
      rw [hKeys, List.mem_map]
      exact ⟨(name, path), List.mem_filter.mpr ⟨Config.mem_locations.mpr hSeed, by simp [hNone]⟩,
        rfl⟩
    simp only [prefetch, if_neg (List.ne_nil_of_mem hLeft), hIdle]
    rfl
  · have hNothing : s.cache.locations.keys = [] := by
      rw [hKeys, List.map_eq_nil_iff, List.filter_eq_nil_iff]
      rintro ⟨name, path⟩ hEntry
      have hGet := hAll name path (Config.mem_locations.mp hEntry)
      simpa using hGet
    simp only [prefetch, if_pos hNothing]

/-- **What comes to nothing leaves no trace.** In every reachable state: what is left to the host, and
what fails at once, changes nothing at all; what is answered at once changes nothing but what its own
compilation was given; a deferral gives nothing to anybody, no more than a failure that is delivered
later, and a compilation is given something only by an action that answers one of its imports with
it. Where no event loop is running, whatever needs a discovery is refused: a request for any pantry,
and a prefetch as long as a location seed is left to load, change nothing, and an import of what is
not at hand changes nothing but that the journal has a note of it. -/
theorem failing_leaves_no_trace (h : Reachable env config s) :
    (∀ what receiver, s.LeftToHost env what →
      s.resolve env what receiver = (s, .answered .passThrough)) ∧
    (∀ what receiver specifier fault,
      (s.resolve env what receiver).2 = .answered (.failure specifier fault) →
        (s.resolve env what receiver).1 = s) ∧
    (∀ what receiver, s.AtHand env what →
      (∃ outcome, (s.resolve env what receiver).2 = .answered outcome) ∧
        GivesOnly what.session s (s.resolve env what receiver).1) ∧
    (∀ what receiver t, (s.resolve env what receiver).2 = .deferred t →
      (s.resolve env what receiver).1.sessions = s.sessions) ∧
    (∀ session specifier citation settlement told fault,
      (s.complete env session specifier citation settlement).2 = .failure told fault →
        (s.complete env session specifier citation settlement).1.sessions = s.sessions ∧
        (s.complete env session specifier citation settlement).1.cache = s.cache) ∧
    (∀ a session, (s.act env a).1.emission session ≠ s.emission session →
      ∃ r ∈ s.receptions env a, r.session = session ∧ r.outcome.isReal = true) ∧
    ∀ idle : Setup, idle.running = false →
      (∀ what receiver, ¬ s.AtHand idle what → ∃ citation : Citation,
        classify idle.cwd what.specifier what.file = .ingredient citation ∧
        s.resolve idle what receiver =
          (s.note (.refused what.specifier.text citation.pantryName), .noLoop)) ∧
      (∀ name, s.act idle (.request name) = (s, .noLoop)) ∧
      ((∃ name path, config.pantries.get? name = some (.location path) ∧
        s.cache.get? name = none) → s.act idle .prefetch = (s, .noLoop)) ∧
      ((∀ name path, config.pantries.get? name = some (.location path) →
        s.cache.get? name ≠ none) → s.act idle .prefetch = (s, .done)) := by
  refine ⟨fun what receiver hLeft => resolve_left hLeft receiver,
    fun what receiver specifier fault hFailure => resolve_failure_keeps hFailure,
    fun what receiver hHand => ?_, fun what receiver t hDeferred => resolve_deferred_keeps hDeferred,
    fun _ _ _ _ _ _ hFailure => complete_failure_keeps hFailure,
    fun a session hChanged => emission_answered h.moves a hChanged, fun idle hIdle => ?_⟩
  · obtain ⟨outcome, hAnswer⟩ := answered_of_atHand hHand receiver
    exact ⟨⟨outcome, hAnswer⟩, resolve_answered hAnswer⟩
  · obtain ⟨hRefused, hNothing⟩ := prefetch_idle h.moves hIdle
    exact ⟨fun what receiver hNeeds => resolve_idle hIdle hNeeds receiver,
      fun name => act_request_noLoop hIdle, hRefused, hNothing⟩

/-- The event loop has stopped. -/
def stopped : Setup := { Setup.manual with running := false }

/-- A pantry is found that is known by its location, and another one is still looked for. -/
def halfway : State :=
  (actAll Setup.manual [.importing (citing "r/i") .stop, .tick,
    .release 0 ⟨[], .pantry ⟨none, some (.ofString "/p"), .empty⟩⟩, .tick, .tick]
    (create Setup.manual mapped)).1

/-- What fails changes nothing. Without an event loop the one pantry cannot be asked for, though it is
there, nor an ingredient of the other one be imported, though it is being looked for; only a prefetch
has nothing to do. At the beginning it had. -/
theorem failing_leaves_no_trace_halfway :
    let receiver : Receiver := .callback 7 .stop
    let s := create Setup.manual mapped
    Reachable Setup.manual mapped halfway ∧
      halfway.resolve Setup.manual (citing "p/x") receiver =
        (halfway, .answered (.failure "p/x" (.noIngredient "p" "x"))) ∧
      halfway.cache.isPending "r" = true ∧
      halfway.resolve stopped (citing "r/i") receiver =
        (halfway.note (.refused "r/i" "r"), .noLoop) ∧
      halfway.act stopped (.request "p") = (halfway, .noLoop) ∧
      halfway.act stopped .prefetch = (halfway, .done) ∧
      s.act stopped .prefetch = (s, .noLoop) := by
  intro receiver s
  have hReach : Reachable Setup.manual mapped halfway := .actAll _ .create
  obtain ⟨_, hFails, _, _, _, _, hStopped⟩ := failing_leaves_no_trace hReach
  obtain ⟨hImport, hRequest, _, hNothing⟩ := hStopped stopped rfl
  obtain ⟨_, _, _, _, _, _, hAtFirst⟩ := failing_leaves_no_trace (s := s) .create
  obtain ⟨_, _, hSomething, _⟩ := hAtFirst stopped rfl
  have hMissing : (halfway.resolve Setup.manual (citing "p/x") receiver).2 =
      .answered (.failure "p/x" (.noIngredient "p" "x")) := rfl
  have hLooked : ¬ halfway.AtHand stopped (citing "r/i") := fun hHand => hHand _ rfl rfl
  have hLoaded : ∀ name path, mapped.pantries.get? name = some (.location path) →
      halfway.cache.get? name ≠ none := by
    intro name path hSeed
    have hEntry : (name, Seed.location path) ∈ [("p", Seed.location (.ofString "/p")),
        ("q", .descriptor ⟨none, none, .empty⟩)] := Registry.get?_eq_some_iff.mp hSeed
    obtain ⟨rfl, _⟩ : name = "p" ∧ path = .ofString "/p" := by simpa using hEntry
    exact fun hNone => by cases hNone
  obtain ⟨citation, hClass, hRefused⟩ := hImport (citing "r/i") receiver hLooked
  obtain rfl := Reference.ingredient.inj hClass
  exact ⟨hReach, Prod.ext (hFails _ _ _ _ hMissing) hMissing, rfl, hRefused,
    hRequest "p", hNothing hLoaded, hSomething ⟨"p", _, rfl, rfl⟩⟩

end State

end Larder
