import Larder.Proofs.Importer.Later

/-!
# Larder — compilations do not interfere

Compilations share an importer, and with it what is known of the pantries. What an import is
answered with depends on that and on what its own compilation has been given before, and an answer
changes nothing but the latter. So a compilation whose pantries are at hand cannot tell whether
others import in between.

The argument compares two states that are the same for one compilation (`SameFor`): its own imports
are answered alike in both and leave them alike, and an import of another compilation leaves a state
as it was for this one.

## Results

* `resolve_answered`: what an answer at once leaves as it was.
* `SameFor.importing`, `sameFor_of_other`: one import of this compilation, and one of another.
* `compilations_apart`: among any others a compilation is answered as if it were alone.
-/

namespace Larder

/-- The imports of a compilation among those of all. -/
def importsOf (session : SessionId) (imports : List (Import × Script)) : List (Import × Script) :=
  imports.filter fun i => i.1.session = session

/-- Imports of the host, one after another. -/
def importingAll (imports : List (Import × Script)) : List Action :=
  imports.map fun i => .importing i.1 i.2

namespace State

variable {env : Setup} {s s₁ s₂ s₃ : State} {session : SessionId} {what : Import}

-- ---------------------------------------------------------------------------
-- Answers at once
-- ---------------------------------------------------------------------------

/-- Whether the pantry of an import is at hand, if it cites one. -/
def AtHand (env : Setup) (s : State) (what : Import) : Prop :=
  ∀ citation : Citation, classify env.cwd what.specifier what.file = .ingredient citation →
    s.cache.get? citation.pantryName ≠ none

/-- Whether all that happened between two states is that a compilation was given something. -/
structure GivesOnly (session : SessionId) (s s' : State) : Prop where
  cache : s'.cache = s.cache
  queue : s'.queue = s.queue
  tasks : s'.tasks = s.tasks
  tickets : s'.tickets = s.tickets
  others : ∀ other, other ≠ session → s'.emission other = s.emission other
  journal : ∃ es, s'.journal = es ++ s.journal ∧ ∀ e ∈ es, Event.isDecision e = true

theorem GivesOnly.refl (session : SessionId) (s : State) : GivesOnly session s s :=
  ⟨rfl, rfl, rfl, rfl, fun _ _ => rfl, [], rfl, by simp⟩

theorem givesOnly_giveOnce (s : State) (session : SessionId) (path : Path) (fresh : Outcome) :
    GivesOnly session s (s.giveOnce session path fresh).1 where
  cache := rfl
  queue := rfl
  tasks := rfl
  tickets := rfl
  others := fun other hOther => by rw [emission_giveOnce, if_neg hOther.symm]
  journal := ⟨[.decided session path.normalize (s.giveOnce session path fresh).2], rfl, by
    simp [Event.isDecision]⟩

/-- An import that is answered at once leaves everything as it was, but for what its compilation has
been given. -/
theorem resolve_answered {receiver : Receiver} {outcome : Outcome}
    (h : (s.resolve env what receiver).2 = .answered outcome) :
    GivesOnly what.session s (s.resolve env what receiver).1 := by
  rcases resolve_cases env s what receiver with
    ⟨path, fresh, _, hResolve⟩ | ⟨_, hResolve⟩ | ⟨_, _, _, hResolve⟩ | ⟨_, _, _, hResolve⟩ <;>
    rw [hResolve] at h ⊢
  · exact givesOnly_giveOnce s what.session path fresh
  · exact .refl _ _
  · exact absurd h (by simp)
  · exact absurd h (by simp)

/-- One whose pantry is at hand is answered at once. -/
theorem answered_of_atHand (hHand : s.AtHand env what) (receiver : Receiver) :
    ∃ outcome, (s.resolve env what receiver).2 = .answered outcome := by
  unfold resolve
  split
  · exact ⟨_, rfl⟩
  · exact ⟨_, rfl⟩
  · exact ⟨_, rfl⟩
  · rename_i citation hClass
    obtain ⟨pantry, hGet⟩ := Option.ne_none_iff_exists'.mp (hHand citation hClass)
    simp only [hGet]
    exact ⟨_, rfl⟩

-- ---------------------------------------------------------------------------
-- Two states that are the same for a compilation
-- ---------------------------------------------------------------------------

/-- Whether two states are the same as far as a compilation can tell: the same is known of the
pantries, and it has been given the same. -/
structure SameFor (session : SessionId) (s₁ s₂ : State) : Prop where
  cache : s₂.cache = s₁.cache
  emission : s₂.emission session = s₁.emission session

theorem SameFor.refl (session : SessionId) (s : State) : SameFor session s s := ⟨rfl, rfl⟩

theorem SameFor.symm (h : SameFor session s₁ s₂) : SameFor session s₂ s₁ :=
  ⟨h.cache.symm, h.emission.symm⟩

theorem SameFor.trans (h : SameFor session s₁ s₂) (h' : SameFor session s₂ s₃) :
    SameFor session s₁ s₃ :=
  ⟨h'.cache.trans h.cache, h'.emission.trans h.emission⟩

/-- In both, the compilation is given a path with the same outcome. -/
theorem SameFor.giveOnce (h : SameFor session s₁ s₂) (path : Path) (fresh : Outcome) :
    (s₂.giveOnce session path fresh).2 = (s₁.giveOnce session path fresh).2 ∧
      SameFor session (s₁.giveOnce session path fresh).1 (s₂.giveOnce session path fresh).1 := by
  refine ⟨?_, h.cache, ?_⟩
  · simp only [State.giveOnce, h.emission]
  · rw [emission_giveOnce, emission_giveOnce, if_pos rfl, if_pos rfl, h.emission]

/-- What an import is answered with depends on nothing else. -/
theorem SameFor.resolve (h : SameFor what.session s₁ s₂) (hHand : s₁.AtHand env what)
    (receiver₁ receiver₂ : Receiver) :
    (s₂.resolve env what receiver₂).2 = (s₁.resolve env what receiver₁).2 ∧
      SameFor what.session (s₁.resolve env what receiver₁).1 (s₂.resolve env what receiver₂).1 := by
  have hInside : ∀ path, s₂.inPantry env path = s₁.inPantry env path := fun path => by
    rw [inPantry, inPantry, h.cache]
  unfold State.resolve
  split
  · exact ⟨rfl, h⟩
  · exact ⟨rfl, h⟩
  · rename_i path _
    simp only [resolveRelative, hInside]
    split
    · obtain ⟨hOutcome, hSame⟩ := h.giveOnce path .passThrough
      exact ⟨congrArg Reply.answered hOutcome, hSame⟩
    · exact ⟨rfl, h⟩
  · rename_i citation hClass
    obtain ⟨pantry, hGet⟩ := Option.ne_none_iff_exists'.mp (hHand citation hClass)
    simp only [h.cache, hGet, resolveIn]
    split
    · exact ⟨rfl, h⟩
    · rename_i path _
      obtain ⟨hOutcome, hSame⟩ := h.giveOnce path (.file path.toString)
      exact ⟨congrArg Reply.answered hOutcome, hSame⟩

-- ---------------------------------------------------------------------------
-- One import
-- ---------------------------------------------------------------------------

/-- An import of the host is resolved, and may take a number besides: where the host cannot tell an
answer from a deferral. -/
theorem act_importing (s : State) (what : Import) (script : Script) :
    (s.act env (.importing what script)).1 =
        (s.resolve env what (.callback s.tickets script)).1 ∨
      (s.act env (.importing what script)).1 =
        (s.resolve env what (.callback s.tickets script)).1.takeTicket :=
  importing_eq env s what script

theorem sameFor_importing (session : SessionId) (s : State) (what : Import) (script : Script) :
    SameFor session (s.resolve env what (.callback s.tickets script)).1
      (s.act env (.importing what script)).1 := by
  rcases act_importing s what script with h | h <;> rw [h]
  · exact .refl _ _
  · exact ⟨rfl, rfl⟩

/-- An import of another compilation is not noticed. -/
theorem sameFor_of_other (hHand : s.AtHand env what) (hOther : what.session ≠ session)
    (script : Script) : SameFor session s (s.act env (.importing what script)).1 := by
  obtain ⟨outcome, hAnswer⟩ := answered_of_atHand hHand (.callback s.tickets script)
  have hGives := resolve_answered hAnswer
  exact .trans ⟨hGives.cache, hGives.others session hOther.symm⟩
    (sameFor_importing session s what script)

/-- An import at hand is answered, and the queue stays as it is. -/
theorem importing_atHand (hHand : s.AtHand env what) (script : Script) :
    (∃ outcome, s.receptions env (.importing what script) = [⟨.host, what.session, outcome⟩]) ∧
      (s.act env (.importing what script)).1.cache = s.cache ∧
      (s.act env (.importing what script)).1.queue = s.queue := by
  obtain ⟨outcome, hAnswer⟩ := answered_of_atHand hHand (.callback s.tickets script)
  have hGives := resolve_answered hAnswer
  refine ⟨⟨outcome, ?_⟩, ?_, ?_⟩
  · rw [receptions, hAnswer, Reply.receptions]
  · rcases act_importing s what script with h | h <;> rw [h] <;> exact hGives.cache
  · rcases act_importing s what script with h | h <;> rw [h] <;> exact hGives.queue

/-- An import of the compilation itself is answered alike in states that are the same for it, and
leaves them the same. -/
theorem SameFor.importing (h : SameFor what.session s₁ s₂) (hHand : s₁.AtHand env what)
    (script : Script) :
    s₂.receptions env (.importing what script) = s₁.receptions env (.importing what script) ∧
      SameFor what.session (s₁.act env (.importing what script)).1
        (s₂.act env (.importing what script)).1 := by
  obtain ⟨hReply, hSame⟩ :=
    h.resolve hHand (.callback s₁.tickets script) (.callback s₂.tickets script)
  refine ⟨congrArg (Reply.receptions .host what.session) hReply, ?_⟩
  exact ((sameFor_importing _ s₁ what script).symm.trans hSame).trans
    (sameFor_importing _ s₂ what script)

-- ---------------------------------------------------------------------------
-- Many imports
-- ---------------------------------------------------------------------------

theorem AtHand.congr (hCache : s₂.cache = s₁.cache) (hHand : s₁.AtHand env what) :
    s₂.AtHand env what := by
  intro citation hClass
  rw [hCache]
  exact hHand citation hClass

/-- As long as the pantries are at hand, nothing is started and everyone is answered. -/
theorem importingAll_atHand {imports : List (Import × Script)}
    (hHand : ∀ i ∈ imports, s.AtHand env i.1) :
    (actAll env (importingAll imports) s).1.cache = s.cache ∧
      (actAll env (importingAll imports) s).1.queue = s.queue ∧
      (allReceptions env (importingAll imports) s).map Reception.session =
        imports.map fun i => i.1.session := by
  induction imports generalizing s with
  | nil => exact ⟨rfl, rfl, rfl⟩
  | cons i rest ih =>
    obtain ⟨what, script⟩ := i
    obtain ⟨⟨outcome, hAnswer⟩, hCache, hQueue⟩ :=
      importing_atHand (hHand (what, script) List.mem_cons_self) script
    obtain ⟨hCacheRest, hQueueRest, hAnswers⟩ :=
      ih (s := (s.act env (.importing what script)).1)
        fun j hj => (hHand j (List.mem_cons_of_mem _ hj)).congr hCache
    refine ⟨hCacheRest.trans hCache, hQueueRest.trans hQueue, ?_⟩
    simp only [importingAll, List.map_cons, allReceptions, hAnswer, List.map_append]
    exact congrArg (what.session :: ·) hAnswers

theorem answersTo_importingAll (session : SessionId) (what : Import) (script : Script)
    (rest : List (Import × Script)) (s : State) :
    answersTo env session (importingAll ((what, script) :: rest)) s =
      (s.receptions env (.importing what script)).filterMap (Reception.forSession session) ++
        answersTo env session (importingAll rest) (s.act env (.importing what script)).1 := by
  simp only [answersTo, importingAll, List.map_cons, allReceptions, List.filterMap_append]

/-- From states that are the same for a compilation, all imports in the one and its own in the other
give it the same answers and leave the states the same for it. -/
theorem SameFor.importingAll {imports : List (Import × Script)} (h : SameFor session s₁ s₂)
    (hHand : ∀ i ∈ imports, s₁.AtHand env i.1) :
    answersTo env session (importingAll imports) s₁ =
        answersTo env session (importingAll (importsOf session imports)) s₂ ∧
      SameFor session (actAll env (Larder.importingAll imports) s₁).1
        (actAll env (Larder.importingAll (importsOf session imports)) s₂).1 := by
  induction imports generalizing s₁ s₂ with
  | nil => exact ⟨rfl, h⟩
  | cons i rest ih =>
    obtain ⟨what, script⟩ := i
    have hFirst : s₁.AtHand env what := hHand (what, script) List.mem_cons_self
    obtain ⟨⟨outcome, hAnswer⟩, hCache, _⟩ := importing_atHand hFirst script
    have hRest : ∀ j ∈ rest, (s₁.act env (.importing what script)).1.AtHand env j.1 :=
      fun j hj => (hHand j (List.mem_cons_of_mem _ hj)).congr hCache
    by_cases hOwn : what.session = session
    case pos =>
      subst hOwn
      obtain ⟨hReceptions, hSame⟩ := h.importing hFirst script
      obtain ⟨hAnswers, hEnd⟩ := ih hSame hRest
      have hKept : importsOf what.session ((what, script) :: rest) =
          (what, script) :: importsOf what.session rest :=
        List.filter_cons_of_pos (by simp)
      rw [hKept]
      refine ⟨?_, hEnd⟩
      rw [answersTo_importingAll, answersTo_importingAll, hReceptions, hAnswers]
    case neg =>
      have hSame := (sameFor_of_other hFirst hOwn script).symm.trans h
      obtain ⟨hAnswers, hEnd⟩ := ih hSame hRest
      have hDropped : importsOf session ((what, script) :: rest) = importsOf session rest :=
        List.filter_cons_of_neg (by simp [hOwn])
      rw [hDropped]
      refine ⟨?_, hEnd⟩
      rw [answersTo_importingAll, hAnswer, hAnswers]
      simp [Reception.forSession, hOwn]

/-- **Compilations do not interfere.** Whatever the state of the importer, and however the imports
of any number of compilations are interleaved: as long as the pantries that they cite are at hand,
each compilation is answered exactly as if its own imports were made alone in their order, with one
answer for each of them, and it is given the same paths. The importer comes to know nothing new, and
no job is left. -/
theorem compilations_apart {imports : List (Import × Script)} (session : SessionId)
    (hHand : ∀ i ∈ imports, s.AtHand env i.1) :
    let own := importsOf session imports
    let together := (actAll env (importingAll imports) s).1
    let alone := (actAll env (importingAll own) s).1
    answersTo env session (importingAll imports) s = answersTo env session (importingAll own) s ∧
      (answersTo env session (importingAll own) s).length = own.length ∧
      together.emission session = alone.emission session ∧
      together.cache = s.cache ∧ together.queue = s.queue := by
  intro own together alone
  obtain ⟨hAnswers, hSame⟩ := (SameFor.refl session s).importingAll hHand
  obtain ⟨hCache, hQueue, _⟩ := importingAll_atHand hHand
  have hOwn : ∀ i ∈ own, s.AtHand env i.1 := fun i hi => hHand i (List.mem_of_mem_filter hi)
  refine ⟨hAnswers, ?_, hSame.emission.symm, hCache, hQueue⟩
  -- alone, every answer goes to the compilation
  obtain ⟨_, _, hSessions⟩ := importingAll_atHand hOwn
  have hAll : ∀ r ∈ allReceptions env (importingAll own) s, r.session = session := by
    intro r hr
    have hIn := List.mem_map_of_mem (f := Reception.session) hr
    rw [hSessions] at hIn
    obtain ⟨i, hi, hSession⟩ := List.mem_map.mp hIn
    exact hSession ▸ of_decide_eq_true (List.mem_filter.mp hi).2
  have hHeard : answersTo env session (importingAll own) s =
      (allReceptions env (importingAll own) s).map Reception.outcome := by
    rw [answersTo, ← List.filterMap_eq_map]
    exact List.filterMap_congr fun r hr => by simp [Reception.forSession, hAll r hr]
  rw [hHeard, List.length_map, ← List.length_map (f := Reception.session), hSessions,
    List.length_map]

/-- Two compilations import the same ingredient, and each goes on; a third one imports a path from
the root in between. -/
def interleaved : List (Import × Script) :=
  [(⟨.named "left", .str "p/i", .str "/a.scss"⟩, .stop),
    (⟨.named "right", .str "p/i", .str "/a.scss"⟩, .stop),
    (⟨.unnamed 0, .str "/p/i/main.sass", .str "/a.scss"⟩, .fail),
    (⟨.named "left", .str "./main.sass", .str "/p/i/main.sass"⟩, .stop),
    (⟨.named "right", .str "p/x", .str "/a.scss"⟩, .fail),
    (⟨.named "right", .str "p/i", .str "/a.scss"⟩, .stop)]

/-- Each is given the entry point once, whatever the others were given. -/
theorem compilations_apart_interleaved :
    answersTo Setup.manual (.named "left") (importingAll interleaved)
        (create Setup.manual describing) = [.file "/p/i/main.sass", .suppressed] ∧
      answersTo Setup.manual (.named "right") (importingAll interleaved)
        (create Setup.manual describing) =
          [.file "/p/i/main.sass", .failure "p/x" (.noIngredient "p" "x"), .suppressed] ∧
      ∀ session, answersTo Setup.manual session (importingAll interleaved)
          (create Setup.manual describing) =
        answersTo Setup.manual session (importingAll (importsOf session interleaved))
          (create Setup.manual describing) := by
  refine ⟨rfl, rfl, fun session => (compilations_apart session ?_).1⟩
  have hPantry : (create Setup.manual describing).cache.get? "p" ≠ none :=
    fun hNone => by cases hNone
  have hCited : ∀ (specifier : String) {cited : Citation},
      classify Setup.manual.cwd (.str specifier) (.str "/a.scss") = .ingredient cited →
        cited.pantryName = "p" → ∀ session, (create Setup.manual describing).AtHand Setup.manual
          ⟨session, .str specifier, .str "/a.scss"⟩ := by
    intro specifier cited hCited hName session citation hClass
    obtain rfl := Reference.ingredient.inj (hCited.symm.trans hClass)
    rwa [hName]
  have hFound := hCited "p/i" rfl rfl
  have hMissing := hCited "p/x" rfl rfl
  simp only [interleaved, List.forall_mem_cons]
  exact ⟨hFound _, hFound _, nofun, nofun, hMissing _, hFound _, by simp⟩

end State

end Larder
