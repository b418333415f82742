import Larder.Proofs.Importer.Line
import Larder.Proofs.Importer.Pledge
import Larder.Proofs.Importer.Seeds
import Larder.Proofs.Path.Names

/-!
# Larder — failures and what they are attributed to

A discovery call may come back with anything: a pantry, something else, absence, any exception. All
of it ends in the promise of the discovery, as a pantry or as a fault, and from there in the
outcomes of the imports that wait for it. An import itself is answered or deferred and nothing else.

A failed import says which specifier failed and what went wrong. Behind it is one of three causes:
the promise was cancelled, a discovery of the cited pantry came to a fault, or a version of that
pantry has no such entry point. Whether the fault also names the pantry that was cited depends on
the names that pantries carry: a pantry with a name of its own is reported under that one. A pantry
that is found in a directory tree carries the name that it was looked for by.

## Results

* `Flight.completion`: what a promise comes to that is not cancelled.
* `Discovery.answer_naming`: what a directory tree answers is about the pantry that was asked for.
* `Cause.names`: a fault names what was cited, if the pantries carry no other names.
* `failures_attributed`: every failure carries its specifier, and its fault has a cause.
-/

namespace Larder

-- ---------------------------------------------------------------------------
-- Vocabulary
-- ---------------------------------------------------------------------------

namespace Fault

/-- Whether an import can fail with a fault: a pantry is absent or could not be looked for, or it
has no such ingredient, or no entry point for it. -/
def isImportError : Fault → Bool
  | pantryNotFound .. => true
  | discoveryFailed .. => true
  | noIngredient .. => true
  | noEntryPoint .. => true
  | _ => false

/-- The pantry that a fault names. -/
def pantry? : Fault → Option String
  | pantryNotFound pantry _ => some pantry
  | discoveryFailed pantry _ => some pantry
  | noIngredient pantry _ => some pantry
  | noEntryPoint pantry _ _ => some pantry
  | _ => none

/-- The ingredient that a fault names. -/
def ingredient? : Fault → Option String
  | noIngredient _ ingredient => some ingredient
  | noEntryPoint _ ingredient _ => some ingredient
  | _ => none

/-- Whether a fault names the pantry of a citation and, where it names an ingredient, that of the
citation. -/
def Names (citation : Citation) (fault : Fault) : Prop :=
  fault.pantry? = some citation.pantryName ∧
    ∀ ingredient, fault.ingredient? = some ingredient → ingredient = citation.ingredientName

end Fault

/-- What the promise of a discovery comes to, if it is not cancelled. -/
inductive Flight.Completion (f : Flight) : Prop where
  | pending {ws} (hResult : f.result? = none) (hPromise : f.promise = .waiting ws)
  | pantry {p} (hResult : f.result? = some (.pantry p))
      (hPromise : f.promise = .settled (.kept (p.named f.call.name)))
  -- absence is passed on as it is
  | absent {pantry searched} (hResult : f.result? = some (.raised (.pantryNotFound pantry searched)))
      (hPromise : f.promise = .settled (.broken (.pantryNotFound pantry searched)))
  | raised {fault} (hResult : f.result? = some (.raised fault))
      (hOther : ∀ pantry searched, fault ≠ .pantryNotFound pantry searched)
      (hPromise : f.promise = .settled (.broken (.discoveryFailed f.call.name fault)))
  | noPantry {typeName} (hResult : f.result? = some (.other typeName))
      (hPromise : f.promise =
        .settled (.broken (.discoveryFailed f.call.name (.notAPantry typeName))))

/-- Whether all calls that came back were answered from directory trees, each from the tree as it
was then. -/
def Cache.FromTrees (c : Cache) : Prop :=
  ∀ f ∈ c.flights, ∀ returned, f.result? = some returned →
    ∃ d : Discovery, returned = (d.answer f.call).returned

/-- Whether the pantries that are known beforehand carry no names of their own. -/
def Config.Nameless (config : Config) : Prop :=
  ∀ name P, config.pantries.get? name = some (.descriptor P) → P.ownName? = none

/-- Whether a finding is about the pantry of a name. -/
structure Finding.Naming (name : String) (found : Finding) : Prop where
  pantry : ∀ p, found.result = .ok p → p.name = some name
  absent : ∀ pantry searched, found.result = .error (.pantryNotFound pantry searched) →
    pantry = name

-- ---------------------------------------------------------------------------
-- What promises come to
-- ---------------------------------------------------------------------------

/-- A promise that is not cancelled says exactly what its call came back with. -/
theorem Flight.completion {f : Flight} (h : f.Consistent) (hKept : f.cancelled = false) :
    f.Completion := by
  have hOpen : f.promise ≠ .settled .cancelled := by
    intro hCancelled
    simp [cancelled, hCancelled] at hKept
  unfold Consistent at h
  split at h
  · rename_i hResult
    cases hPromise : f.promise with
    | waiting ws => exact .pending hResult hPromise
    | settled x => exact absurd (h x hPromise ▸ hPromise) hOpen
  · rename_i returned hResult
    replace h := h.resolve_right hOpen
    cases returned with
    | pantry p => exact .pantry hResult h
    | other typeName => exact .noPantry hResult h
    | raised fault =>
      by_cases hAbsent : ∃ pantry searched, fault = .pantryNotFound pantry searched
      · obtain ⟨pantry, searched, rfl⟩ := hAbsent
        exact .absent hResult h
      · have hOther : ∀ pantry searched, fault ≠ .pantryNotFound pantry searched :=
          fun pantry searched hEq => hAbsent ⟨pantry, searched, hEq⟩
        rw [conclude_raised hOther] at h
        exact .raised hResult hOther h

-- ---------------------------------------------------------------------------
-- What directory trees answer
-- ---------------------------------------------------------------------------

namespace Discovery

theorem load_naming (d : Discovery) (name : String) (path : Path) :
    (d.load name path).Naming name := by
  unfold load
  simp only
  split
  · exact ⟨fun p hOk => by rw [← Except.ok.inj hOk], fun _ _ hError => absurd hError (by simp)⟩
  · exact ⟨fun _ hOk => absurd hOk (by simp), fun _ _ hError => absurd hError (by simp)⟩
  · refine ⟨fun _ hOk => absurd hOk (by simp), fun pantry searched hError => ?_⟩
    exact (Fault.pantryNotFound.inj (Except.error.inj hError)).1.symm

theorem discoverIn_naming (d : Discovery) (name : String) (all searchPaths : List Path) :
    (d.discoverIn name all searchPaths).Naming name := by
  induction searchPaths with
  | nil =>
    refine ⟨fun _ hOk => absurd hOk (by simp [discoverIn]), fun pantry searched hError => ?_⟩
    exact (Fault.pantryNotFound.inj (Except.error.inj hError)).1.symm
  | cons searchPath rest ih =>
    unfold discoverIn
    simp only
    split
    · rename_i fault hFault
      refine ⟨fun _ hOk => absurd hOk (by simp), fun pantry searched hError => ?_⟩
      -- the only fault on the way is a name that is too long
      unfold isDirectory at hFault
      split at hFault <;> simp_all
    · have hLoad := d.load_naming name (candidate name searchPath)
      exact ⟨hLoad.pantry, hLoad.absent⟩
    · exact ih

/-- What a directory tree answers is about the pantry that was asked for. -/
theorem answer_naming (d : Discovery) (call : Call) :
    (∀ p, (d.answer call).returned = .pantry p → p.name = some call.name) ∧
    ∀ pantry searched, (d.answer call).returned = .raised (.pantryNotFound pantry searched) →
      pantry = call.name := by
  have hFinding : ∀ found : Finding, found.Naming call.name →
      (∀ p, found.landing.returned = .pantry p → p.name = some call.name) ∧
      ∀ pantry searched, found.landing.returned = .raised (.pantryNotFound pantry searched) →
        pantry = call.name := by
    intro found hNaming
    unfold Finding.landing
    simp only
    split
    · rename_i p hOk
      exact ⟨fun q hEq => Returned.pantry.inj hEq ▸ hNaming.pantry p hOk,
        fun _ _ hEq => absurd hEq (by simp)⟩
    · rename_i fault hError
      exact ⟨fun _ hEq => absurd hEq (by simp),
        fun pantry searched hEq =>
          hNaming.absent pantry searched (Returned.raised.inj hEq ▸ hError)⟩
  unfold answer
  split
  · exact hFinding _ (d.discoverIn_naming _ _ _)
  · exact hFinding _ (d.load_naming _ _)

end Discovery

/-- A pantry that carries no other name goes by the registered one. -/
theorem Pantry.displayName_named {p : Pantry} {name : String}
    (hOwn : p.ownName? = none ∨ p.name = some name) (hName : name ≠ "") :
    (p.named name).displayName = name := by
  unfold named
  rcases hOwn with hNone | hSame
  · rw [hNone]
    simp [displayName, ownName?, Option.filter_some, hName]
  · have hOwn : p.ownName? = some name := by simp [ownName?, hSame, hName]
    rw [hOwn]
    simp [displayName, hOwn]

namespace State

variable {env : Setup} {cancels : Prop} {config : Config} {s s' : State} {citation : Citation}
  {fault : Fault} {written : String}

-- ---------------------------------------------------------------------------
-- Why imports fail
-- ---------------------------------------------------------------------------

/-- Why an import of an ingredient fails. -/
inductive Cause (env : Setup) (config : Config) (s : State) (citation : Citation) : Fault → Prop where
  -- its promise was cancelled
  | cancelled : Cause env config s citation (.discoveryFailed citation.pantryName Fault.cancelled)
  -- a discovery of its pantry came to the fault
  | failed {fault : Fault} (hCame : s.cache.CameTo citation.pantryName (.broken fault)) :
      Cause env config s citation fault
  -- its pantry has no such entry point
  | lacking {P : Pantry} {fault : Fault} (hVersion : P ∈ s.versions config citation.pantryName)
      (hEntry : P.entryPointFor env.cwd citation.ingredientName Pantry.styleKind = .error fault) :
      Cause env config s citation fault

/-- What caused a failure stays a cause. -/
theorem Cause.of_moves (h : s.Cause env config citation fault) (hSound : s.fleet.Sound)
    (hMoves : Moves env cancels s s') : s'.Cause env config citation fault := by
  cases h with
  | cancelled => exact .cancelled
  | failed hCame => exact .failed (cameTo_of_moves hSound hMoves hCame)
  | lacking hVersion hEntry =>
    exact .lacking ((Moves.versions_suffix hMoves config _).subset hVersion) hEntry

/-- What an import is told is the cause of its failure. -/
theorem Cause.of_complete (hMoves : Moves env cancels (seeded config) s) {session : SessionId}
    {specifier : String} {settlement : Settlement}
    (hKnown : s.Known config citation.pantryName settlement)
    (hFails : (s.complete env session specifier citation settlement).2 = .failure written fault) :
    written = specifier ∧ s.Cause env config citation fault := by
  cases settlement with
  | kept P =>
    rcases resolveIn_cases env s session specifier P citation.ingredientName with
      ⟨path, _, _, h⟩ | ⟨other, hEntry, h⟩
    · -- an entry point that is found is no failure
      replace hFails : (s.giveOnce session path (.file path.toString)).2 =
        .failure written fault := h ▸ hFails
      simp only [giveOnce, Emission.answer] at hFails
      split at hFails <;> simp [Outcome.suppressed] at hFails
    · replace hFails : Outcome.failure specifier other = .failure written fault := by
        rw [← hFails, complete, h]
      obtain ⟨rfl, rfl⟩ := Outcome.failure.inj hFails
      exact ⟨rfl, .lacking (hMoves.known_kept_iff.mp hKnown) hEntry⟩
  | broken other =>
    obtain ⟨rfl, rfl⟩ := Outcome.failure.inj hFails
    rcases hKnown with hCancelled | hCame | ⟨P, _, hKept⟩
    · exact absurd hCancelled (by simp)
    · exact ⟨rfl, .failed hCame⟩
    · exact absurd hKept (by simp)
  | cancelled =>
    obtain ⟨rfl, rfl⟩ := Outcome.failure.inj hFails
    exact ⟨rfl, .cancelled⟩

theorem entryPointFor_error {P : Pantry} {cwd : Path} {ingredient kind : String}
    (h : P.entryPointFor cwd ingredient kind = .error fault) :
    fault = .noIngredient P.displayName ingredient ∨
      fault = .noEntryPoint P.displayName ingredient kind := by
  unfold Pantry.entryPointFor at h
  split at h
  · exact Or.inl (Except.error.inj h).symm
  · split at h
    · exact Or.inr (Except.error.inj h).symm
    · exact absurd h (by simp)

/-- What is not a pantry is concluded to absence, or to a failed discovery. -/
theorem conclude_error {name : String} {returned : Returned}
    (h : conclude name returned = .error fault) :
    (∃ pantry searched, returned = .raised (.pantryNotFound pantry searched) ∧
      fault = .pantryNotFound pantry searched) ∨ ∃ cause, fault = .discoveryFailed name cause := by
  cases returned with
  | pantry p => simp [conclude] at h
  | other typeName => exact Or.inr ⟨_, (Except.error.inj h).symm⟩
  | raised cause =>
    by_cases hAbsent : ∃ pantry searched, cause = .pantryNotFound pantry searched
    · obtain ⟨pantry, searched, rfl⟩ := hAbsent
      exact Or.inl ⟨pantry, searched, rfl, (Except.error.inj h).symm⟩
    · rw [conclude_raised fun pantry searched hEq => hAbsent ⟨pantry, searched, hEq⟩] at h
      exact Or.inr ⟨_, (Except.error.inj h).symm⟩

theorem error_of_cameTo {name : String} (h : s.cache.CameTo name (.broken fault)) :
    ∃ i f returned, s.cache.Serves name i f ∧ f.result? = some returned ∧
      conclude name returned = .error fault := by
  obtain ⟨i, f, returned, hServes, hResult, hBroken⟩ := h
  refine ⟨i, f, returned, hServes, hResult, ?_⟩
  cases hConclude : conclude name returned with
  | ok P => simp [hConclude, Settlement.ofResult] at hBroken
  | error other =>
    rw [hConclude] at hBroken
    rw [Settlement.broken.inj hBroken]

theorem Cause.isImportError (h : s.Cause env config citation fault) :
    fault.isImportError = true := by
  cases h with
  | cancelled => rfl
  | failed hCame =>
    obtain ⟨_, _, _, _, _, hError⟩ := error_of_cameTo hCame
    rcases conclude_error hError with ⟨_, _, _, rfl⟩ | ⟨_, rfl⟩ <;> rfl
  | lacking _ hEntry => rcases entryPointFor_error hEntry with rfl | rfl <;> rfl

/-- The versions of a pantry go by its registered name, if they carry no others. -/
theorem displayName_of_version (hMoves : Moves env cancels (seeded config) s)
    (hTrees : s.cache.FromTrees) (hNameless : config.Nameless) {name : String} (hName : name ≠ "")
    {P : Pantry} (hVersion : P ∈ s.versions config name) : P.displayName = name := by
  rcases hMoves.mem_versions.mp hVersion with ⟨i, f, hServes, hBrings⟩ | hSeed
  · unfold Flight.brings at hBrings
    split at hBrings
    · rename_i p hResult
      obtain ⟨d, hAnswer⟩ := hTrees f (List.mem_of_getElem? hServes.1) _ hResult
      have hFound := (d.answer_naming f.call).1 p hAnswer.symm
      rw [← Option.some.inj hBrings, hServes.2] at *
      exact Pantry.displayName_named (Or.inr hFound) hName
    · exact absurd hBrings (by simp)
  · rw [get?_ofSeeds] at hSeed
    split at hSeed
    · rename_i p hGet
      rw [← Option.some.inj hSeed]
      exact Pantry.displayName_named (Or.inl (hNameless name p hGet)) hName
    · exact absurd hSeed (by simp)

/-- A fault names what was cited, if the pantries carry no other names. -/
theorem Cause.names (h : s.Cause env config citation fault)
    (hMoves : Moves env cancels (seeded config) s) (hTrees : s.cache.FromTrees)
    (hNameless : config.Nameless) : fault.Names citation := by
  have hNone : ∀ {fault : Fault}, fault.pantry? = some citation.pantryName →
      fault.ingredient? = none → fault.Names citation :=
    fun hPantry hIngredient => ⟨hPantry, fun _ hSome => absurd (hIngredient ▸ hSome) (by simp)⟩
  cases h with
  | cancelled => exact hNone rfl rfl
  | failed hCame =>
    obtain ⟨i, f, returned, hServes, hResult, hError⟩ := error_of_cameTo hCame
    rcases conclude_error hError with ⟨pantry, searched, rfl, rfl⟩ | ⟨cause, rfl⟩
    · obtain ⟨d, hAnswer⟩ := hTrees f (List.mem_of_getElem? hServes.1) _ hResult
      have hName := (d.answer_naming f.call).2 pantry searched hAnswer.symm
      exact hNone (by rw [hName, hServes.2]; rfl) rfl
    · exact hNone rfl rfl
  | lacking hVersion hEntry =>
    have hName := displayName_of_version hMoves hTrees hNameless
      citation.pantryName_ne_empty hVersion
    rcases entryPointFor_error hEntry with rfl | rfl <;> rw [hName] <;>
      exact ⟨rfl, fun _ hSome => (Option.some.inj hSome).symm⟩

-- ---------------------------------------------------------------------------
-- Imports
-- ---------------------------------------------------------------------------

/-- What holds of a failure: its specifier is a citation, its fault is one that imports fail with
and has a cause, and it names what was cited, if the pantries carry no other names. -/
structure Attributed (env : Setup) (config : Config) (s : State) (written : String)
    (citation : Citation) (fault : Fault) : Prop where
  spelled : Citation.ofString? written = some citation
  kind : fault.isImportError = true
  cause : s.Cause env config citation fault
  names : s.cache.FromTrees → config.Nameless → fault.Names citation

theorem Cause.attributed (h : s.Cause env config citation fault)
    (hMoves : Moves env cancels (seeded config) s)
    (hSpelled : Citation.ofString? written = some citation) :
    s.Attributed env config written citation fault :=
  ⟨hSpelled, h.isImportError, h, h.names hMoves⟩

/-- An import that fails at once cites a pantry at hand. -/
theorem resolve_failure {what : Import} {receiver : Receiver}
    (h : (s.resolve env what receiver).2 = .answered (.failure written fault)) :
    ∃ citation P, what.specifier = .str written ∧ Citation.ofString? written = some citation ∧
      s.cache.get? citation.pantryName = some P ∧
      P.entryPointFor env.cwd citation.ingredientName Pantry.styleKind = .error fault := by
  unfold resolve at h
  split at h
  · exact absurd h (by simp)
  · exact absurd h (by simp)
  · replace h := Reply.answered.inj h
    unfold resolveRelative at h
    split at h
    · simp only [giveOnce, Emission.answer] at h
      split at h <;> simp [Outcome.suppressed] at h
    · exact absurd h (by simp)
  · rename_i citation hClass
    obtain ⟨specifier, hText, hSpelled⟩ := written_of_classify hClass
    simp only at h
    split at h
    · rename_i P hGet
      rcases resolveIn_cases env s what.session what.specifier.text P citation.ingredientName with
        ⟨path, _, _, hIn⟩ | ⟨other, hEntry, hIn⟩
      · rw [hIn] at h
        replace h := Reply.answered.inj h
        simp only [giveOnce, Emission.answer] at h
        split at h <;> simp [Outcome.suppressed] at h
      · rw [hIn] at h
        obtain ⟨rfl, rfl⟩ := Outcome.failure.inj (Reply.answered.inj h)
        rw [hText]
        exact ⟨citation, P, rfl, hSpelled, hGet, hEntry⟩
    · split at h <;> exact absurd h (by simp)

/-- An import that is deferred is noted with its specifier. -/
theorem lastDeferred?_defer (session : SessionId) (specifier : String) (citation : Citation)
    (receiver : Receiver) :
    lastDeferred? receiver.ticket (s.defer env session specifier citation receiver).journal =
      some (specifier, citation.pantryName) := by
  rw [← lastDeferred?_filter]
  show lastDeferred? _ (s.defer env session specifier citation receiver).desk.log = _
  rw [log_defer, lastDeferred?, if_pos rfl]

/-- Whether the answer under a number, after the events before, is that of the import deferred last
under it, which was told at some moment what was known of its pantry. -/
def Told (env : Setup) (cancels : Prop) (config : Config) (s : State) (t : Ticket)
    (outcome : Outcome) (before : List Event) : Prop :=
  ∃ s₁ session specifier citation settlement,
    Moves env cancels (seeded config) s₁ ∧ Moves env cancels s₁ s ∧
    s₁.Known config citation.pantryName settlement ∧
    Citation.ofString? specifier = some citation ∧
    lastDeferred? t before = some (specifier, citation.pantryName) ∧
    (s₁.complete env session specifier citation settlement).2 = outcome

/-- What is right of an answer, after the events before: it is that of the import deferred last under
its number, unless the import is bound to no compilation, and then it is a failure. -/
def Comes (env : Setup) (cancels : Prop) (config : Config) (s : State) (e : Event)
    (before : List Event) : Prop :=
  ∀ t outcome, e.answerTo? = some t → e.answer? = some outcome →
    (IsUnbound s.tasks t ∧ ∃ written fault, outcome = .failure written fault) ∨
      s.Told env cancels config t outcome before

theorem Comes.of_moves {e : Event} {before : List Event}
    (h : s.Comes env cancels config e before) (hSound : s.fleet.Sound)
    (hAccounts : s.desk.Accounts) (hMoves : Moves env cancels s s') :
    s'.Comes env cancels config e before := by
  intro t outcome hTo hOutcome
  rcases h t outcome hTo hOutcome with ⟨hUnbound, hFails⟩ | hTold
  · exact Or.inl ⟨hAccounts.isUnbound_steps (Moves.desk hSound hMoves) hUnbound, hFails⟩
  · obtain ⟨s₁, session, specifier, citation, settlement, hStart, hThen, hRest⟩ := hTold
    exact Or.inr ⟨s₁, session, specifier, citation, settlement, hStart, hThen.trans hMoves, hRest⟩

/-- **Every answer that is delivered is that of the import it answers.** -/
theorem Moves.comes (h : Moves env cancels (seeded config) s) :
    ∀ e before, e :: before <:+ s.desk.log → s.Comes env cancels config e before := by
  induction h with
  | refl =>
    intro e before hSuffix
    have hNone : (seeded config).desk.log = [] := rfl
    simp [hNone] at hSuffix
  | @tail s₁ s₂ hMoves hMove ih =>
    have hSound : s₁.fleet.Sound := Moves.sound hMoves
    have hAccounts : s₁.desk.Accounts := Moves.accounts hMoves
    have hInformed := Moves.informed hMoves
    have hOld : ∀ e before, e :: before <:+ s₁.desk.log → s₂.Comes env cancels config e before :=
      fun e before hSuffix => (ih e before hSuffix).of_moves hSound hAccounts (.single hMove)
    -- only what is told now is new
    have hMore : ∀ e₀, s₂.desk.log = e₀ :: s₁.desk.log →
        s₁.Comes env cancels config e₀ s₁.desk.log →
        ∀ e before, e :: before <:+ s₂.desk.log → s₂.Comes env cancels config e before := by
      intro e₀ hLog hNew e before hSuffix
      rw [hLog, List.suffix_cons_iff] at hSuffix
      rcases hSuffix with hHead | hTail
      · obtain ⟨rfl, rfl⟩ := List.cons.inj hHead
        exact hNew.of_moves hSound hAccounts (.single hMove)
      · exact hOld e before hTail
    cases hMove.shift hSound (Moves.posted hMoves) hAccounts with
    | keep hLog => exact fun e before hSuffix => hOld e before (hLog ▸ hSuffix)
    | join hLog => exact hMore _ hLog fun _ _ hTo => absurd hTo (by simp [Event.answerTo?])
    | @leave settlement specifier citation session receiver e hJob hAnswer hOutcome hLog =>
      refine hMore e hLog fun t outcome hTo hTold => Or.inr ?_
      have hKnown : s₁.Known config citation.pantryName settlement :=
        hInformed.told _ _ _ hJob rfl
      have hWaiting : .importing specifier citation session receiver ∈ s₁.desk.waiting :=
        List.mem_append_right _ (List.mem_flatMap.mpr ⟨_, hJob, List.mem_singleton_self _⟩)
      obtain ⟨hSpelled, hLast⟩ := Moves.written hMoves _ _ _ _ hWaiting
      obtain rfl := Option.some.inj (hAnswer.symm.trans hTo)
      exact ⟨s₁, session, specifier, citation, settlement, hMoves, .refl, hKnown, hSpelled, hLast,
        Option.some.inj (hOutcome.symm.trans hTold)⟩
    | @apart t written fault hUnbound hLog =>
      refine hMore _ hLog fun u outcome hTo hTold => Or.inl ?_
      obtain rfl : t = u := Option.some.inj hTo
      exact ⟨hUnbound, written, fault, (Option.some.inj hTold).symm⟩

/-- So it is in the journal, which tells other events too. -/
theorem Moves.answers_journal (h : Moves env cancels (seeded config) s) {t : Ticket} {e : Event}
    {before : List Event} {outcome : Outcome} (hSuffix : e :: before <:+ s.journal)
    (hTo : e.answerTo? = some t) (hOutcome : e.answer? = some outcome) :
    (IsUnbound s.tasks t ∧ ∃ written fault, outcome = .failure written fault) ∨
      s.Told env cancels config t outcome before := by
  have hKind : e.isDelivery = true := by cases e <;> simp_all [Event.answerTo?, Event.isDelivery]
  have hLog : e :: before.filter Event.isDelivery <:+ s.desk.log := by
    have hFilter := hSuffix.filter Event.isDelivery
    rwa [List.filter_cons_of_pos hKind] at hFilter
  have hComes := h.comes e _ hLog t outcome hTo hOutcome
  simpa only [Told, lastDeferred?_filter] using hComes

/-- What is right of an answer to a deferred import, after the events before: a failure is that of
the import deferred last, unless the import is bound to no compilation. -/
def Answers (env : Setup) (config : Config) (s : State) (e : Event) (before : List Event) : Prop :=
  ∀ t written fault, e.answerTo? = some t → e.answer? = some (.failure written fault) →
    IsUnbound s.tasks t ∨ ∃ citation, Citation.ofString? written = some citation ∧
      lastDeferred? t before = some (written, citation.pantryName) ∧
      s.Cause env config citation fault

/-- So every failure that is delivered has a cause. -/
theorem Moves.answers (h : Moves env cancels (seeded config) s) :
    ∀ e before, e :: before <:+ s.desk.log → s.Answers env config e before := by
  intro e before hSuffix t written fault hTo hFails
  rcases h.comes e before hSuffix t _ hTo hFails with ⟨hUnbound, _⟩ | hTold
  · exact Or.inl hUnbound
  · obtain ⟨s₁, session, specifier, citation, settlement, hStart, hThen, hKnown, hSpelled, hLast,
      hOutcome⟩ := hTold
    obtain ⟨rfl, hCause⟩ := Cause.of_complete hStart hKnown hOutcome
    exact Or.inr ⟨citation, hSpelled, hLast, hCause.of_moves (Moves.sound hStart) hThen⟩

-- ---------------------------------------------------------------------------
-- Runs
-- ---------------------------------------------------------------------------

/-- **Failures are contained, and attributed to what was imported.** In every state that an importer
in a running event loop comes to, also in the middle of a job, and whatever its discovery calls came
back with: a promise that is not cancelled says exactly what its call came back with, and it is
settled once the call has come back and no job is left. An import is answered or deferred, and a
deferral is noted with the specifier as it is written. A failure, at once or delivered, carries that
specifier; its fault is one that imports fail with and has a cause, and where the calls are answered
from directory trees and the pantries known beforehand carry no names of their own, it names the
pantry and the ingredient that the specifier cites. -/
theorem failures_attributed (h : Moves env cancels (seeded config) s)
    (hRunning : env.running = true) :
    (∀ f ∈ s.cache.flights, f.cancelled = false →
      f.Completion ∧ (s.queue = [] → f.result? = none → f.stage = .flying)) ∧
    (∀ what receiver,
      (∃ outcome, (s.resolve env what receiver).2 = .answered outcome ∧
        ∀ written fault, outcome = .failure written fault → what.specifier = .str written ∧
          ∃ citation, s.Attributed env config written citation fault) ∨
      ∃ written citation, (s.resolve env what receiver).2 = .deferred receiver.ticket ∧
        what.specifier = .str written ∧ Citation.ofString? written = some citation ∧
        lastDeferred? receiver.ticket (s.resolve env what receiver).1.journal =
          some (written, citation.pantryName)) ∧
    ∀ t e before, e :: before <:+ s.journal → e.answerTo? = some t → ¬ IsUnbound s.tasks t →
      ∀ written fault, e.answer? = some (.failure written fault) →
        ∃ citation, lastDeferred? t before = some (written, citation.pantryName) ∧
          s.Attributed env config written citation fault := by
  refine ⟨fun f hf hKept => ?_, fun what receiver => ?_, ?_⟩
  · obtain ⟨i, hFlight⟩ := List.mem_iff_getElem?.mp hf
    exact ⟨Flight.completion (h.sound.coherent.consistent hFlight) hKept,
      fun hDrained => h.flying_of_drained hDrained hf⟩
  · have hFails : ∀ outcome, (s.resolve env what receiver).2 = .answered outcome →
        ∀ written fault, outcome = .failure written fault → what.specifier = .str written ∧
          ∃ citation, s.Attributed env config written citation fault := by
      rintro outcome hReply written fault rfl
      obtain ⟨citation, P, hText, hSpelled, hGet, hEntry⟩ := resolve_failure hReply
      have hCause : s.Cause env config citation fault :=
        .lacking (h.version_of_uses (.atHand hGet)) hEntry
      exact ⟨hText, citation, hCause.attributed h hSpelled⟩
    rcases resolve_cases env s what receiver with
      ⟨path, fresh, _, hReply⟩ | ⟨outcome, hReply⟩ | ⟨citation, _, hClass, hReply⟩ | ⟨hIdle, _⟩
    · exact Or.inl ⟨_, by rw [hReply], hFails _ (by rw [hReply])⟩
    · exact Or.inl ⟨_, by rw [hReply], hFails _ (by rw [hReply])⟩
    · obtain ⟨written, hText, hSpelled⟩ := written_of_classify hClass
      refine Or.inr ⟨written, citation, by rw [hReply], hText, hSpelled, ?_⟩
      rw [hReply, hText]
      exact lastDeferred?_defer _ _ _ _
    · simp [hRunning] at hIdle
  · intro t e before hSuffix hTo hBound written fault hFails
    have hKind : e.isDelivery = true := by cases e <;> simp_all [Event.answerTo?, Event.isDelivery]
    have hLog : e :: before.filter Event.isDelivery <:+ s.desk.log := by
      have hFilter := hSuffix.filter Event.isDelivery
      rwa [List.filter_cons_of_pos hKind] at hFilter
    obtain ⟨citation, hSpelled, hLast, hCause⟩ :=
      (h.answers e _ hLog t written fault hTo hFails).resolve_left hBound
    rw [lastDeferred?_filter] at hLast
    exact ⟨citation, hLast, hCause.attributed h hSpelled⟩

/-- A pantry without a name of its own, which holds nothing, is known beforehand. -/
def unlabelled : Config where
  pantries := .ofList [("q", .descriptor ⟨none, none, .empty⟩)]
  searchPaths := []

/-- Another one is looked for on behalf of an import, and a tree without entries lacks it. -/
def missing : State :=
  let d : Discovery := ⟨.empty, ⟨.single, []⟩, Discovery.defaultFileNames⟩
  (actAll Setup.manual [.importing ⟨.named "main", .str "p/i/j", .str "/main.scss"⟩ .stop, .tick,
    .release 0 (d.answer ⟨"p", .search []⟩), .tick, .tick] (create Setup.manual unlabelled)).1

/-- The import is told that the pantry is absent, and an import from the other pantry fails at once;
both faults name what was cited. -/
theorem failures_attributed_missing :
    let what : Import := ⟨.named "main", .str "q/x", .str "/main.scss"⟩
    let told := Event.delivered 0 (.failure "p/i/j" (.pantryNotFound "p" []))
    Moves Setup.manual True (seeded unlabelled) missing ∧ Setup.manual.running = true ∧
      missing.cache.FromTrees ∧ unlabelled.Nameless ∧
      (∃ before citation, told :: before <:+ missing.journal ∧
        lastDeferred? 0 before = some ("p/i/j", citation.pantryName) ∧
        (Fault.pantryNotFound "p" []).Names citation) ∧
      ∃ citation, Citation.ofString? "q/x" = some citation ∧
        (missing.resolve Setup.manual what (.task 1)).2 =
          .answered (.failure "q/x" (.noIngredient "q" "x")) ∧
        (Fault.noIngredient "q" "x").Names citation := by
  intro what told
  have hReach : Reachable Setup.manual unlabelled missing := .actAll _ .create
  have hTrees : missing.cache.FromTrees := by
    intro f hf returned hResult
    obtain rfl := List.mem_singleton.mp (show f ∈ [_] from hf)
    exact ⟨⟨.empty, ⟨.single, []⟩, Discovery.defaultFileNames⟩, (Option.some.inj hResult).symm⟩
  have hNameless : unlabelled.Nameless := by
    intro name P hGet
    have hOnly : lookupPair name [("q", Seed.descriptor ⟨none, none, .empty⟩)] =
        some (.descriptor P) := hGet
    unfold lookupPair at hOnly
    split at hOnly
    · obtain rfl := Seed.descriptor.inj (Option.some.inj hOnly)
      rfl
    · simp [lookupPair] at hOnly
  obtain ⟨_, hImports, hAnswers⟩ := failures_attributed hReach.moves rfl
  refine ⟨hReach.moves, rfl, hTrees, hNameless, ?_, ?_⟩
  · have hSuffix : told :: missing.journal.tail <:+ missing.journal := List.suffix_refl _
    obtain ⟨citation, hLast, hAttributed⟩ := hAnswers 0 told _ hSuffix rfl
      (not_isUnbound_of_none rfl) _ _ rfl
    exact ⟨_, citation, hSuffix, hLast, hAttributed.names hTrees hNameless⟩
  · have hReply : (missing.resolve Setup.manual what (.task 1)).2 =
        .answered (.failure "q/x" (.noIngredient "q" "x")) := rfl
    rcases hImports what (.task 1) with ⟨outcome, hAnswered, hFails⟩ | ⟨_, _, hDeferred, _⟩
    · obtain rfl := Reply.answered.inj (hReply.symm.trans hAnswered)
      obtain ⟨_, citation, hAttributed⟩ := hFails _ _ rfl
      exact ⟨citation, hAttributed.spelled, hReply, hAttributed.names hTrees hNameless⟩
    · exact absurd (hReply.symm.trans hDeferred) (by simp)

end State

end Larder
