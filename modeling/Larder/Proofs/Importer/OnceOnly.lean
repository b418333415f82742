import Larder.Proofs.Importer.Chain

/-!
# Larder — every path is given once

A compilation is answered for a path whenever an import leads to it: the entry point of an
ingredient, at once or when the pantry has come, or a relative path inside a resolved pantry. Each
such answer is a *decision*. The journal keeps them in order; the emission of the compilation is
all that the importer itself remembers.

The first decision on a path hands it out, every later one suppresses it, whichever way led there:
the paths of the emission are those handed out, each of them once. What carries the proof is that
the paths which decisions are about come out of lexical reasoning, so that they are their own keys.

## Results

* `once_only`: this holds of every compilation in every reachable state.
* `resolve_of_target`, `resolve_of_no_target`: an answer at once is a decision exactly if the import
  leads to a path that is to be given once.
* `complete_of_target`, `complete_of_no_target`: so is a deferred answer.
-/

namespace Larder

-- ---------------------------------------------------------------------------
-- Decisions
-- ---------------------------------------------------------------------------

/-- Whether an event is a decision. -/
def Event.isDecision : Event → Bool
  | .decided .. => true
  | _ => false

/-- What an event decides for a compilation. -/
def Event.decisionFor (session : SessionId) : Event → Option (Path × Outcome)
  | .decided who path outcome => if who = session then some (path, outcome) else none
  | _ => none

/-- Whether an outcome hands the path out. -/
def Outcome.isReal : Outcome → Bool
  | .file _ => true
  | .passThrough => true
  | _ => false

/-- The outcome that an import is answered with at once. -/
def Reply.outcome? : Reply → Option Outcome
  | .answered outcome => some outcome
  | _ => none

/-- The decisions of one compilation, the oldest first. -/
def State.decisions (s : State) (session : SessionId) : List (Path × Outcome) :=
  s.history.filterMap (Event.decisionFor session)

/-- The decisions give every path once, and `paths` are those they gave. -/
structure GivenOnce (decisions : List (Path × Outcome)) (paths : List Path) : Prop where
  -- the first decision on a path is real, and no later one
  law : ∀ before path outcome after, decisions = before ++ (path, outcome) :: after →
    path.normalize = path ∧
      if path ∈ before.map Prod.fst then outcome = .suppressed
      else outcome = .file path.toString ∨ outcome = .passThrough
  -- the paths are those of the real decisions
  real : ((decisions.filter fun d => d.2.isReal).map Prod.fst).Perm paths
  known : ∀ path, path ∈ decisions.map Prod.fst ↔ path ∈ paths

theorem insertPath_perm {p : Path} {ps : List Path} (h : p ∉ ps) :
    (insertPath p ps).Perm (p :: ps) := by
  induction ps with
  | nil => exact .refl _
  | cons q rest ih =>
    have hRest : p ∉ rest := fun hMem => h (List.mem_cons_of_mem _ hMem)
    unfold insertPath
    split
    · exact .refl _
    · rename_i hpq
      split
      · exact ((ih hRest).cons q).trans (.swap p q rest)
      · rename_i hqp
        exact absurd (Path.eq_of_not_before hpq hqp ▸ List.mem_cons_self) h

theorem GivenOnce.nil : GivenOnce [] [] where
  law := fun before path outcome after h => by simp at h
  real := .nil
  known := fun path => by simp

/-- One more answer keeps it so. -/
theorem GivenOnce.answer {decisions : List (Path × Outcome)} {e : Emission} {path : Path}
    {fresh : Outcome} (h : GivenOnce decisions e.paths) (hFresh : Fresh path fresh) :
    GivenOnce (decisions ++ [(path, (e.answer path fresh).2)]) (e.answer path fresh).1.paths := by
  obtain ⟨hNormal, hKind⟩ := hFresh
  have hKey : e.contains path = true ↔ path ∈ decisions.map Prod.fst := by
    rw [h.known, Emission.contains, hNormal, List.contains_iff_mem]
  -- the decisions before the last one are among the old ones
  have hLaw : ∀ outcome,
      (if path ∈ decisions.map Prod.fst then outcome = Outcome.suppressed
        else outcome = .file path.toString ∨ outcome = .passThrough) →
      ∀ before p o after, decisions ++ [(path, outcome)] = before ++ (p, o) :: after →
        p.normalize = p ∧
          if p ∈ before.map Prod.fst then o = .suppressed
          else o = .file p.toString ∨ o = .passThrough := by
    intro outcome hLast before p o after hSplit
    rcases List.eq_nil_or_concat after with rfl | ⟨after', d, rfl⟩
    · obtain ⟨rfl, hEq⟩ := List.append_inj' hSplit rfl
      obtain ⟨rfl, rfl⟩ := Prod.mk.inj (List.cons.inj hEq).1
      exact ⟨hNormal, hLast⟩
    · rw [List.concat_eq_append, ← List.cons_append, ← List.append_assoc] at hSplit
      exact h.law before p o after' (List.append_inj' hSplit rfl).1
  cases hContains : e.contains path with
  | true =>
    rw [Emission.answer_of_contains hContains]
    have hOld := hKey.mp hContains
    refine ⟨hLaw _ (by rw [if_pos hOld]), ?_, fun p => ?_⟩
    · rw [List.filter_append, List.map_append]
      simpa [Outcome.suppressed, Outcome.isReal] using h.real
    · rw [List.map_append, List.mem_append, h.known]
      constructor
      · rintro (hMem | hMem)
        · exact hMem
        · rw [List.mem_singleton.mp hMem]
          exact (h.known path).mp hOld
      · exact Or.inl
  | false =>
    rw [Emission.answer_of_not_contains hContains]
    have hNew : path ∉ decisions.map Prod.fst := fun hMem => by
      simp [hKey.mpr hMem] at hContains
    have hReal : fresh.isReal = true := by
      rcases hKind with rfl | rfl <;> rfl
    have hPaths : (e.insert path).paths = insertPath path e.paths := by
      show insertPath path.normalize e.paths = _
      rw [hNormal]
    have hPerm := insertPath_perm fun hMem => hNew ((h.known path).mpr hMem)
    refine ⟨hLaw _ (by rw [if_neg hNew]; exact hKind.symm), ?_, fun p => ?_⟩
    · have hOne : ([(path, fresh)].filter fun d => d.2.isReal).map Prod.fst = [path] := by
        simp [hReal]
      rw [List.filter_append, List.map_append, hPaths, hOne]
      exact (h.real.append_right [path]).trans
        ((List.perm_append_singleton path e.paths).trans hPerm.symm)
    · rw [List.map_append, List.mem_append, h.known, hPaths, mem_insertPath]
      simp only [List.map_cons, List.map_nil, List.mem_singleton]
      exact or_comm

-- ---------------------------------------------------------------------------
-- What leaves the decisions alone
-- ---------------------------------------------------------------------------

namespace State

variable {env : Setup} {cancels : Prop} {config : Config} {s s' : State}

/-- What the compilations were given, and the decisions. -/
def given (s : State) : Registry SessionId Emission × List Event :=
  (s.sessions, s.journal.filter Event.isDecision)

theorem emission_of_given (h : s'.given = s.given) (session : SessionId) :
    s'.emission session = s.emission session := by
  have hSessions : s'.sessions = s.sessions := (Prod.mk.inj h).1
  rw [emission, emission, hSessions]

theorem decisions_eq (s : State) (session : SessionId) :
    s.decisions session = s.given.2.reverse.filterMap (Event.decisionFor session) := by
  rw [decisions, history, given, ← List.filter_reverse, List.filterMap_filter]
  congr 1
  funext e
  cases e <;> rfl

theorem decisions_of_given (h : s'.given = s.given) (session : SessionId) :
    s'.decisions session = s.decisions session := by
  rw [decisions_eq, decisions_eq, h]

theorem given_note {e : Event} (h : e.isDecision = false) : (s.note e).given = s.given := by
  simp [given, h]

theorem given_of_frame (hSessions : s'.sessions = s.sessions) (hJournal : s'.journal = s.journal) :
    s'.given = s.given := by
  rw [given, given, hSessions, hJournal]

theorem given_of_aside (h : Aside s s') : s'.given = s.given := by
  have hLog : s'.journal.filter Event.isDecision = s.journal.filter Event.isDecision :=
    filter_journal_of_aside (fun e he => by cases e <;> simp_all [Event.isAside, Event.isDecision]) h
  rw [given, given, h.sessions, hLog]

theorem given_attach (handle : Handle) (w : Waiter) : (s.attach handle w).given = s.given :=
  given_of_frame (sessions_attach _ _ _) (journal_attach _ _ _)

theorem given_request (env : Setup) (s : State) (name : String) :
    (s.request env name).1.given = s.given := by
  rcases request_cases env s name with ⟨p, _, h⟩ | ⟨i, _, _, h⟩ | ⟨_, _, h⟩ <;> rw [h]
  · exact given_note rfl
  · show ((s.withCache (s.cache.start env.searchPaths name)).note (.started name)).given = s.given
    exact given_note rfl

theorem given_defer (session : SessionId) (specifier : String) (citation : Citation)
    (receiver : Receiver) :
    (s.defer env session specifier citation receiver).given = s.given := by
  rw [defer, given_attach, given_request, given_note rfl]

theorem given_landWith (i : FlightId) (name : String) (landing : Landing) :
    (s.landWith i name landing).given = s.given := by
  have hResult : (resultEvent name (conclude name landing.returned)).isDecision = false := by
    cases conclude name landing.returned <;> rfl
  have hLog := filter_journal_landWith Event.isDecision (fun _ => rfl) s i name landing
  rw [List.filter_cons_of_neg (by simp [hResult]), List.filter_nil, List.nil_append] at hLog
  rw [given, given, hLog]
  rfl

/-- The outcome of a deferred import is a decision of the kind `giveOnce` makes, or none. -/
theorem given_complete (env : Setup) (s : State) (session : SessionId) (specifier : String)
    (citation : Citation) (settlement : Settlement) :
    (s.complete env session specifier citation settlement).1.given = s.given ∨
    ∃ path fresh, Fresh path fresh ∧
      (s.complete env session specifier citation settlement).1.given =
        (s.giveOnce session path fresh).1.given := by
  rcases complete_cases env s session specifier citation settlement with
    ⟨_, path, _, _, hNormal, h⟩ | ⟨_, h⟩ | ⟨_, _, h⟩
  · rw [h]
    exact Or.inr ⟨path, _, ⟨hNormal, Or.inr rfl⟩, rfl⟩
  · rw [h]
    exact Or.inl rfl
  · rw [h]
    exact Or.inl (given_note rfl)

/-- A move makes one decision or none. -/
theorem Move.given (h : Move env cancels s s') :
    s'.given = s.given ∨
    ∃ session path fresh, Fresh path fresh ∧ s'.given = (s.giveOnce session path fresh).1.given := by
  cases h with
  | remark hRemark =>
    rename_i e
    exact Or.inl (given_note (by cases e <;> simp_all [Event.isRemark, Event.isDecision]))
  | number => exact Or.inl rfl
  | give hFresh => exact Or.inr ⟨_, _, _, hFresh, rfl⟩
  | request => exact Or.inl (given_request _ _ _)
  | attach => exact Or.inl (given_attach _ _)
  | defer => exact Or.inl (given_defer _ _ _ _)
  | cancel => exact Or.inl rfl
  | launch =>
    left
    rw [given_note rfl]
    rfl
  | landNow => exact Or.inl (given_landWith _ _ _)
  | comeBack => exact Or.inl rfl
  | land => exact Or.inl (given_landWith _ _ _)
  | @deliver settlement specifier citation session t script rest =>
    rw [given_note rfl]
    rcases given_complete env s.pop session specifier citation settlement with
      h | ⟨path, fresh, hFresh, h⟩
    · exact Or.inl h
    · exact Or.inr ⟨session, path, fresh, hFresh, h⟩
  | @hand settlement specifier citation session t rest =>
    rw [given_of_aside (aside_handOver _ _)]
    rcases given_complete env s.pop session specifier citation settlement with
      h | ⟨path, fresh, hFresh, h⟩
    · exact Or.inl h
    · exact Or.inr ⟨session, path, fresh, hFresh, h⟩
  | tell _ hOther =>
    left
    rw [given_of_aside (aside_notify hOther _)]
    rfl
  | startTask => exact Or.inl (given_of_aside (aside_startTask _))
  | cancelTask => exact Or.inl (given_of_aside (aside_cancelTask _))
  | deferTask =>
    left
    show (State.defer _ _ _ _ _ _).given = s.given
    rw [given_defer]
    rfl
  | park => exact Or.inl rfl
  | finish =>
    left
    rw [given_of_aside (aside_finish _ _ _)]
    rfl
  | skip => exact Or.inl rfl

-- ---------------------------------------------------------------------------
-- Answers are decisions
-- ---------------------------------------------------------------------------

/-- The path that an import leads to and that is to be given once, with the outcome that hands it
out: a relative path inside a resolved pantry, or the entry point of an ingredient at hand. -/
def target? (env : Setup) (s : State) (what : Import) : Option (Path × Outcome) :=
  match classify env.cwd what.specifier what.file with
  | .relative path => if s.inPantry env path then some (path, .passThrough) else none
  | .ingredient citation =>
    match s.cache.get? citation.pantryName with
    | none => none
    | some pantry =>
      match pantry.entryPointFor env.cwd citation.ingredientName Pantry.styleKind with
      | .ok path => some (path, .file path.toString)
      | .error _ => none
  | _ => none

/-- The same for a deferred import whose promise came to a settlement. -/
def settledTarget? (env : Setup) (citation : Citation) : Settlement → Option (Path × Outcome)
  | .kept pantry =>
    match pantry.entryPointFor env.cwd citation.ingredientName Pantry.styleKind with
    | .ok path => some (path, .file path.toString)
    | .error _ => none
  | _ => none

/-- One more decision of a compilation, if it is the one that is looked at. -/
theorem decisions_giveOnce (s : State) {session : SessionId} {path : Path} {fresh : Outcome}
    (hNormal : path.normalize = path) (who : SessionId) :
    (s.giveOnce session path fresh).1.decisions who =
      s.decisions who ++
        if session = who then [(path, (s.giveOnce session path fresh).2)] else [] := by
  have hHistory : (s.giveOnce session path fresh).1.history =
      s.history ++ [.decided session path (s.giveOnce session path fresh).2] := by
    simp [giveOnce, history, setEmission, hNormal]
  rw [decisions, decisions, hHistory, List.filterMap_append]
  congr 1
  by_cases hWho : session = who <;> simp [Event.decisionFor, hWho]

theorem resolve_of_target {what : Import} {path : Path} {fresh : Outcome} (receiver : Receiver)
    (h : s.target? env what = some (path, fresh)) :
    Fresh path fresh ∧ s.resolve env what receiver =
      ((s.giveOnce what.session path fresh).1,
        .answered (s.giveOnce what.session path fresh).2) := by
  unfold target? at h
  unfold resolve
  split at h
  · rename_i path' hClass
    split at h
    · rename_i hInside
      obtain ⟨rfl, rfl⟩ := Prod.mk.inj (Option.some.inj h)
      obtain ⟨document, text, rfl⟩ := resolveFrom_of_classify hClass
      exact ⟨⟨Path.normalize_resolveFrom _ _ _, Or.inl rfl⟩,
        by simp only [hClass, resolveRelative, if_pos hInside]⟩
    · exact absurd h (by simp)
  · rename_i citation hClass
    split at h
    · exact absurd h (by simp)
    · rename_i pantry hGet
      split at h
      · rename_i path' hEntry
        obtain ⟨rfl, rfl⟩ := Prod.mk.inj (Option.some.inj h)
        exact ⟨⟨normalize_entryPoint hEntry, Or.inr rfl⟩,
          by simp only [hClass, hGet, resolveIn, hEntry]⟩
      · exact absurd h (by simp)
  · exact absurd h (by simp)

theorem resolve_of_no_target {what : Import} (receiver : Receiver)
    (h : s.target? env what = none) : (s.resolve env what receiver).1.given = s.given := by
  unfold target? at h
  unfold resolve
  split at h
  · rename_i path hClass
    split at h
    · exact absurd h (by simp)
    · rename_i hOutside
      simp only [hClass, resolveRelative, if_neg hOutside]
  · rename_i citation hClass
    simp only [hClass]
    split at h
    · rename_i hNone
      rw [hNone]
      simp only
      split
      · exact given_defer _ _ _ _
      · rfl
    · rename_i pantry hGet
      rw [hGet]
      split at h
      · exact absurd h (by simp)
      · rename_i fault hEntry
        simp only [resolveIn, hEntry]
  · rename_i hRelative hIngredient
    split
    · rfl
    · rfl
    · rename_i path hClass
      exact absurd hClass (hRelative path)
    · rename_i citation hClass
      exact absurd hClass (hIngredient citation)

theorem complete_of_target {session : SessionId} {specifier : String} {citation : Citation}
    {settlement : Settlement} {path : Path} {fresh : Outcome}
    (h : settledTarget? env citation settlement = some (path, fresh)) :
    Fresh path fresh ∧ s.complete env session specifier citation settlement =
      s.giveOnce session path fresh := by
  unfold settledTarget? at h
  split at h
  · rename_i pantry
    split at h
    · rename_i path' hEntry
      obtain ⟨rfl, rfl⟩ := Prod.mk.inj (Option.some.inj h)
      exact ⟨⟨normalize_entryPoint hEntry, Or.inr rfl⟩,
        by simp only [complete, resolveIn, hEntry]⟩
    · exact absurd h (by simp)
  · exact absurd h (by simp)

theorem complete_of_no_target {session : SessionId} {specifier : String} {citation : Citation}
    {settlement : Settlement} (h : settledTarget? env citation settlement = none) :
    (s.complete env session specifier citation settlement).1.given = s.given := by
  cases settlement with
  | kept pantry =>
    simp only [settledTarget?] at h
    split at h
    · exact absurd h (by simp)
    · rename_i fault hEntry
      simp only [complete, resolveIn, hEntry]
  | broken fault => rfl
  | cancelled => exact given_note rfl

-- ---------------------------------------------------------------------------
-- Runs
-- ---------------------------------------------------------------------------

theorem emission_giveOnce (s : State) (session : SessionId) (path : Path) (fresh : Outcome)
    (who : SessionId) :
    (s.giveOnce session path fresh).1.emission who =
      if session = who then ((s.emission session).answer path fresh).1 else s.emission who := by
  split
  · rename_i hWho
    subst hWho
    exact emission_setEmission_self _ _ _
  · rename_i hWho
    exact emission_setEmission_of_ne _ _ (Ne.symm hWho)

theorem givenOnce_giveOnce {session : SessionId} {path : Path} {fresh : Outcome}
    (hFresh : Fresh path fresh) (who : SessionId)
    (h : GivenOnce (s.decisions who) (s.emission who).paths) :
    GivenOnce ((s.giveOnce session path fresh).1.decisions who)
      ((s.giveOnce session path fresh).1.emission who).paths := by
  rw [decisions_giveOnce s hFresh.1, emission_giveOnce]
  split
  · rename_i hWho
    subst hWho
    exact h.answer hFresh
  · rw [List.append_nil]
    exact h

theorem Move.givenOnce (hMove : Move env cancels s s') (session : SessionId)
    (h : GivenOnce (s.decisions session) (s.emission session).paths) :
    GivenOnce (s'.decisions session) (s'.emission session).paths := by
  rcases hMove.given with hSame | ⟨who, path, fresh, hFresh, hGiven⟩
  · rw [decisions_of_given hSame, emission_of_given hSame]
    exact h
  · rw [decisions_of_given hGiven, emission_of_given hGiven]
    exact givenOnce_giveOnce hFresh session h

theorem Moves.givenOnce (h : Moves env cancels s s') (session : SessionId)
    (hGiven : GivenOnce (s.decisions session) (s.emission session).paths) :
    GivenOnce (s'.decisions session) (s'.emission session).paths :=
  h.invariant (fun _ _ hMove => hMove.givenOnce session) hGiven

theorem givenOnce_seeded (config : Config) (session : SessionId) :
    GivenOnce ((seeded config).decisions session) ((seeded config).emission session).paths :=
  .nil

/-- Decisions are never taken back. -/
theorem Moves.decisions_grow (h : Moves env cancels s s') (session : SessionId) :
    ∃ more, s'.decisions session = s.decisions session ++ more := by
  induction h with
  | refl => exact ⟨[], (List.append_nil _).symm⟩
  | tail _ hMove ih =>
    obtain ⟨more, hMore⟩ := ih
    rcases hMove.given with hSame | ⟨who, path, fresh, hFresh, hGiven⟩
    · exact ⟨more, by rw [decisions_of_given hSame, hMore]⟩
    · exact ⟨_, by
        rw [decisions_of_given hGiven, decisions_giveOnce _ hFresh.1, hMore, List.append_assoc]⟩

/-- Whether an answer is accounted for: if it is about a path that is to be given once, it is the
next decision of its compilation, and else no decision at all. -/
def Accounted (s s' : State) (session : SessionId) (target : Option (Path × Outcome))
    (answer : Option Outcome) : Prop :=
  match target with
  | some (path, fresh) =>
    ∃ outcome, answer = some outcome ∧ (outcome = fresh ∨ outcome = .suppressed) ∧
      ∀ who, s'.decisions who = s.decisions who ++ if session = who then [(path, outcome)] else []
  | none => ∀ who, s'.decisions who = s.decisions who

theorem accounted_giveOnce {session : SessionId} {path : Path} {fresh : Outcome}
    (hFresh : Fresh path fresh) :
    Accounted s (s.giveOnce session path fresh).1 session (some (path, fresh))
      (some (s.giveOnce session path fresh).2) := by
  refine ⟨_, rfl, ?_, decisions_giveOnce s hFresh.1⟩
  show (if ((s.emission session).record path).2 then fresh else Outcome.suppressed) = fresh ∨ _
  split
  · exact Or.inl rfl
  · rename_i hOld
    exact Or.inr (if_neg hOld)

theorem accounted_resolve (env : Setup) (s : State) (what : Import) (receiver : Receiver) :
    Accounted s (s.resolve env what receiver).1 what.session (s.target? env what)
      (s.resolve env what receiver).2.outcome? := by
  cases hTarget : s.target? env what with
  | none => exact decisions_of_given (resolve_of_no_target receiver hTarget)
  | some target =>
    obtain ⟨path, fresh⟩ := target
    obtain ⟨hFresh, hResolve⟩ := resolve_of_target receiver hTarget
    rw [hResolve]
    exact accounted_giveOnce hFresh

theorem accounted_complete (env : Setup) (s : State) (session : SessionId) (specifier : String)
    (citation : Citation) (settlement : Settlement) :
    Accounted s (s.complete env session specifier citation settlement).1 session
      (settledTarget? env citation settlement)
      (some (s.complete env session specifier citation settlement).2) := by
  cases hTarget : settledTarget? env citation settlement with
  | none => exact decisions_of_given (complete_of_no_target hTarget)
  | some target =>
    obtain ⟨path, fresh⟩ := target
    obtain ⟨hFresh, hComplete⟩ := complete_of_target hTarget
    rw [hComplete]
    exact accounted_giveOnce hFresh

/-- **Every path is given once.** In every reachable state the decisions of a compilation hand out
each path with the first of them and suppress it afterwards, and its emission holds exactly the
paths that were handed out. Whatever happens next only adds decisions and paths. Every answer to an
import, at once or deferred, is accounted for. -/
theorem once_only (h : Reachable env config s) (session : SessionId) :
    GivenOnce (s.decisions session) (s.emission session).paths ∧
    (∀ a, (∃ more, (s.act env a).1.decisions session = s.decisions session ++ more) ∧
      ∀ path ∈ (s.emission session).paths, path ∈ ((s.act env a).1.emission session).paths) ∧
    (∀ what receiver, Accounted s (s.resolve env what receiver).1 what.session (s.target? env what)
      (s.resolve env what receiver).2.outcome?) ∧
    ∀ who specifier citation settlement,
      Accounted s (s.complete env who specifier citation settlement).1 who
        (settledTarget? env citation settlement)
        (some (s.complete env who specifier citation settlement).2) := by
  have hGiven := h.moves.givenOnce session (givenOnce_seeded config session)
  refine ⟨hGiven, fun a => ?_, accounted_resolve env s, accounted_complete env s⟩
  have hNext : Moves env True s (s.act env a).1 := act_moves a (fun _ => trivial) s
  obtain ⟨more, hMore⟩ := hNext.decisions_grow session
  refine ⟨⟨more, hMore⟩, fun path hPath => ?_⟩
  have hDecided := (hGiven.known path).mpr hPath
  rw [← (hNext.givenOnce session hGiven).known, hMore, List.map_append]
  exact List.mem_append_left _ hDecided

/-- A pantry with one ingredient is known beforehand. -/
def describing : Config where
  pantries := .ofList [("p", .descriptor ⟨none, some (.ofString "/p"), .ofList [("i",
    ⟨none, .ofString "/p/i", .ofList [("sass", "main.sass")]⟩)]⟩)]
  searchPaths := []

/-- The entry point of the ingredient is imported by its citation, and then by its place. -/
def importingTwice : State :=
  (actAll Setup.manual [.importing ⟨.named "main", .str "p/i", .str "/main.sass"⟩ .stop,
    .importing ⟨.named "main", .str "./main.sass", .str "/p/i/other.sass"⟩ .stop]
    (create Setup.manual describing)).1

/-- So the second import is suppressed, though it is spelled another way. -/
theorem once_only_importingTwice :
    Reachable Setup.manual describing importingTwice ∧
      importingTwice.decisions (.named "main") =
        [(.ofString "/p/i/main.sass", .file "/p/i/main.sass"),
          (.ofString "/p/i/main.sass", .suppressed)] ∧
      GivenOnce (importingTwice.decisions (.named "main"))
        (importingTwice.emission (.named "main")).paths :=
  have h : Reachable Setup.manual describing importingTwice := .actAll _ .create
  ⟨h, rfl, (once_only h (.named "main")).1⟩

end State

end Larder
