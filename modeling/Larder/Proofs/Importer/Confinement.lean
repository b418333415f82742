import Larder.Proofs.Discovery.Confinement
import Larder.Proofs.Importer.Attribution
import Larder.Proofs.Importer.Routing

/-!
# Larder — no document gets out of the pantry it cites

A style document decides nothing but its specifiers. Whatever text it imports: if that starts a
discovery, the call is for a name of one or two components that do not lead up, so the directories
that are asked for lie below the search paths; and if it is answered with a file of a pantry that
was found in a directory tree, the file lies strictly below the directory of that pantry, which is
where the search path or the location of the seed puts it. This holds for all trees with all their
links, which may change from call to call, for all tables of file names, and for search paths and
locations in any spelling.

A pantry that a configuration describes can place its ingredients anywhere, and so can a
collaborator that brings pantries of its own; of these nothing is said here.

## Results

* `asksFor_resolve`, `asksFor_runUnbound`: what an import asks for.
* `resolve_file`, `complete_file`: where a file comes from that is given at once, or later.
* `confined_of_found`: an entry point of a pantry that was found in a tree lies below it.
* `files_confined`: no document gets out of the pantry it cites.
-/

namespace Larder

-- ---------------------------------------------------------------------------
-- Vocabulary
-- ---------------------------------------------------------------------------

/-- Whether a call looks for a pantry under one or two names that do not lead up: a pantry, or a
scope and a pantry in it. -/
structure Call.Proper (call : Call) : Prop where
  count : (Text.splitOn '/' call.name.toList).length = 1 ∨
    (Text.splitOn '/' call.name.toList).length = 2
  pieces : ∀ piece ∈ Text.splitOn '/' call.name.toList,
    piece ≠ [] ∧ piece ≠ ['.'] ∧ piece ≠ ['.', '.']
  candidates : ∃ pantry : Segment,
    (∀ p, Discovery.candidate call.name p = p.child pantry.component) ∨
    ∃ scope : Segment, ∀ p,
      Discovery.candidate call.name p = (p.child scope.asScope).child pantry.component

/-- Where the directory of a cited pantry is that is found in a tree: in a search path under the
names of the pantry, or at the location of its seed. -/
inductive Config.PantryRoot (config : Config) (cwd : Path) (r : Citation) : Path → Prop where
  | searched {p : Path} (hSeed : config.pantries.get? r.pantryName = none)
      (hPath : p ∈ config.searchPaths) :
      PantryRoot config cwd r (Discovery.pathBelow (cwd.absolute p) r.pantryWay)
  | located {place : Path} (hSeed : config.pantries.get? r.pantryName = some (.location place)) :
      PantryRoot config cwd r (cwd.absolute place)

/-- Whether a path is normalised and lies strictly below the directory of a cited pantry. -/
def Config.Confined (config : Config) (cwd : Path) (r : Citation) (P : Pantry) (path : Path) :
    Prop :=
  ∃ root, P.path = some root ∧ config.PantryRoot cwd r root ∧ path.normalize = path ∧
    root.StrictlyBelow path

/-- Whether a call came back with what a directory tree answers, in which no directory lists its own
parent. -/
def Flight.FromTree (cwd : Path) (f : Flight) : Prop :=
  ∃ d : Discovery, d.cwd = cwd ∧ d.tree.Proper ∧ f.result? = some (d.answer f.call).returned

/-- Whether a pantry was found in a directory tree, under a name. -/
def Cache.FoundInTree (cwd : Path) (c : Cache) (name : String) (P : Pantry) : Prop :=
  ∃ f ∈ c.flights, f.FromTree cwd ∧ f.call.name = name ∧ f.brings = some P

-- ---------------------------------------------------------------------------
-- Citations
-- ---------------------------------------------------------------------------

/-- A call on behalf of a citation looks for its pantry and for nothing else. -/
theorem Citation.properCall (r : Citation) (target : Target) :
    Call.Proper ⟨r.pantryName, target⟩ := by
  obtain ⟨hCount, hPieces⟩ := r.pieces_proper
  refine ⟨hCount, hPieces, r.pantry, ?_⟩
  have hCandidate := r.candidate_pantryName
  unfold Citation.pantryWay at hCandidate
  cases hScope : r.scope with
  | none =>
    left
    intro p
    rw [hCandidate, hScope]
    rfl
  | some scope =>
    right
    refine ⟨scope, fun p => ?_⟩
    rw [hCandidate, hScope, Path.child, Path.child, List.append_assoc]
    rfl

namespace Discovery

/-- A pantry that a call brings from a tree was loaded where the call was to look. -/
theorem answer_eq_pantry {d : Discovery} {call : Call} {P : Pantry}
    (h : (d.answer call).returned = .pantry P) :
    (∃ searchPaths, call.target = .search searchPaths ∧ ∃ searchPath ∈ searchPaths,
      (d.load call.name (candidate call.name searchPath)).result = .ok P) ∨
    ∃ place, call.target = .location place ∧ (d.load call.name place).result = .ok P := by
  have hFinding : ∀ found : Finding, found.landing.returned = .pantry P → found.result = .ok P := by
    intro found hLanding
    unfold Finding.landing at hLanding
    simp only at hLanding
    split at hLanding
    · rename_i p hOk
      rw [hOk, Returned.pantry.inj hLanding]
    · exact absurd hLanding (by simp)
  unfold answer at h
  split at h
  · rename_i searchPaths hTarget
    exact Or.inl ⟨searchPaths, hTarget, discoverIn_eq_ok (hFinding _ h)⟩
  · rename_i place hTarget
    exact Or.inr ⟨place, hTarget, hFinding _ h⟩

end Discovery

namespace State

variable {env : Setup} {cancels : Prop} {config : Config} {s s' : State} {r : Citation}
  {P : Pantry} {path : Path} {text kind : String} {specifier file : Value}

-- ---------------------------------------------------------------------------
-- What an import asks for
-- ---------------------------------------------------------------------------

/-- Whether an import, in coming from a state to another, asks for nothing but the pantry that it
cites. -/
def AsksFor (env : Setup) (s : State) (specifier file : Value) (s' : State) : Prop :=
  ∃ new, s'.cache.flights.map Flight.call = s.cache.flights.map Flight.call ++ new ∧
    ∀ call ∈ new, ∃ r, classify env.cwd specifier file = .ingredient r ∧
      call.name = r.pantryName ∧ call.Proper

theorem AsksFor.of_calls
    (h : s'.cache.flights.map Flight.call = s.cache.flights.map Flight.call) :
    s.AsksFor env specifier file s' :=
  ⟨[], by rw [h, List.append_nil], by simp⟩

/-- Who waits changes no call. -/
theorem calls_attach (s : State) (handle : Handle) (w : Waiter) :
    (s.attach handle w).cache.flights.map Flight.call = s.cache.flights.map Flight.call := by
  rcases attach_cases s handle w with ⟨_, h⟩ | ⟨i, ws, _, _, h⟩ | ⟨_, _, _, h⟩ <;> rw [h]
  · rfl
  · refine List.ext_getElem? fun j => ?_
    rw [cache_withCache, List.getElem?_map, List.getElem?_map, Cache.setPromise,
      Cache.getElem?_modifyFlight, Option.map_map]
    congr 1
    funext f
    rw [Function.comp]
    split <;> rfl

theorem AsksFor.attach (h : s.AsksFor env specifier file s') (handle : Handle) (w : Waiter) :
    s.AsksFor env specifier file (s'.attach handle w) := by
  obtain ⟨new, hCalls, hNew⟩ := h
  exact ⟨new, (calls_attach s' handle w).trans hCalls, hNew⟩

theorem flights_passUnbound (env : Setup) (t : Ticket) (work : Work) (s : State) :
    (passUnbound env t work s).cache.flights = s.cache.flights := by
  unfold passUnbound
  split <;> rfl

/-- Asking for a cited pantry starts no discovery, or one of that pantry. -/
theorem asksFor_request (hClass : classify env.cwd specifier file = .ingredient r) (s : State) :
    s.AsksFor env specifier file (s.request env r.pantryName).1 := by
  rcases request_cases env s r.pantryName with ⟨_, _, h⟩ | ⟨_, _, _, h⟩ | ⟨_, _, h⟩ <;> rw [h]
  · exact .of_calls rfl
  · exact .of_calls rfl
  · refine ⟨[⟨r.pantryName, s.cache.targetOf env.searchPaths r.pantryName⟩], List.map_append, ?_⟩
    intro call hCall
    obtain rfl := List.mem_singleton.mp hCall
    exact ⟨r, hClass, rfl, r.properCall _⟩

/-- An import starts no discovery, or one of the pantry that it cites. -/
theorem asksFor_resolve (env : Setup) (s : State) (what : Import) (receiver : Receiver) :
    s.AsksFor env what.specifier what.file (s.resolve env what receiver).1 := by
  rcases resolve_cases env s what receiver with
    ⟨_, _, _, h⟩ | ⟨_, h⟩ | ⟨citation, _, hClass, h⟩ | ⟨_, _, _, h⟩ <;> rw [h]
  · exact .of_calls rfl
  · exact .of_calls rfl
  · exact (asksFor_request hClass (s.note _)).attach _ _
  · exact .of_calls rfl

/-- So does an import that is bound to no compilation. -/
theorem asksFor_runUnbound (env : Setup) (s : State) (t : Ticket) (specifier file : Value) :
    s.AsksFor env specifier file (s.runUnbound env t specifier file) := by
  unfold runUnbound
  simp only
  split
  · exact .of_calls (congrArg (List.map Flight.call) (flights_passUnbound _ _ _ _))
  · exact .of_calls (congrArg (List.map Flight.call) (flights_passUnbound _ _ _ _))
  · split
    · exact .of_calls rfl
    · exact .of_calls (congrArg (List.map Flight.call) (flights_passUnbound _ _ _ _))
  · rename_i r hClass
    split
    · split <;> exact .of_calls rfl
    · exact (asksFor_request hClass (s.note _)).attach _ _

-- ---------------------------------------------------------------------------
-- Where files come from
-- ---------------------------------------------------------------------------

theorem giveOnce_file {session : SessionId} {fresh : Outcome}
    (h : (s.giveOnce session path fresh).2 = .file text) : fresh = .file text := by
  rcases giveOnce_cases s session path fresh with hFresh | hEmpty
  · exact hFresh.symm.trans h
  · exact absurd (hEmpty.symm.trans h) (by simp [Outcome.suppressed])

/-- A file that is given is an entry point of the pantry. -/
theorem resolveIn_file {session : SessionId} {specifier ingredient : String}
    (h : (s.resolveIn env session specifier P ingredient).2 = .file text) :
    ∃ path, P.entryPointFor env.cwd ingredient Pantry.styleKind = .ok path ∧
      text = path.toString := by
  rcases resolveIn_cases env s session specifier P ingredient with
    ⟨path, hEntry, _, hIn⟩ | ⟨_, _, hIn⟩
  · rw [hIn] at h
    exact ⟨path, hEntry, (Outcome.file.inj (giveOnce_file h)).symm⟩
  · rw [hIn] at h
    exact absurd h (by simp)

/-- A file that is given at once is an entry point of the cited pantry, which is at hand. -/
theorem resolve_file {what : Import} {receiver : Receiver}
    (h : (s.resolve env what receiver).2 = .answered (.file text)) :
    ∃ r P path, classify env.cwd what.specifier what.file = .ingredient r ∧
      s.cache.get? r.pantryName = some P ∧
      P.entryPointFor env.cwd r.ingredientName Pantry.styleKind = .ok path ∧
      text = path.toString := by
  unfold resolve at h
  split at h
  · exact absurd h (by simp)
  · exact absurd h (by simp)
  · replace h := Reply.answered.inj h
    unfold resolveRelative at h
    split at h
    · exact absurd (giveOnce_file h) (by simp)
    · exact absurd h (by simp)
  · rename_i r hClass
    simp only at h
    split at h
    · rename_i P hGet
      obtain ⟨path, hEntry, hText⟩ := resolveIn_file (Reply.answered.inj h)
      exact ⟨r, P, path, hClass, hGet, hEntry, hText⟩
    · split at h <;> exact absurd h (by simp)

/-- A file that is delivered is an entry point of the pantry that was promised. -/
theorem complete_file {session : SessionId} {specifier : String} {settlement : Settlement}
    (h : (s.complete env session specifier r settlement).2 = .file text) :
    ∃ P path, settlement = .kept P ∧
      P.entryPointFor env.cwd r.ingredientName Pantry.styleKind = .ok path ∧
      text = path.toString := by
  cases settlement with
  | kept P =>
    obtain ⟨path, hEntry, hText⟩ := resolveIn_file h
    exact ⟨P, path, rfl, hEntry, hText⟩
  | broken fault => exact absurd h (by simp [complete])
  | cancelled => exact absurd h (by simp [complete])

-- ---------------------------------------------------------------------------
-- Where entry points lie
-- ---------------------------------------------------------------------------

/-- An entry point of a pantry that was found in a tree lies below its directory, and that is where
the search paths and the seeds put it. -/
theorem confined_of_found (hCwd : env.cwd.isAbsolute = true)
    (hPaths : env.searchPaths = config.searchPaths) (h : Moves env cancels (seeded config) s)
    (hFound : s.cache.FoundInTree env.cwd r.pantryName P)
    (hEntry : P.entryPointFor env.cwd r.ingredientName kind = .ok path) :
    config.Confined env.cwd r P path := by
  obtain ⟨f, hf, ⟨d, hHere, hProper, hResult⟩, hName, hBrings⟩ := hFound
  -- the pantry is what the tree answered, under its registered name
  obtain ⟨p, hAnswer, rfl⟩ : ∃ p, (d.answer f.call).returned = .pantry p ∧
      p.named r.pantryName = P := by
    unfold Flight.brings at hBrings
    rw [hResult] at hBrings
    split at hBrings
    · rename_i p hPantry
      exact ⟨p, Option.some.inj hPantry, hName ▸ Option.some.inj hBrings⟩
    · exact absurd hBrings (by simp)
  have hTarget : config.targetFor r.pantryName = some f.call.target :=
    hName ▸ (h.routed hPaths).calls f hf
  have hAnchored : d.cwd.isAbsolute = true := hHere ▸ hCwd
  have hLies : ∀ {place : Path}, (d.load f.call.name place).result = .ok p →
      config.PantryRoot env.cwd r (env.cwd.absolute place) →
      config.Confined env.cwd r (p.named r.pantryName) path := by
    intro place hLoad hRoot
    obtain ⟨hPath, hBelow⟩ := Discovery.entryPoint_below hAnchored hProper hLoad hEntry
    rw [hHere] at hPath hBelow
    exact ⟨_, hPath, hRoot, hBelow.normalize, hBelow⟩
  unfold Config.targetFor at hTarget
  rcases Discovery.answer_eq_pantry hAnswer with
    ⟨searchPaths, hSearch, q, hq, hLoad⟩ | ⟨place, hPlace, hLoad⟩
  · rw [hSearch] at hTarget
    refine hLies hLoad ?_
    split at hTarget
    · rename_i hSeed
      obtain rfl := Target.search.inj (Option.some.inj hTarget)
      rw [hName, r.candidate_pantryName, Discovery.absolute_pathBelow r.up_not_mem_pantryWay]
      exact .searched hSeed hq
    · exact absurd hTarget (by simp)
    · exact absurd hTarget (by simp)
  · rw [hPlace] at hTarget
    refine hLies hLoad ?_
    split at hTarget
    · exact absurd hTarget (by simp)
    · rename_i other hSeed
      obtain rfl := Target.location.inj (Option.some.inj hTarget)
      exact .located hSeed
    · exact absurd hTarget (by simp)

/-- Where all calls are answered from trees, whatever is not described was found in one. -/
theorem found_of_version (h : Moves env cancels (seeded config) s)
    (hTrees : ∀ f ∈ s.cache.flights, ∀ returned, f.result? = some returned → f.FromTree env.cwd)
    {name : String} (hSeed : ∀ Q, config.pantries.get? name ≠ some (.descriptor Q))
    (hVersion : P ∈ s.versions config name) : s.cache.FoundInTree env.cwd name P := by
  rcases h.mem_versions.mp hVersion with ⟨i, f, hServes, hBrings⟩ | hKnown
  · have hf := List.mem_of_getElem? hServes.1
    have hResult : ∃ returned, f.result? = some returned := by
      unfold Flight.brings at hBrings
      split at hBrings
      · rename_i p hSome
        exact ⟨_, hSome⟩
      · exact absurd hBrings (by simp)
    obtain ⟨returned, hReturned⟩ := hResult
    exact ⟨f, hf, hTrees f hf returned hReturned, hServes.2, hBrings⟩
  · rw [get?_ofSeeds] at hKnown
    split at hKnown
    · rename_i Q hDescribed
      exact absurd hDescribed (hSeed Q)
    · exact absurd hKnown (by simp)

-- ---------------------------------------------------------------------------
-- Runs
-- ---------------------------------------------------------------------------

/-- **No document gets out of the pantry it cites.** In every state that an importer comes to, also
in the middle of a job: whatever is imported, a discovery that is started for it looks for the cited
pantry under one or two names that do not lead up. A file that is given at once, or delivered later,
is an entry point of a version of the pantry that was cited; and where that pantry was found in a
directory tree, the file is normalised and lies strictly below the directory of the pantry, which
lies in a configured search path under the names of the pantry or at the location of its seed. Where
all calls are answered from trees, every pantry is of this kind that the configuration does not
describe. -/
theorem files_confined (hCwd : env.cwd.isAbsolute = true)
    (hPaths : env.searchPaths = config.searchPaths) (h : Moves env cancels (seeded config) s) :
    (∀ what receiver,
      s.AsksFor env what.specifier what.file (s.resolve env what receiver).1) ∧
    (∀ t specifier file,
      s.AsksFor env specifier file (s.runUnbound env t specifier file)) ∧
    (∀ what receiver text, (s.resolve env what receiver).2 = .answered (.file text) →
      ∃ r P path, classify env.cwd what.specifier what.file = .ingredient r ∧
        P ∈ s.versions config r.pantryName ∧ text = path.toString ∧
        (s.cache.FoundInTree env.cwd r.pantryName P → config.Confined env.cwd r P path)) ∧
    (∀ t e before text, e :: before <:+ s.journal → e.answerTo? = some t →
      e.answer? = some (.file text) →
      ∃ written r P path, Citation.ofString? written = some r ∧
        lastDeferred? t before = some (written, r.pantryName) ∧
        P ∈ s.versions config r.pantryName ∧ text = path.toString ∧
        (s.cache.FoundInTree env.cwd r.pantryName P → config.Confined env.cwd r P path)) ∧
    ((∀ f ∈ s.cache.flights, ∀ returned, f.result? = some returned → f.FromTree env.cwd) →
      ∀ name P, (∀ Q, config.pantries.get? name ≠ some (.descriptor Q)) →
        P ∈ s.versions config name → s.cache.FoundInTree env.cwd name P) := by
  refine ⟨asksFor_resolve env s, asksFor_runUnbound env s, fun what receiver text hFile => ?_,
    fun t e before text hSuffix hTo hFile => ?_,
    fun hTrees name P hSeed hVersion => found_of_version h hTrees hSeed hVersion⟩
  · obtain ⟨r, P, path, hClass, hGet, hEntry, hText⟩ := resolve_file hFile
    exact ⟨r, P, path, hClass, h.version_of_uses (.atHand hGet), hText,
      fun hFound => confined_of_found hCwd hPaths h hFound hEntry⟩
  · rcases h.answers_journal hSuffix hTo hFile with ⟨_, _, _, hFails⟩ | hTold
    · exact absurd hFails (by simp)
    · obtain ⟨s₁, _, written, r, settlement, hStart, hThen, hKnown, hSpelled, hLast, hOutcome⟩ :=
        hTold
      obtain ⟨P, path, rfl, hEntry, hText⟩ := complete_file hOutcome
      have hVersion : P ∈ s.versions config r.pantryName :=
        (hThen.versions_suffix config _).subset (hStart.known_kept_iff.mp hKnown)
      exact ⟨written, r, P, path, hSpelled, hLast, hVersion, hText,
        fun hFound => confined_of_found hCwd hPaths h hFound hEntry⟩

/-- A tree in which a directory of pantries is linked into the working directory. -/
def linkedTree : Discovery where
  tree := Tree.ofPaths [Path.ofString "/w/sub"]
    [Path.ofString "/real/p/i/ingredient.md", Path.ofString "/real/p/i/index.scss"]
    [(Path.ofString "/w/lib", Path.ofString "/real")]
  cwd := Path.ofString "/w"
  fileNames := Discovery.defaultFileNames

/-- The linked directory is searched, and its path has a `..` in it. -/
def linking : Config where
  pantries := {}
  searchPaths := [Path.ofString "sub/../lib"]

/-- An importer that looks for pantries in this tree and is answered from outside. -/
def linked : Setup :=
  { Setup.manual with
    cwd := linkedTree.cwd
    searchPaths := linking.searchPaths }

/-- A pantry was found behind the link, and an import is told of it. -/
def crossed : State :=
  (actAll linked [.importing ⟨.named "main", .str "p/i", .str "/main.scss"⟩ .stop, .tick,
    .release 0 (linkedTree.answer ⟨"p", .search linked.searchPaths⟩), .tick, .tick]
    (create linked linking)).1

/-- The call is for the pantry alone, and the file that is delivered lies below the search path,
with neither the link nor the `..` followed. -/
theorem files_confined_linked :
    let told := Event.delivered 0 (.file "/w/lib/p/i/index.scss")
    linked.cwd.isAbsolute = true ∧ linked.searchPaths = linking.searchPaths ∧
      Moves linked True (seeded linking) crossed ∧
      (∀ f ∈ crossed.cache.flights, f.FromTree linked.cwd) ∧
      ∃ before r P path, told :: before <:+ crossed.journal ∧
        lastDeferred? 0 before = some ("p/i", r.pantryName) ∧
        path.toString = "/w/lib/p/i/index.scss" ∧ linking.Confined linked.cwd r P path := by
  intro told
  have hReach : Reachable linked linking crossed := .actAll _ .create
  have hTrees : ∀ f ∈ crossed.cache.flights, f.FromTree linked.cwd := by
    intro f hf
    obtain rfl := List.mem_singleton.mp (show f ∈ [_] from hf)
    exact ⟨linkedTree, rfl, Tree.proper_ofPaths _ _ _, rfl⟩
  have hSuffix : told :: crossed.journal.tail <:+ crossed.journal := by
    obtain ⟨before, hEq⟩ : ∃ before, crossed.journal = told :: before :=
      List.head?_eq_some_iff.mp (by decide +kernel)
    rw [hEq]
    exact List.suffix_refl _
  have hLast : lastDeferred? 0 crossed.journal.tail = some ("p/i", "p") := by decide +kernel
  obtain ⟨_, _, _, hDelivered, hFound⟩ := files_confined rfl rfl hReach.moves
  obtain ⟨_, r, P, path, _, hDeferred, hVersion, hText, hConfined⟩ :=
    hDelivered 0 told _ _ hSuffix rfl rfl
  refine ⟨rfl, rfl, hReach.moves, hTrees, _, r, P, path, hSuffix, ?_, hText.symm, ?_⟩
  · obtain ⟨rfl, _⟩ := Prod.mk.inj (Option.some.inj (hLast.symm.trans hDeferred))
    exact hDeferred
  · have hSeed : ∀ Q, linking.pantries.get? r.pantryName ≠ some (.descriptor Q) := fun _ hSome =>
      absurd (show none = some _ from hSome) (by simp)
    exact hConfined (hFound (fun f hf _ _ => hTrees f hf) _ _ hSeed hVersion)

end State

end Larder
