import Larder.Proofs.Discovery.Search
import Larder.Proofs.Importer.Errand

/-!
# Larder — what an import means

What a compilation hears for the citation of an ingredient is decided by the directory tree: by the
first search path that has the pantry, and by what lies on the way of the ingredient's name below
it. The cache, the discovery and the scan stand between the citation and the tree, and none of them
shows: whether the pantry is at hand already, or is found at once, or is found later, the outcome is
the same.

An importer without seeds looks for every pantry in its search paths (`Cache.Searches`). So the
pantry that is at hand is the one that a discovery would find now.

How long paths are matters, too. A search path that cannot be asked for ends the search, and a
directory that cannot be asked for is not read, whatever there is in the tree.

## Results

* `Moves.searches`: without seeds all pantries are looked for in the search paths.
* `answerOf_means`: the answer for a found pantry is the one that the tree means.
* `imported_as_meant`: an import comes to what its citation means.
* `decided_by_length`: it would not, if paths could be of any length.
-/

namespace Larder

-- ---------------------------------------------------------------------------
-- Where pantries are looked for
-- ---------------------------------------------------------------------------

/-- Whether all pantries have been looked for in the search paths and will be. -/
structure Cache.Searches (c : Cache) (searchPaths : List Path) : Prop where
  locations : ∀ name, c.locations.get? name = none
  targets : ∀ (i : FlightId) f, c.flights[i]? = some f → f.call.target = .search searchPaths

variable {c : Cache} {searchPaths : List Path}

namespace Cache

theorem Searches.targetOf (h : c.Searches searchPaths) (name : String) :
    c.targetOf searchPaths name = .search searchPaths := by
  rw [Cache.targetOf, h.locations]

theorem Searches.modify (h : c.Searches searchPaths) (i : FlightId) {change : Flight → Flight}
    (hCall : ∀ f, (change f).call = f.call) : (c.modifyFlight i change).Searches searchPaths where
  locations := h.locations
  targets := by
    intro j f hFlight
    rw [getElem?_modifyFlight, Option.map_eq_some_iff] at hFlight
    obtain ⟨g, hOld, rfl⟩ := hFlight
    split
    · rw [hCall]
      exact h.targets j g hOld
    · exact h.targets j g hOld

theorem Searches.start (h : c.Searches searchPaths) (name : String) :
    (c.start searchPaths name).Searches searchPaths where
  locations := h.locations
  targets := by
    intro j f hFlight
    rw [getElem?_start] at hFlight
    split at hFlight
    · obtain rfl := Option.some.inj hFlight
      exact h.targetOf name
    · exact h.targets j f hFlight

/-- A place to load a pantry from may be struck out, but none is entered. -/
theorem Searches.conclude (h : c.Searches searchPaths) (name : String) (i : FlightId)
    (result : Except Fault Pantry) : (c.conclude name i result).Searches searchPaths where
  locations := by
    intro other
    cases result with
    | error => simpa [Cache.conclude, release, apply_ite Cache.locations] using h.locations other
    | ok P =>
      have hErased : (c.locations.erase name).get? other = none := by
        rw [Registry.get?_erase, h.locations]
        split <;> rfl
      simpa [Cache.conclude, release, apply_ite Cache.locations] using hErased
  targets := by
    intro j f hFlight
    rw [State.flights_conclude] at hFlight
    exact h.targets j f hFlight

end Cache

theorem Fleet.searches_step {env : Setup} {cancels : Prop} {F F' : Fleet}
    (hStep : Step env cancels F F') (h : F.cache.Searches env.searchPaths) :
    F'.cache.Searches env.searchPaths := by
  cases hStep with
  | start => exact h.start _
  | wait => exact h.modify _ fun _ => rfl
  | cancel =>
    show (F.cache.settle _ _).Searches _
    rw [Cache.settle_eq]
    exact h.modify _ fun f => Flight.call_settledWith f _
  | launch => exact h.modify _ fun _ => rfl
  | comeBack => exact h.modify _ fun _ => rfl
  | land =>
    show (Cache.land _ _ _ _).Searches _
    rw [Cache.land, Cache.settle_eq]
    refine Cache.Searches.modify (Cache.Searches.conclude ?_ _ _ _) _ fun f =>
      Flight.call_settledWith f _
    exact h.modify _ fun _ => rfl
  | drop => exact h

namespace State

variable {env : Setup} {config : Config} {cancels : Prop} {s s' : State} {d : Discovery}
  {what : Import} {script : Script} {citation : Citation} {outcome : Outcome} {P : Pantry}

/-- Without seeds all pantries are looked for in the search paths. -/
theorem Moves.searches (h : Moves env cancels (seeded config) s)
    (hUnseeded : config.pantries = .empty) : s.cache.Searches env.searchPaths := by
  have hSteps : Fleet.Steps env cancels (seeded config).fleet s.fleet := h.fleet
  have hFirst : (seeded config).fleet.cache.Searches env.searchPaths := by
    show (Cache.ofSeeds config.pantries).Searches env.searchPaths
    rw [hUnseeded]
    refine ⟨fun _ => rfl, fun i f hFlight => ?_⟩
    simp [Cache.ofSeeds, Registry.empty] at hFlight
  suffices hAll : ∀ F, Fleet.Steps env cancels (seeded config).fleet F →
      F.cache.Searches env.searchPaths from hAll s.fleet hSteps
  intro F hSteps
  induction hSteps with
  | refl => exact hFirst
  | tail _ hStep ih => exact Fleet.searches_step hStep ih

end State

-- ---------------------------------------------------------------------------
-- What the tree answers
-- ---------------------------------------------------------------------------

/-- Whether an importer has its pantries from a directory tree: what the collaborator answers at
once and what all ended discoveries returned is what the tree answers. -/
structure Discovery.Feeds (d : Discovery) (env : Setup) (s : State) : Prop where
  cwd : d.cwd = env.cwd
  atOnce : ∀ i call landing, env.collaborator i call = some landing → landing = d.answer call
  earlier : ∀ (i : FlightId) f returned, s.cache.flights[i]? = some f →
    f.result? = some returned → returned = (d.answer f.call).returned

variable {d : Discovery} {r : Citation} {specifier : String} {outcome : Outcome}

/-- What everyone learns when a pantry was looked for in the search paths. -/
def Discovery.resultOf (d : Discovery) (name : String) (searchPaths : List Path) :
    Except Fault Pantry :=
  conclude name (d.answer ⟨name, .search searchPaths⟩).returned

theorem Discovery.resultOf_eq (d : Discovery) (name : String) (searchPaths : List Path) :
    d.resultOf name searchPaths = match (d.discover name searchPaths).result with
      | .ok P => .ok (P.named name)
      | .error fault => conclude name (.raised fault) := by
  rw [Discovery.resultOf, Discovery.answer]
  simp only [Finding.landing]
  cases (d.discover name searchPaths).result <;> rfl

/-- The pantry that is loaded from the first directory found. -/
theorem Discovery.resultOf_of_stops (hAnchored : d.Anchored)
    (hPaths : ∀ p ∈ searchPaths, Component.up ∉ p.parts) {p : Path} {place : Place}
    (hStops : d.StopsAt r.pantryName searchPaths p (.directory place)) :
    d.resultOf r.pantryName searchPaths = .ok ⟨some r.pantryName, some (d.rootOf r.pantryName p),
      d.published (d.rootOf r.pantryName p) place⟩ := by
  have hRelative : (Path.ofString r.pantryName).root = .relative := by rw [r.ofString_pantryName]
  have hStraight : Component.up ∉ (Path.ofString r.pantryName).parts := by
    rw [r.ofString_pantryName]
    exact r.up_not_mem_pantryWay
  have hMem : p ∈ searchPaths := hStops.mem
  rw [Discovery.resultOf_eq, Discovery.discover_of_stops_directory hRelative hStops,
    Discovery.load_of_arrival hAnchored (hPaths p hMem) hStraight hStops.1]
  simp [Pantry.named, Pantry.ownName?, Option.filter_some, r.pantryName_ne_empty]

/-- The style file of an ingredient lies in the directory of its name. -/
theorem Discovery.absolute_styleFile (hAnchored : d.Anchored) {p : Path}
    (hp : Component.up ∉ p.parts) :
    d.cwd.absolute ((Discovery.pathBelow (d.rootOf r.pantryName p) r.ingredientWay).join
        (Path.ofString "index.scss")) =
      ((d.rootOf r.pantryName p).join (Path.ofString r.ingredientName)).join
        (Path.ofString "index.scss") := by
  have hBelow : Discovery.pathBelow (d.rootOf r.pantryName p) r.ingredientWay =
      (d.rootOf r.pantryName p).join (Path.ofString r.ingredientName) := by
    rw [r.ofString_ingredientName, Path.join_of_relative rfl]
    rfl
  have hAbsolute : (((d.rootOf r.pantryName p).join (Path.ofString r.ingredientName)).join
      (Path.ofString "index.scss")).isAbsolute = true :=
    Path.isAbsolute_join (Path.isAbsolute_join
      (Discovery.isAbsolute_rootOf hAnchored hp r.pantryName))
  have hUp : Component.up ∉ (((d.rootOf r.pantryName p).join
      (Path.ofString r.ingredientName)).join (Path.ofString "index.scss")).parts := by
    refine Path.not_mem_up_join (Path.not_mem_up_join
      (Discovery.up_not_mem_rootOf hAnchored hp ?_) ?_) (by decide +kernel)
    · rw [r.ofString_pantryName]
      exact r.up_not_mem_pantryWay
    · rw [r.ofString_ingredientName]
      exact r.up_not_mem_ingredientWay
  rw [hBelow, Path.absolute_of_not_mem_up hAnchored.straight hUp,
    Path.join_of_isAbsolute hAbsolute]

/-- A compilation that has just begun is given an entry point. -/
theorem answerOf_of_entryPoint {P : Pantry} {order : Order} {path cwd : Path}
    (h : P.entryPointFor cwd order.2 Pantry.styleKind = .ok path) :
    answerOf cwd order (.ok P) = (Emission.empty.insert path, [.file path.toString]) := by
  simp only [answerOf, Pantry.serve, h]
  rw [Emission.answer_of_not_contains (by rfl)]
  rfl

theorem answerOf_of_fault {P : Pantry} {order : Order} {fault : Fault} {cwd : Path}
    (h : P.entryPointFor cwd order.2 Pantry.styleKind = .error fault) :
    answerOf cwd order (.ok P) = (Emission.empty, [.failure order.1 fault]) := by
  simp only [answerOf, Pantry.serve, h]
  rfl

/-- **The answer is the one that the tree means.** Where it is a file, the pantry was found and has
that entry point. -/
theorem answerOf_means (hAnchored : d.Anchored) (hNames : d.fileNames = Discovery.defaultFileNames)
    (hPaths : ∀ p ∈ searchPaths, Component.up ∉ p.parts)
    (hMeans : d.Means searchPaths specifier r outcome) :
    (answerOf d.cwd (specifier, r.ingredientName) (d.resultOf r.pantryName searchPaths)).2 =
        [outcome] ∧
      ∀ text, outcome = .file text → ∃ P path, d.resultOf r.pantryName searchPaths = .ok P ∧
        P.entryPointFor d.cwd r.ingredientName Pantry.styleKind = .ok path := by
  have hRelative : (Path.ofString r.pantryName).root = .relative := by rw [r.ofString_pantryName]
  have hStyle : d.fileNames.get? Pantry.styleKind = some "index.scss" := by
    rw [hNames]
    rfl
  cases hMeans with
  | noPantry hLacks =>
    rw [Discovery.resultOf_eq, Discovery.discover_of_lacks hRelative hLacks]
    exact ⟨rfl, fun text h => by simp at h⟩
  | tooLong hStops =>
    rw [Discovery.resultOf_eq, Discovery.discover_of_stops_tooLong hRelative hStops]
    exact ⟨rfl, fun text h => by simp at h⟩
  | @file p place hStops hIngredient hFile =>
    have hMem : p ∈ searchPaths := hStops.mem
    obtain ⟨hGiven, _, _⟩ := Discovery.entryPointFor_published d (d.rootOf r.pantryName p) place
      r.ingredientWay r.pantryName_ne_empty d.cwd (d.rootOf r.pantryName p) hStyle
    have hEntry := hGiven (Discovery.isIngredient_iff.mp hIngredient) hFile
    rw [r.nameBelow_ingredientWay, Discovery.absolute_styleFile hAnchored (hPaths p hMem)] at hEntry
    rw [Discovery.resultOf_of_stops hAnchored hPaths hStops, answerOf_of_entryPoint hEntry]
    exact ⟨rfl, fun text _ => ⟨_, _, rfl, hEntry⟩⟩
  | @noStyle p place hStops hIngredient hFile =>
    obtain ⟨_, hLacking, _⟩ := Discovery.entryPointFor_published d (d.rootOf r.pantryName p) place
      r.ingredientWay r.pantryName_ne_empty d.cwd (d.rootOf r.pantryName p) hStyle
    have hFault := hLacking (Discovery.isIngredient_iff.mp hIngredient) hFile
    rw [r.nameBelow_ingredientWay] at hFault
    rw [Discovery.resultOf_of_stops hAnchored hPaths hStops, answerOf_of_fault hFault]
    exact ⟨rfl, fun text h => by simp at h⟩
  | @noIngredient p place hStops hIngredient =>
    obtain ⟨_, _, hMissing⟩ := Discovery.entryPointFor_published d (d.rootOf r.pantryName p) place
      r.ingredientWay r.pantryName_ne_empty d.cwd (d.rootOf r.pantryName p) hStyle
    have hFault := hMissing fun hLeads => hIngredient (Discovery.isIngredient_iff.mpr hLeads)
    rw [r.nameBelow_ingredientWay] at hFault
    rw [Discovery.resultOf_of_stops hAnchored hPaths hStops, answerOf_of_fault hFault]
    exact ⟨rfl, fun text h => by simp at h⟩

/-- A compilation that was given an entry point is not given it again. -/
theorem serve_again {P : Pantry} {cwd path : Path} {order again : Order}
    (hSame : again.2 = order.2) (hPoint : P.entryPointFor cwd order.2 Pantry.styleKind = .ok path) :
    (P.serve cwd ((answerOf cwd order (.ok P)).1, []) again).2 = [.suppressed] := by
  have hGiven : (Emission.empty.insert path).contains path = true := by
    simp [Emission.contains, Emission.insert, mem_insertPath]
  rw [answerOf_of_entryPoint hPoint, Pantry.serve, hSame]
  simp only [hPoint]
  rw [Emission.answer_of_contains hGiven]
  rfl

namespace State

variable {env : Setup} {config : Config} {cancels : Prop} {s s' : State} {what again : Import}
  {script : Script} {citation : Citation}

/-- A pantry at hand is the one that would be found now. -/
theorem resultOf_of_hand (hMoves : Moves env cancels (seeded config) s)
    (hUnseeded : config.pantries = .empty) (hFeeds : d.Feeds env s) {name : String} {P : Pantry}
    (hHand : s.cache.get? name = some P) : d.resultOf name env.searchPaths = .ok P := by
  have hVersion : P ∈ s.versions config name := Moves.version_of_uses hMoves (.atHand hHand)
  rcases (Moves.mem_versions hMoves).mp hVersion with ⟨i, f, hServes, hBrings⟩ | hSeed
  · have hTarget := (Moves.searches hMoves hUnseeded).targets i f hServes.1
    have hCall : f.call = ⟨name, .search env.searchPaths⟩ := by
      rw [← hServes.2, ← hTarget]
    unfold Flight.brings at hBrings
    split at hBrings
    · rename_i p hResult
      have hReturned := hFeeds.earlier i f _ hServes.1 hResult
      rw [hCall] at hReturned hBrings
      rw [Discovery.resultOf, ← hReturned, conclude, Option.some.inj hBrings]
    · exact absurd hBrings (by simp)
  · rw [hUnseeded] at hSeed
    simp [Cache.ofSeeds, Registry.empty, Cache.get?, Registry.get?, lookupPair] at hSeed

/-- Whether an action lets a job run, or ends a call of the discovery that would be started next by
what the tree answers. -/
abbrev WaitsFor (env : Setup) (s : State) (d : Discovery) (name : String) (a : Action) : Prop :=
  a.Waits s.cache.flights.length (d.answer ⟨name, .search env.searchPaths⟩)

/-- An import of a quiet importer sets out on an errand, or is answered from what the tree has been
found to hold. -/
theorem errand_progress (script : Script) (hMoves : Moves env cancels (seeded config) s)
    (hUnseeded : config.pantries = .empty) (hQuiet : s.Quiet) (hRunning : env.running = true)
    (hFeeds : d.Feeds env s)
    (hClass : classify env.cwd what.specifier what.file = .ingredient citation)
    (hFresh : s.emission what.session = Emission.empty) {landing : Landing}
    (hLanding : landing = d.answer ⟨citation.pantryName, .search env.searchPaths⟩) :
    let e := s.errand env what script citation landing
    e.result = d.resultOf citation.pantryName env.searchPaths ∧
      (∀ other, env.collaborator e.flight e.call = some other → other = landing) ∧
      e.Progress env.cwd
        ((s.receptions env (.importing what script)).filterMap
          (Reception.forSession what.session))
        (s.act env (.importing what script)).1 := by
  intro e
  have hCall : e.call = ⟨citation.pantryName, .search env.searchPaths⟩ :=
    congrArg (Call.mk _) ((Moves.searches hMoves hUnseeded).targetOf citation.pantryName)
  have hResult : e.result = d.resultOf citation.pantryName env.searchPaths := by
    rw [Discovery.resultOf, ← hLanding]
    rfl
  refine ⟨hResult, fun other hOther => ?_, ?_⟩
  · rw [hLanding, ← hCall]
    exact hFeeds.atOnce _ _ other hOther
  · cases hHand : s.cache.get? citation.pantryName with
    | some P =>
      exact .done (errand_done hQuiet hClass hHand hFresh
        (hResult.trans (resultOf_of_hand hMoves hUnseeded hFeeds hHand)))
    | none =>
      obtain ⟨hNothing, hAwaiting⟩ := errand_awaiting (Moves.sound hMoves) hQuiet hRunning hClass
        hHand hFresh landing
      rw [hNothing]
      exact .scheduled hAwaiting

/-- An import of an ingredient that its compilation was given from a pantry at hand is
suppressed. -/
theorem suppressed_again {name : String} {session : SessionId} {P : Pantry} {path : Path}
    {order : Order} (hHand : s.cache.get? name = some P)
    (hGiven : s.emission session = (answerOf env.cwd order (.ok P)).1)
    (hPoint : P.entryPointFor env.cwd order.2 Pantry.styleKind = .ok path)
    (hSession : again.session = session)
    (hClass : classify env.cwd again.specifier again.file = .ingredient citation)
    (hPantry : citation.pantryName = name) (hIngredient : citation.ingredientName = order.2) :
    answersTo env session [.importing again script] s = [.suppressed] := by
  have hCites : again.Cites env.cwd session name := ⟨hSession, citation, hClass, hPantry⟩
  have hOrder : again.order? env.cwd = some (again.specifier.text, citation.ingredientName) := by
    simp only [Import.order?, hClass]
  have hHeard : answersTo env session [.importing again script] s =
      (s.receptions env (.importing again script)).filterMap (Reception.forSession session) := by
    simp only [answersTo, allReceptions, List.append_nil]
  obtain ⟨_, _, hServed⟩ := importing_at_hand hCites hHand script []
  rw [hOrder, hGiven] at hServed
  have hServe : (P.serve env.cwd ((answerOf env.cwd order (.ok P)).1, [])
      (again.specifier.text, citation.ingredientName)).2 = [.suppressed] :=
    serve_again hIngredient hPoint
  have hAnswers := congrArg Prod.snd hServed
  rw [hHeard]
  exact hAnswers.symm.trans hServe

/-- **An import comes to what its citation means.** A compilation that has been given nothing yet
imports an ingredient from a quiet importer without seeds that has its pantries from a tree.
Whatever the importer has done before for others, and in whatever order the jobs run and the call of
the discovery comes back, if one is needed: it can come to rest, and when it does, the compilation
has heard one outcome, the one that the citation means in the tree. If that is a file, it is not
given again when the compilation imports the ingredient once more. -/
theorem imported_as_meant (hReach : Reachable env config s) (hUnseeded : config.pantries = .empty)
    (hQuiet : s.Quiet) (hRunning : env.running = true) (hFeeds : d.Feeds env s)
    (hAnchored : d.Anchored) (hNames : d.fileNames = Discovery.defaultFileNames)
    (hPaths : ∀ p ∈ env.searchPaths, Component.up ∉ p.parts)
    (hClass : classify env.cwd what.specifier what.file = .ingredient citation)
    (hFresh : s.emission what.session = Emission.empty) (hIdle : script.isIdle = true) :
    (∃ outcome, d.Means env.searchPaths what.specifier.text citation outcome) ∧
    (∃ rest, (∀ a ∈ rest, WaitsFor env s d citation.pantryName a) ∧
      (actAll env (.importing what script :: rest) s).1.Quiet) ∧
    ∀ outcome rest, d.Means env.searchPaths what.specifier.text citation outcome →
      (∀ a ∈ rest, WaitsFor env s d citation.pantryName a) →
      (actAll env (.importing what script :: rest) s).1 = s' → s'.Quiet →
      answersTo env what.session (.importing what script :: rest) s = [outcome] ∧
      ∀ text again script', outcome = .file text → again.session = what.session →
        classify env.cwd again.specifier again.file = .ingredient citation →
        answersTo env what.session [.importing again script'] s' = [.suppressed] := by
  obtain ⟨hResult, hAtOnce, hProgress⟩ := errand_progress script hReach.moves hUnseeded
    hQuiet hRunning hFeeds hClass hFresh rfl
  refine ⟨Discovery.exists_means d _ _ _, hProgress.exists_rest hIdle hAtOnce, ?_⟩
  intro outcome rest hMeans hWaits hRun hEnds
  subst hRun
  have hDone := (hProgress.run hIdle hAtOnce hWaits).done_of_quiet hEnds
  have hHeard : answersTo env what.session (.importing what script :: rest) s =
      (s.receptions env (.importing what script)).filterMap (Reception.forSession what.session) ++
        answersTo env what.session rest (s.act env (.importing what script)).1 := by
    simp only [answersTo, allReceptions, List.filterMap_append]
  obtain ⟨hAnswer, hFile⟩ := answerOf_means hAnchored hNames hPaths hMeans
  rw [hFeeds.cwd] at hAnswer hFile
  have hAnswered := hDone.answered
  rw [hResult] at hAnswered
  refine ⟨hHeard.trans ((congrArg Prod.snd hAnswered).trans hAnswer), ?_⟩
  -- where the outcome is a file, the pantry was found and is at hand now
  intro text again script' hText hSession hAgain
  obtain ⟨P, path, hFound, hPoint⟩ := hFile text hText
  have hGiven := congrArg Prod.fst hAnswered
  rw [hFound] at hGiven
  exact suppressed_again (hDone.found P (hResult.trans hFound)) hGiven hPoint hSession hAgain rfl
    rfl

/-- The directories of a tree in which a scoped pantry lies. -/
def scopedPlace : Place :=
  [⟨"w", by decide +kernel⟩, ⟨"lib", by decide +kernel⟩, ⟨"@s", by decide +kernel⟩,
    ⟨"p", by decide +kernel⟩]

/-- The way from the pantry to an ingredient of it. -/
def scopedWay : List Component := [⟨"a", by decide +kernel⟩, ⟨"b", by decide +kernel⟩]

/-- A tree with the pantry and the ingredient, and with a file of the pantry's name elsewhere. -/
def shelf : Discovery where
  tree := Tree.ofPaths [⟨.single, scopedPlace ++ scopedWay⟩]
    [⟨.single, scopedPlace.drop 2⟩, ⟨.single, scopedPlace ++ scopedWay ++
      [⟨"ingredient.md", by decide +kernel⟩]⟩, ⟨.single, scopedPlace ++ scopedWay ++
      [⟨"index.scss", by decide +kernel⟩]⟩] []
  cwd := ⟨.single, scopedPlace.take 1⟩
  fileNames := Discovery.defaultFileNames

/-- An importer that looks for pantries in this tree and is answered from outside. -/
def shelved : Setup :=
  { Setup.manual with
    cwd := shelf.cwd
    searchPaths := [⟨.single, []⟩, ⟨.relative, [⟨"lib", by decide +kernel⟩]⟩] }

/-- The citation of the ingredient. -/
def shelvedCitation : Citation := ⟨some ⟨"s", rfl⟩, ⟨"p", rfl⟩, ⟨"a", rfl⟩, [⟨"b", rfl⟩]⟩

theorem shelf_means : shelf.Means shelved.searchPaths "@s/p/a/b" shelvedCitation
    (.file "/w/lib/@s/p/a/b/index.scss") := by
  have hStops : shelf.StopsAt shelvedCitation.pantryName shelved.searchPaths
      ⟨.relative, [⟨"lib", by decide +kernel⟩]⟩ (.directory scopedPlace) := by
    refine ⟨by decide +kernel, [⟨.single, []⟩], [], rfl, ?_⟩
    simp only [List.forall_mem_singleton]
    exact Or.inr (by decide +kernel)
  have hIngredient : shelf.IsIngredient
      (shelf.rootOf shelvedCitation.pantryName ⟨.relative, [⟨"lib", by decide +kernel⟩]⟩)
      scopedPlace shelvedCitation := by
    refine Discovery.isIngredient_iff.mpr ⟨by decide, ?_, ?_⟩
    · refine Discovery.descends_cons.mpr ⟨⟨?_, ?_, ?_⟩, Discovery.descends_cons.mpr
        ⟨⟨?_, ?_, ?_⟩, Discovery.descends_nil⟩⟩ <;> decide +kernel
    · exact ⟨⟨"ingredient.md", by decide +kernel⟩, rfl, Or.inl (by decide +kernel)⟩
  have hStyle : shelf.HoldsFile
      (shelf.rootOf shelvedCitation.pantryName ⟨.relative, [⟨"lib", by decide +kernel⟩]⟩)
      (scopedPlace ++ scopedWay) scopedWay "index.scss" :=
    ⟨⟨"index.scss", by decide +kernel⟩, rfl, Or.inl (by decide +kernel)⟩
  have hPath : (((shelf.rootOf shelvedCitation.pantryName
      ⟨.relative, [⟨"lib", by decide +kernel⟩]⟩).join (Path.ofString
        shelvedCitation.ingredientName)).join (Path.ofString "index.scss")).toString =
      "/w/lib/@s/p/a/b/index.scss" := by decide +kernel
  rw [← hPath]
  exact .file hStops hIngredient hStyle

/-- The file of the scoped pantry is given, and then it is suppressed. -/
theorem imported_as_meant_shelved :
    let what : Import := ⟨.named "main", .str "@s/p/a/b", .str "/main.scss"⟩
    let answer := shelf.answer ⟨"@s/p", .search shelved.searchPaths⟩
    let actions : List Action := [.importing what .stop, .tick, .release 0 answer, .tick, .tick]
    answersTo shelved (.named "main") actions (create shelved Config.bare) =
        [.file "/w/lib/@s/p/a/b/index.scss"] ∧
      answersTo shelved (.named "main") [.importing what .fail]
        (actAll shelved actions (create shelved Config.bare)).1 = [.suppressed] := by
  intro what answer actions
  have hQuiet : (create shelved Config.bare).Quiet := ⟨rfl, fun f hf => absurd hf List.not_mem_nil⟩
  have hFeeds : shelf.Feeds shelved (create shelved Config.bare) :=
    ⟨rfl, fun _ _ landing h => absurd (h : (none : Option Landing) = some landing) nofun,
      fun _ f _ h => absurd (h : (none : Option Flight) = some f) nofun⟩
  have hAnchored : shelf.Anchored := ⟨by decide +kernel, by decide +kernel, by decide +kernel⟩
  have hPaths : ∀ p ∈ shelved.searchPaths, Component.up ∉ p.parts := by decide +kernel
  have hClass : classify shelved.cwd what.specifier what.file = .ingredient shelvedCitation := by
    decide +kernel
  have hName : shelvedCitation.pantryName = "@s/p" := by decide +kernel
  have hWaits : ∀ a ∈ [.tick, .release 0 answer, .tick, .tick],
      WaitsFor shelved (create shelved Config.bare) shelf shelvedCitation.pantryName a := by
    rw [hName]
    simp only [List.forall_mem_cons]
    exact ⟨Or.inl rfl, Or.inr ⟨0, answer, rfl, fun _ => rfl⟩, Or.inl rfl, Or.inl rfl, by simp⟩
  have hEnds : (actAll shelved actions (create shelved Config.bare)).1.Quiet := by
    refine ⟨List.isEmpty_iff.mp (by decide +kernel), fun f hf => ?_⟩
    have hAll : ((actAll shelved actions (create shelved Config.bare)).1.cache.flights.all
        fun f => !f.live) = true := by decide +kernel
    simpa using List.all_eq_true.mp hAll f hf
  have hIdle : Script.stop.isIdle = true := rfl
  obtain ⟨_, _, hAll⟩ := imported_as_meant .create rfl hQuiet rfl hFeeds hAnchored rfl hPaths hClass
    rfl hIdle
  obtain ⟨hAnswer, hAgain⟩ := hAll _ _ shelf_means hWaits rfl hEnds
  exact ⟨hAnswer, hAgain _ what .fail rfl rfl hClass⟩

-- ---------------------------------------------------------------------------
-- Paths that are too long
-- ---------------------------------------------------------------------------

/-- Where calls are answered at once, the first import of all is answered two jobs later, as its
citation means. -/
theorem answersTo_of_means {outcome : Outcome} (hRunning : env.running = true)
    (hAnchored : d.Anchored) (hNames : d.fileNames = Discovery.defaultFileNames)
    (hCwd : d.cwd = env.cwd) (hAtOnce : ∀ i call, env.collaborator i call = some (d.answer call))
    (hPaths : ∀ p ∈ env.searchPaths, Component.up ∉ p.parts)
    (hClass : classify env.cwd what.specifier what.file = .ingredient citation)
    (hIdle : script.isIdle = true)
    (hMeans : d.Means env.searchPaths what.specifier.text citation outcome) :
    answersTo env what.session [.importing what script, .tick, .tick] (create env Config.bare) =
      [outcome] := by
  have hMoves : Moves env False (seeded Config.bare) (create env Config.bare) :=
    create_moves env Config.bare
  have hCreated : create env Config.bare = seeded Config.bare := by
    simp only [create, hRunning, if_true]
    rfl
  have hQuiet : (create env Config.bare).Quiet := by
    rw [hCreated]
    exact ⟨rfl, fun f hf => absurd hf List.not_mem_nil⟩
  have hNone : (create env Config.bare).cache.get? citation.pantryName = none := by
    rw [hCreated]
    rfl
  have hFresh : (create env Config.bare).emission what.session = Emission.empty := by
    rw [hCreated]
    rfl
  have hTarget : (create env Config.bare).cache.targetOf env.searchPaths citation.pantryName =
      .search env.searchPaths := (Moves.searches hMoves rfl).targetOf _
  obtain ⟨hAnswer, _⟩ := answerOf_means hAnchored hNames hPaths hMeans
  have hAnswers := answersTo_at_once (Moves.sound hMoves) hQuiet hRunning hClass hNone hFresh hIdle
    (hAtOnce _ _)
  rw [hTarget] at hAnswers
  rw [hCwd] at hAnswer
  exact hAnswers.trans hAnswer

/-- A name of so many letters and one more. -/
def stretched (n : Nat) : Component where
  text := String.ofList ('x' :: List.replicate n 'x')
  valid := by
    refine ⟨fun h => ?_, fun h => ?_, ?_⟩
    · exact absurd (congrArg String.toList h) (by simp)
    · exact absurd (congrArg (List.head? ∘ String.toList) h) (by simp)
    · simp

theorem utf8ByteSize_stretched (n : Nat) : (stretched n).text.utf8ByteSize = n + 1 := by
  have hLetters : ∀ n, (String.ofList (List.replicate n 'x')).utf8ByteSize = n := by
    intro n
    induction n with
    | zero => rfl
    | succ n ih =>
      simp only [List.replicate_succ, String.ofList_cons, String.utf8ByteSize_append, ih]
      exact Nat.add_comm 1 n
  exact hLetters (n + 1)

theorem stretched_ne_up {n : Nat} (h : n ≠ 1) : stretched n ≠ Component.up := by
  intro hUp
  have hSize := utf8ByteSize_stretched n
  rw [hUp, show Component.up.text.utf8ByteSize = 2 by decide +kernel] at hSize
  omega

/-- The name of a pantry. -/
def shop : Component := ⟨"p", by decide +kernel⟩

theorem ofString_shop : Path.ofString "p" = ⟨.relative, [shop]⟩ := by decide +kernel

theorem hasNul_stretched (n k : Nat) :
    Tree.hasNul ⟨.single, List.replicate k (stretched n) ++ [shop]⟩ = false := by
  have hLetters : (stretched n).text.toList.contains '\x00' = false := by simp [stretched]
  have hName : shop.text.toList.contains '\x00' = false := by decide +kernel
  rw [Tree.hasNul, List.any_eq_false]
  intro c hMem
  rcases List.mem_append.mp hMem with hFirst | hLast
  · rw [List.eq_of_mem_replicate hFirst, hLetters]
    decide
  · rw [List.mem_singleton.mp hLast, hName]
    decide

/-- A path from the root that starts with a name longer than a directory can hold. -/
theorem arrive_tooLong {t : Tree} {cwd : Path} {c : Component} {rest : List Component}
    (hNul : Tree.hasNul ⟨.single, c :: rest⟩ = false) (hUp : c ≠ Component.up)
    (hLong : Tree.nameLimit < c.text.utf8ByteSize) :
    t.arrive cwd ⟨.single, c :: rest⟩ = .tooLong := by
  rw [Tree.arrive, hNul, Path.join_of_isAbsolute rfl, if_neg (by decide)]
  split
  · rfl
  · show Tree.walk _ _ _ (c :: rest) = _
    rw [Tree.walk, if_neg hUp, if_pos hLong]

/-- A name that links to the root may be repeated. -/
theorem follow_replicate {t : Tree} {c : Component}
    (hLink : t.get? [] c = some (.link ⟨.single, []⟩)) (hUp : c ≠ Component.up)
    (hShort : c.text.utf8ByteSize ≤ Tree.nameLimit) (n links : Nat) (rest : List Component) :
    t.follow (n + links) [] (List.replicate n c ++ rest) = t.follow links [] rest := by
  induction n with
  | zero =>
    rw [Nat.zero_add]
    rfl
  | succ n ih =>
    rw [Nat.add_right_comm, List.replicate_succ, List.cons_append]
    show Tree.walk t (t.follow (n + links)) [] (c :: _) = _
    rw [Tree.walk, if_neg hUp, if_neg (Nat.not_lt.mpr hShort), hLink]
    exact ih

/-- A tree without anything. -/
def bareTree : Discovery := ⟨.empty, ⟨.single, []⟩, Discovery.defaultFileNames⟩

/-- An importer that looks for pantries in this tree, below a name that is too long. -/
def overlong : Setup :=
  { Setup.manual with
    searchPaths := [⟨.single, [stretched 255]⟩]
    collaborator := fun _ call => some (bareTree.answer call) }

theorem overlong_stops :
    bareTree.StopsAt "p" overlong.searchPaths ⟨.single, [stretched 255]⟩ .tooLong := by
  refine ⟨?_, [], [], rfl, fun q hq => absurd hq List.not_mem_nil⟩
  rw [Discovery.arrival, ofString_shop, Path.join_of_relative rfl]
  refine arrive_tooLong (hasNul_stretched 255 1) (stretched_ne_up (by decide)) ?_
  rw [utf8ByteSize_stretched]
  decide

/-- No search path has the pantry, but it is the search path that is reported. -/
theorem overlong_heard :
    answersTo overlong (.named "main") [.importing (citing "p/i") .stop, .tick, .tick]
      (create overlong Config.bare) = [.failure "p/i" (.discoveryFailed "p" (.nameTooLong
        ((Path.mk .single [stretched 255]).join (Path.ofString "p"))))] := by
  have hRunning : overlong.running = true := rfl
  have hAnchored : bareTree.Anchored := ⟨rfl, by decide +kernel, rfl⟩
  have hNames : bareTree.fileNames = Discovery.defaultFileNames := rfl
  have hCwd : bareTree.cwd = overlong.cwd := rfl
  have hAtOnce : ∀ i call, overlong.collaborator i call = some (bareTree.answer call) :=
    fun _ _ => rfl
  have hPaths : ∀ p ∈ overlong.searchPaths, Component.up ∉ p.parts := by
    intro p hMem hUp
    obtain rfl : p = ⟨.single, [stretched 255]⟩ := List.mem_singleton.mp hMem
    exact stretched_ne_up (by decide) (List.mem_singleton.mp hUp).symm
  have hClass : classify overlong.cwd (citing "p/i").specifier (citing "p/i").file =
      .ingredient ⟨none, ⟨"p", rfl⟩, ⟨"i", rfl⟩, []⟩ := rfl
  have hIdle : Script.stop.isIdle = true := rfl
  have hMeans : bareTree.Means overlong.searchPaths (citing "p/i").specifier.text
      ⟨none, ⟨"p", rfl⟩, ⟨"i", rfl⟩, []⟩ (.failure "p/i" (.discoveryFailed "p" (.nameTooLong
        ((Path.mk .single [stretched 255]).join (Path.ofString "p"))))) := .tooLong overlong_stops
  have hHeard := answersTo_of_means hRunning hAnchored hNames hCwd hAtOnce hPaths hClass hIdle
    hMeans
  exact hHeard

/-- A tree with a pantry at the root and a link from the root to the root. -/
def roundTree : Discovery where
  tree := Tree.ofPaths [⟨.single, [shop, stretched 49]⟩]
    [⟨.single, [shop, stretched 49, ⟨"ingredient.md", by decide +kernel⟩]⟩,
      ⟨.single, [shop, stretched 49, ⟨"index.scss", by decide +kernel⟩]⟩]
    [(⟨.single, [stretched 251]⟩, ⟨.single, []⟩)]
  cwd := ⟨.single, []⟩
  fileNames := Discovery.defaultFileNames

/-- The link, followed again and again. -/
def winding : Path := ⟨.single, List.replicate 16 (stretched 251)⟩

/-- An importer that looks for pantries in this tree, by this path. -/
def roundabout : Setup :=
  { Setup.manual with
    searchPaths := [winding]
    collaborator := fun _ call => some (roundTree.answer call) }

/-- The citation of the ingredient. -/
def distant : Citation := ⟨none, ⟨"p", rfl⟩, ⟨(stretched 49).text, by decide +kernel⟩, []⟩

theorem up_not_mem_winding : Component.up ∉ winding.parts := fun hMem =>
  stretched_ne_up (by decide) (List.eq_of_mem_replicate hMem).symm

theorem winding_join : winding.join (Path.ofString "p") =
    ⟨.single, List.replicate 16 (stretched 251) ++ [shop]⟩ := by
  rw [ofString_shop, Path.join_of_relative rfl]
  rfl

theorem utf8ByteSize_winding {rest : List Component} (h : rest ≠ []) :
    (Path.mk .single (List.replicate 16 (stretched 251) ++ rest)).toString.utf8ByteSize =
      4048 + bytesOfWay rest := by
  rw [Path.utf8ByteSize_toString (List.append_ne_nil_of_right_ne_nil _ h), bytesOfWay_append,
    bytesOfWay_replicate, utf8ByteSize_stretched]

theorem winding_stops :
    roundTree.StopsAt "p" roundabout.searchPaths winding (.directory [shop]) := by
  refine ⟨?_, [], [], rfl, fun q hq => absurd hq List.not_mem_nil⟩
  have hLink : roundTree.tree.get? [] (stretched 251) = some (.link ⟨.single, []⟩) := by
    decide +kernel
  have hShop : roundTree.tree.get? [] shop = some .directory := by decide +kernel
  have hReadable : Tree.isOverlong ⟨.single, List.replicate 16 (stretched 251) ++ [shop]⟩ =
      false := by
    rw [Tree.isOverlong, utf8ByteSize_winding (List.cons_ne_nil _ _)]
    decide +kernel
  rw [Discovery.arrival, winding_join, Tree.arrive, Path.join_of_isAbsolute rfl,
    hasNul_stretched 251 16, if_neg (by decide), hReadable, if_neg (by decide)]
  have hShort : (stretched 251).text.utf8ByteSize ≤ Tree.nameLimit := by
    rw [utf8ByteSize_stretched]
    decide
  have hRound := follow_replicate hLink (stretched_ne_up (by decide)) hShort 16 24 [shop]
  refine hRound.trans ?_
  show Tree.walk _ _ [] [shop] = _
  rw [Tree.walk, if_neg (by decide +kernel), if_neg (by decide +kernel), hShop]
  rfl

/-- The directory of the ingredient cannot be asked for from there. -/
theorem overlong_distant : Tree.isOverlong
    (Discovery.pathBelow (winding.join (Path.ofString "p")) [stretched 49]) = true := by
  have hPath : Discovery.pathBelow (winding.join (Path.ofString "p")) [stretched 49] =
      ⟨.single, List.replicate 16 (stretched 251) ++ [shop, stretched 49]⟩ := by
    rw [winding_join]
    rfl
  rw [hPath, Tree.isOverlong, utf8ByteSize_winding (List.cons_ne_nil _ _)]
  decide +kernel

theorem distant_means : roundTree.Means roundabout.searchPaths
    ("p/" ++ (stretched 49).text) distant
    (.failure ("p/" ++ (stretched 49).text) (.noIngredient "p" (stretched 49).text)) := by
  refine .noIngredient winding_stops fun hIngredient => ?_
  obtain ⟨_, _, hReadable⟩ := hIngredient.descends [] (stretched 49) [] rfl
  have hRoot : roundTree.rootOf distant.pantryName winding = winding.join (Path.ofString "p") := by
    have hCwd : Component.up ∉ roundTree.cwd.parts := by decide +kernel
    rw [Discovery.rootOf, Path.absolute_of_not_mem_up hCwd up_not_mem_winding,
      show roundTree.cwd.join winding = winding from Path.join_of_isAbsolute rfl]
    rfl
  rw [hRoot, List.nil_append, overlong_distant] at hReadable
  exact absurd hReadable (by decide)

/-- The pantry has the ingredient, but it is not found. -/
theorem roundabout_heard :
    answersTo roundabout (.named "main")
      [.importing (citing ("p/" ++ (stretched 49).text)) .stop, .tick, .tick]
      (create roundabout Config.bare) =
        [.failure ("p/" ++ (stretched 49).text) (.noIngredient "p" (stretched 49).text)] := by
  have hRunning : roundabout.running = true := rfl
  have hAnchored : roundTree.Anchored := ⟨rfl, by decide +kernel, rfl⟩
  have hNames : roundTree.fileNames = Discovery.defaultFileNames := rfl
  have hCwd : roundTree.cwd = roundabout.cwd := rfl
  have hAtOnce : ∀ i call, roundabout.collaborator i call = some (roundTree.answer call) :=
    fun _ _ => rfl
  have hPaths : ∀ p ∈ roundabout.searchPaths, Component.up ∉ p.parts := fun p hMem =>
    List.mem_singleton.mp hMem ▸ up_not_mem_winding
  have hClass : classify roundabout.cwd (citing ("p/" ++ (stretched 49).text)).specifier
      (citing ("p/" ++ (stretched 49).text)).file = .ingredient distant := by
    decide +kernel
  have hIdle : Script.stop.isIdle = true := rfl
  have hHeard := answersTo_of_means hRunning hAnchored hNames hCwd hAtOnce hPaths hClass hIdle
    distant_means
  exact hHeard

/-- **Where paths are too long, it is not enough to look at what there is.** When the search path
has no directory of the pantry's name, that is not what the compilation hears. When it has one in
which the ingredient lies, with its marker and its style file, the compilation is not given the
file. -/
theorem decided_by_length :
    let heard := answersTo overlong (.named "main")
      [.importing (citing "p/i") .stop, .tick, .tick] (create overlong Config.bare)
    let heardFar := answersTo roundabout (.named "main")
      [.importing (citing ("p/" ++ (stretched 49).text)) .stop, .tick, .tick]
      (create roundabout Config.bare)
    (∀ p ∈ overlong.searchPaths, ∀ place, bareTree.arrival "p" p ≠ .directory place) ∧
      heard = [.failure "p/i" (.discoveryFailed "p" (.nameTooLong
        ((Path.mk .single [stretched 255]).join (Path.ofString "p"))))] ∧
      heard ≠ [.failure "p/i" (.pantryNotFound "p" overlong.searchPaths)] ∧
    roundTree.arrival "p" winding = .directory [shop] ∧
      roundTree.tree.get? [shop] (stretched 49) = some .directory ∧
      (stretched 49).text ≠ "node_modules" ∧
      (∀ file ∈ ["ingredient.md", "index.scss"], ∃ c : Component, c.text = file ∧
        roundTree.tree.get? [shop, stretched 49] c = some .file) ∧
      heardFar = [.failure ("p/" ++ (stretched 49).text) (.noIngredient "p" (stretched 49).text)] ∧
      ∀ text, heardFar ≠ [.file text] := by
  intro heard heardFar
  have hHeard : heard = _ := overlong_heard
  have hFar : heardFar = _ := roundabout_heard
  refine ⟨?_, hHeard, ?_, winding_stops.1, by decide +kernel, by decide +kernel, ?_, hFar, ?_⟩
  · intro p hMem place
    obtain rfl : p = ⟨.single, [stretched 255]⟩ := List.mem_singleton.mp hMem
    rw [overlong_stops.1]
    simp
  · rw [hHeard]
    simp
  · simp only [List.forall_mem_cons]
    exact ⟨⟨⟨"ingredient.md", by decide +kernel⟩, rfl, by decide +kernel⟩,
      ⟨⟨"index.scss", by decide +kernel⟩, rfl, by decide +kernel⟩, by simp⟩
  · intro text
    rw [hFar]
    simp

end State

end Larder
