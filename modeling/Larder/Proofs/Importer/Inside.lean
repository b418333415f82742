import Larder.Proofs.Importer.OnceOnly
import Larder.Proofs.Importer.Versions
import Larder.Proofs.Path.Within
import Larder.Proofs.Registry

/-!
# Larder — relative imports inside a pantry

A relative specifier leads to a path by lexical reasoning alone, seen from the document that it
stands in. Documents and specifiers that lead to the same path mean the same target, however they
are spelled. A target that is the root of a resolved pantry, or lies below it, is left to the host
once in a compilation and is empty afterwards; any other target is left to the host every time, and
nothing is recorded for it.

Roots are compared with a target in their absolute form and component by component, but a root
counts only if that form starts with a single slash: the root of a pantry whose absolute form starts
with two slashes shelters nothing, not even itself.

## Results

* `inPantry_iff`: what counts as inside is what some resolved pantry shelters.
* `Moves.shelters`: it stays sheltered, unless a cancelled discovery overwrites the pantry.
* `relative_emitted_once`: a sheltered target is given once, any other every time.
-/

namespace Larder

/-- Whether a path is a root or lies below it, component by component. -/
def Path.Below (root path : Path) : Prop := root.parts <+: path.parts

/-- Whether a pantry shelters a path: the path is its root or lies below it, and the absolute form
of the root starts with a single slash. -/
def Pantry.Shelters (cwd : Path) (P : Pantry) (path : Path) : Prop :=
  ∃ root, P.path = some root ∧ (cwd.absolute root).root = .single ∧ (cwd.absolute root).Below path

-- ---------------------------------------------------------------------------
-- Targets
-- ---------------------------------------------------------------------------

/-- The target of a relative specifier is its own absolute form. -/
theorem absolute_of_classify {cwd path : Path} {specifier file : Value}
    (hCwd : cwd.isAbsolute = true) (h : classify cwd specifier file = .relative path) :
    cwd.absolute path = path := by
  obtain ⟨document, text, rfl⟩ := State.resolveFrom_of_classify h
  have hParent : (cwd.absolute document).parent.isAbsolute = true :=
    Path.isAbsolute_join (q := document) hCwd
  have hTarget : (cwd.resolveFrom document text).isAbsolute = true :=
    Path.isAbsolute_join (q := text) hParent
  rw [Path.absolute, Path.join_of_isAbsolute hTarget, Path.normalize_resolveFrom]

theorem Path.below_iff_names {root path : Path} : root.Below path ↔ root.names <+: path.names :=
  (List.prefix_map_iff_of_injective fun _ _ => Component.chars_inj.mp).symm

theorem Path.isWithin_iff {cwd path root : Path} (hCwd : cwd.isAbsolute = true)
    (hPath : cwd.absolute path = path) :
    cwd.isWithin path root = true ↔
      (cwd.absolute root).root = .single ∧ (cwd.absolute root).Below path := by
  rw [isWithin_iff_names hCwd, hPath, below_iff_names]

namespace State

variable {env : Setup} {cancels : Prop} {config : Config} {s s' : State} {path : Path}

/-- Whether some resolved pantry shelters a path. -/
def Shelters (env : Setup) (s : State) (path : Path) : Prop :=
  ∃ name P, s.cache.get? name = some P ∧ P.Shelters env.cwd path

/-- What counts as inside is what some resolved pantry shelters. -/
theorem inPantry_iff (hCwd : env.cwd.isAbsolute = true) (hPath : env.cwd.absolute path = path) :
    s.inPantry env path = true ↔ s.Shelters env path := by
  rw [inPantry, List.any_eq_true]
  constructor
  · rintro ⟨P, hMem, hInside⟩
    obtain ⟨name, hGet⟩ := Registry.mem_values_iff.mp hMem
    cases hRoot : P.path with
    | none => simp [hRoot] at hInside
    | some root =>
      rw [hRoot, Option.any_some] at hInside
      exact ⟨name, P, hGet, root, hRoot, (Path.isWithin_iff hCwd hPath).mp hInside⟩
  · rintro ⟨name, P, hGet, root, hRoot, hWithin⟩
    refine ⟨P, Registry.mem_values_iff.mpr ⟨name, hGet⟩, ?_⟩
    rw [hRoot, Option.any_some]
    exact (Path.isWithin_iff hCwd hPath).mpr hWithin

/-- A path stays sheltered, unless a cancelled discovery overwrites the pantry. -/
theorem Moves.shelters (h : Moves env cancels (seeded config) s) (hLater : Moves env cancels s s')
    (hShelters : s.Shelters env path) :
    s'.Shelters env path ∨ ∃ name P Q, s.cache.get? name = some P ∧
      s'.cache.get? name = some Q ∧ s'.cache.Overwritten name P Q := by
  obtain ⟨name, P, hGet, hPath⟩ := hShelters
  have hVersion : P ∈ s'.versions config name :=
    (hLater.versions_suffix config name).subset (h.version_of_uses (.atHand hGet))
  obtain ⟨Q, hNow, rfl | hOverwritten⟩ := Moves.newest_of_version (h.trans hLater) hVersion
  · exact Or.inl ⟨name, P, hNow, hPath⟩
  · exact Or.inr ⟨name, P, Q, hGet, hNow, hOverwritten⟩

-- ---------------------------------------------------------------------------
-- Answers
-- ---------------------------------------------------------------------------

theorem mem_giveOnce (s : State) (session : SessionId) (path : Path) (fresh : Outcome)
    {who : SessionId} {given : Path} :
    given ∈ ((s.giveOnce session path fresh).1.emission who).paths ↔
      session = who ∧ given = path.normalize ∨ given ∈ (s.emission who).paths := by
  rw [emission_giveOnce]
  split
  · rename_i hWho
    subst hWho
    rw [Emission.answer, Emission.mem_record]
    simp
  · rename_i hWho
    simp [hWho]

/-- What a compilation was given stays given. -/
theorem Moves.emission_grow (h : Moves env cancels s s') (session : SessionId)
    (hPath : path ∈ (s.emission session).paths) : path ∈ (s'.emission session).paths := by
  refine h.invariant (P := fun s => path ∈ (s.emission session).paths) ?_ hPath
  intro s s' hMove hGiven
  rcases hMove.given with hSame | ⟨who, other, fresh, _, hSame⟩
  · rw [emission_of_given hSame]
    exact hGiven
  · rw [emission_of_given hSame, mem_giveOnce]
    exact Or.inr hGiven

/-- A compilation is left to the host for a sheltered target, unless it was given the target. -/
theorem resolve_sheltered (hCwd : env.cwd.isAbsolute = true) {what : Import} (receiver : Receiver)
    (hClass : classify env.cwd what.specifier what.file = .relative path)
    (hShelters : s.Shelters env path) :
    (s.resolve env what receiver).2 = .answered
        (if path ∈ (s.emission what.session).paths then .suppressed else .passThrough) ∧
      path ∈ ((s.resolve env what receiver).1.emission what.session).paths := by
  have hAbsolute := absolute_of_classify hCwd hClass
  have hTarget : s.target? env what = some (path, .passThrough) := by
    simp only [target?, hClass]
    exact if_pos ((inPantry_iff hCwd hAbsolute).mpr hShelters)
  obtain ⟨⟨hNormal, _⟩, hResolve⟩ := resolve_of_target receiver hTarget
  rw [hResolve]
  refine ⟨?_, (mem_giveOnce _ _ _ _).mpr (Or.inl ⟨rfl, hNormal.symm⟩)⟩
  have hKey : (s.emission what.session).contains path = true ↔
      path ∈ (s.emission what.session).paths := by
    rw [Emission.contains, hNormal, List.contains_iff_mem]
  show Reply.answered ((s.emission what.session).answer path .passThrough).2 = _
  by_cases hGiven : path ∈ (s.emission what.session).paths
  · rw [Emission.answer_of_contains (hKey.mpr hGiven), if_pos hGiven]
  · rw [Emission.answer_of_not_contains (Bool.eq_false_iff.mpr fun h => hGiven (hKey.mp h)),
      if_neg hGiven]

theorem resolve_moves {what : Import} (receiver : Receiver)
    (hClass : classify env.cwd what.specifier what.file = .relative path) :
    Moves env cancels s (s.resolve env what receiver).1 := by
  rcases resolve_cases env s what receiver with
    ⟨_, _, hFresh, h⟩ | ⟨_, h⟩ | ⟨_, _, hOther, _⟩ | ⟨_, _, hRemark, h⟩
  · rw [h]
    exact .single (.give hFresh)
  · rw [h]
  · exact absurd (hClass.symm.trans hOther) (by simp)
  · rw [h]
    exact .single (.remark hRemark)

/-- For any other target it is left to the host every time, and nothing is recorded. -/
theorem resolve_unsheltered (hCwd : env.cwd.isAbsolute = true) {what : Import} (receiver : Receiver)
    (hClass : classify env.cwd what.specifier what.file = .relative path)
    (hShelters : ¬ s.Shelters env path) :
    s.resolve env what receiver = (s, .answered .passThrough) := by
  have hOutside : ¬ s.inPantry env path = true := fun hInside =>
    hShelters ((inPantry_iff hCwd (absolute_of_classify hCwd hClass)).mp hInside)
  simp only [resolve, hClass, resolveRelative, if_neg hOutside]

/-- **Inside a pantry a target is given once.** Let two relative imports of one compilation lead to
the same target. If no resolved pantry shelters it, an import of it is left to the host and changes
nothing. If one does, the first import is left to the host unless the compilation was given the
target before, and then it is empty; and whatever happened in between, the second import is empty
if the target is still sheltered. It is, unless a cancelled discovery overwrote the pantry. -/
theorem relative_emitted_once (hCwd : env.cwd.isAbsolute = true)
    (h : Moves env True (seeded config) s) {first second : Import} {target : Path}
    (hFirst : classify env.cwd first.specifier first.file = .relative target)
    (hSecond : classify env.cwd second.specifier second.file = .relative target)
    (hSession : second.session = first.session) (receiver receiver' : Receiver) :
    let answered := s.resolve env first receiver
    (¬ s.Shelters env target → answered = (s, .answered .passThrough)) ∧
    (s.Shelters env target →
      answered.2 = .answered
        (if target ∈ (s.emission first.session).paths then .suppressed else .passThrough) ∧
      ∀ s', Moves env True answered.1 s' →
        (s'.Shelters env target → (s'.resolve env second receiver').2 = .answered .suppressed) ∧
        (s'.Shelters env target ∨ ∃ name P Q, s.cache.get? name = some P ∧
          s'.cache.get? name = some Q ∧ s'.cache.Overwritten name P Q)) := by
  intro answered
  refine ⟨resolve_unsheltered hCwd receiver hFirst, fun hShelters => ?_⟩
  obtain ⟨hAnswer, hGiven⟩ := resolve_sheltered hCwd receiver hFirst hShelters
  refine ⟨hAnswer, fun s' hLater => ⟨fun hStill => ?_, ?_⟩⟩
  · have hKnown : target ∈ (s'.emission second.session).paths := by
      rw [hSession]
      exact hLater.emission_grow _ hGiven
    rw [(resolve_sheltered hCwd receiver' hSecond hStill).1, if_pos hKnown]
  · exact h.shelters ((resolve_moves receiver hFirst).trans hLater) hShelters

/-- One pantry lies at a root with a single slash and one at a root with two. -/
def slashed : Config where
  pantries := .ofList [("p", .descriptor ⟨none, some (.ofString "/p"), .empty⟩),
    ("q", .descriptor ⟨none, some (.ofString "//q"), .empty⟩)]
  searchPaths := []

/-- So a target inside the first is empty the second time, from whatever document, and one inside
the second is left to the host every time. -/
theorem relative_emitted_once_slashed :
    let s := create Setup.manual slashed
    let inside : Import := ⟨.named "main", .str "./a", .str "/p/x.scss"⟩
    let again : Import := ⟨.named "main", .str "../a", .str "/p/y/../z/x.scss"⟩
    let apart : Import := ⟨.named "main", .str "./a", .str "//q/x.scss"⟩
    let receiver : Receiver := .callback 0 .stop
    (s.resolve Setup.manual inside receiver).2 = .answered .passThrough ∧
      (State.resolve Setup.manual (s.resolve Setup.manual inside receiver).1 again receiver).2 =
        .answered .suppressed ∧
      s.resolve Setup.manual apart receiver = (s, .answered .passThrough) := by
  intro s inside again apart receiver
  have hMoves : Moves Setup.manual True (seeded slashed) s := Reachable.create.moves
  have hInside : classify Setup.manual.cwd inside.specifier inside.file =
      .relative (.ofString "/p/a") := by rfl
  have hAgain : classify Setup.manual.cwd again.specifier again.file =
      .relative (.ofString "/p/a") := by rfl
  have hApart : classify Setup.manual.cwd apart.specifier apart.file =
      .relative (.ofString "//q/a") := by rfl
  have hSheltered : s.Shelters Setup.manual (.ofString "/p/a") :=
    (inPantry_iff rfl (absolute_of_classify rfl hInside)).mp rfl
  have hBare : ¬ s.Shelters Setup.manual (.ofString "//q/a") := fun hShelters =>
    absurd ((inPantry_iff rfl (absolute_of_classify rfl hApart)).mpr hShelters) (by decide)
  obtain ⟨_, hGiven⟩ := relative_emitted_once rfl hMoves hInside hAgain rfl receiver receiver
  obtain ⟨hOutside, _⟩ := relative_emitted_once rfl hMoves hApart hApart rfl receiver receiver
  obtain ⟨hFirst, hLater⟩ := hGiven hSheltered
  refine ⟨hFirst, (hLater _ .refl).1 ?_, hOutside hBare⟩
  -- an answer at once brings and forgets no pantry
  exact hSheltered

end State

end Larder
