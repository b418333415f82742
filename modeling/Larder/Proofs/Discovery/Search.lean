import Larder.Outcome
import Larder.Proofs.Discovery.Scan

/-!
# Larder — where a pantry is found

A pantry is looked for in one search path after another. A path that leads to nothing, or to
something that is no directory, is passed by; the search stops at the first that leads to a
directory, which is loaded, and at the first that is too long to be asked for, which ends it.

In the end the search comes to a place in the tree, and the scan from that place says what an
ingredient is. This gives the meaning of a citation in terms of the tree alone (`Means`), without
the search and without the scan.

## Results

* `discover_of_lacks`, `discover_of_stops`: what a search comes to.
* `exists_means`: every citation means something.
* `isIngredient_iff`: an ingredient is a directory with the marker that lies on the way of its name.
-/

namespace Larder

namespace Discovery

variable {d : Discovery} {name : String} {searchPaths : List Path} {p : Path} {a : Arrival}
  {place : Place}

-- ---------------------------------------------------------------------------
-- Search paths
-- ---------------------------------------------------------------------------

/-- Whether the working directory is a place in the tree: an absolute path without `..` and without
a NUL. -/
structure Anchored (d : Discovery) : Prop where
  isAbsolute : d.cwd.isAbsolute = true
  straight : Component.up ∉ d.cwd.parts
  noNul : Tree.hasNul d.cwd = false

/-- Where a search path leads when it is joined to the name of a pantry. -/
def arrival (d : Discovery) (name : String) (p : Path) : Arrival :=
  d.tree.arrive d.cwd (p.join (Path.ofString name))

/-- The directory of a pantry in a search path. -/
def rootOf (d : Discovery) (name : String) (p : Path) : Path :=
  (d.cwd.absolute p).join (Path.ofString name)

/-- Whether a search path has no directory of the pantry's name. -/
def Lacks (d : Discovery) (name : String) (p : Path) : Prop :=
  d.arrival name p = .absent ∨ d.arrival name p = .other

/-- Whether a search path leads so, and those before it have no directory of the pantry's name. -/
def StopsAt (d : Discovery) (name : String) (searchPaths : List Path) (p : Path)
    (a : Arrival) : Prop :=
  d.arrival name p = a ∧ ∃ before after, searchPaths = before ++ p :: after ∧
    ∀ q ∈ before, d.Lacks name q

theorem StopsAt.mem (h : d.StopsAt name searchPaths p a) : p ∈ searchPaths := by
  obtain ⟨_, before, after, hSplit, _⟩ := h
  simp [hSplit]

/-- A search path that is not passed by leads to a directory or is too long. -/
theorem not_lacks_iff : ¬ d.Lacks name p ↔
    d.arrival name p = .tooLong ∨ ∃ place, d.arrival name p = .directory place := by
  unfold Lacks
  cases d.arrival name p <;> simp

/-- Either every search path is passed by, or the search stops at one of them. -/
theorem lacks_or_stops (d : Discovery) (name : String) (searchPaths : List Path) :
    (∀ p ∈ searchPaths, d.Lacks name p) ∨ ∃ p, d.StopsAt name searchPaths p .tooLong ∨
      ∃ place, d.StopsAt name searchPaths p (.directory place) := by
  induction searchPaths with
  | nil => exact Or.inl fun p hMem => absurd hMem List.not_mem_nil
  | cons p rest ih =>
    by_cases hLacks : d.Lacks name p
    · have hLater : ∀ {q a}, d.StopsAt name rest q a → d.StopsAt name (p :: rest) q a := by
        rintro q a ⟨hArrival, before, after, rfl, hBefore⟩
        exact ⟨hArrival, p :: before, after, rfl, List.forall_mem_cons.mpr ⟨hLacks, hBefore⟩⟩
      rcases ih with hAll | ⟨q, hStops | ⟨place, hStops⟩⟩
      · exact Or.inl (List.forall_mem_cons.mpr ⟨hLacks, hAll⟩)
      · exact Or.inr ⟨q, Or.inl (hLater hStops)⟩
      · exact Or.inr ⟨q, Or.inr ⟨place, hLater hStops⟩⟩
    · have hHere : ∀ {a}, d.arrival name p = a → d.StopsAt name (p :: rest) p a :=
        fun hArrival => ⟨hArrival, [], rest, rfl, fun q hMem => absurd hMem List.not_mem_nil⟩
      rcases not_lacks_iff.mp hLacks with hLong | ⟨place, hDirectory⟩
      · exact Or.inr ⟨p, Or.inl (hHere hLong)⟩
      · exact Or.inr ⟨p, Or.inr ⟨place, hHere hDirectory⟩⟩

-- ---------------------------------------------------------------------------
-- The search
-- ---------------------------------------------------------------------------

/-- A search goes on behind candidates that are no directories. -/
theorem discoverIn_append {all before : List Path}
    (hBefore : ∀ q ∈ before, d.isDirectory (candidate name q) = .ok false) (rest : List Path) :
    d.discoverIn name all (before ++ rest) = d.discoverIn name all rest := by
  induction before with
  | nil => rfl
  | cons q before ih =>
    obtain ⟨hFirst, hRest⟩ := List.forall_mem_cons.mp hBefore
    rw [List.cons_append, discoverIn]
    simp only [hFirst]
    exact ih hRest

/-- Without a candidate that is a directory there is no pantry. -/
theorem discover_of_none (h : ∀ q ∈ searchPaths, d.isDirectory (candidate name q) = .ok false) :
    (d.discover name searchPaths).result = .error (.pantryNotFound name searchPaths) := by
  have hAll : d.discoverIn name searchPaths (searchPaths ++ []) =
      d.discoverIn name searchPaths [] := discoverIn_append h []
  rw [List.append_nil] at hAll
  rw [discover, hAll]
  rfl

section

variable {before after : List Path} {fault : Fault}
  (hBefore : ∀ q ∈ before, d.isDirectory (candidate name q) = .ok false)
include hBefore

/-- A candidate that cannot be asked for ends the search. -/
theorem discover_of_error (hRefused : d.isDirectory (candidate name p) = .error fault) :
    (d.discover name (before ++ p :: after)).result = .error fault := by
  rw [discover, discoverIn_append hBefore, discoverIn]
  simp only [hRefused]

/-- The first candidate that is a directory is loaded. -/
theorem discover_of_directory (hFound : d.isDirectory (candidate name p) = .ok true) :
    (d.discover name (before ++ p :: after)).result = (d.load name (candidate name p)).result := by
  rw [discover, discoverIn_append hBefore, discoverIn]
  simp only [hFound]

end

section

variable (hRelative : (Path.ofString name).root = .relative)
include hRelative

theorem isDirectory_candidate (p : Path) : d.isDirectory (candidate name p) =
    match d.arrival name p with
    | .directory _ => .ok true
    | .tooLong => .error (.nameTooLong (p.join (Path.ofString name)))
    | _ => .ok false := by
  rw [isDirectory, candidate_eq_join hRelative]
  rfl

theorem isDirectory_of_lacks (h : d.Lacks name p) :
    d.isDirectory (candidate name p) = .ok false := by
  rw [isDirectory_candidate hRelative]
  rcases h with hAbsent | hOther
  · rw [hAbsent]
  · rw [hOther]

/-- Without a directory of its name in any search path there is no pantry. -/
theorem discover_of_lacks (h : ∀ q ∈ searchPaths, d.Lacks name q) :
    (d.discover name searchPaths).result = .error (.pantryNotFound name searchPaths) :=
  discover_of_none fun q hMem => isDirectory_of_lacks hRelative (h q hMem)

/-- A search path that is too long to be asked for ends the search. -/
theorem discover_of_stops_tooLong (h : d.StopsAt name searchPaths p .tooLong) :
    (d.discover name searchPaths).result =
      .error (.nameTooLong (p.join (Path.ofString name))) := by
  obtain ⟨hLong, before, after, rfl, hBefore⟩ := h
  refine discover_of_error (fun q hMem => isDirectory_of_lacks hRelative (hBefore q hMem)) ?_
  rw [isDirectory_candidate hRelative, hLong]

/-- The directory that is found first is loaded. -/
theorem discover_of_stops_directory (h : d.StopsAt name searchPaths p (.directory place)) :
    (d.discover name searchPaths).result =
      (d.load name (p.join (Path.ofString name))).result := by
  obtain ⟨hDirectory, before, after, rfl, hBefore⟩ := h
  rw [discover_of_directory fun q hMem => isDirectory_of_lacks hRelative (hBefore q hMem),
    candidate_eq_join hRelative]
  rw [isDirectory_candidate hRelative, hDirectory]

end

theorem hasNul_join (p q : Path) :
    Tree.hasNul (p.join q) = true → Tree.hasNul p = true ∨ Tree.hasNul q = true := by
  unfold Path.join Tree.hasNul
  split
  · exact Or.inr
  · rw [List.any_append, Bool.or_eq_true]
    exact id

theorem Anchored.hasNul_join (h : d.Anchored) (hNul : Tree.hasNul p = false) :
    Tree.hasNul (d.cwd.join p) = false := by
  rw [Bool.eq_false_iff]
  intro hBoth
  rcases Discovery.hasNul_join _ _ hBoth with hCwd | hPath
  · exact absurd (h.noNul.symm.trans hCwd) (by decide)
  · exact absurd (hNul.symm.trans hPath) (by decide)

/-- The absolute form of a path without `..` leads where the path leads. -/
theorem arrive_absolute (hAnchored : d.Anchored) (hp : Component.up ∉ p.parts)
    (hNul : Tree.hasNul p = false) :
    d.tree.arrive d.cwd (d.cwd.absolute p) = d.tree.arrive d.cwd p := by
  rw [Path.absolute_of_not_mem_up hAnchored.straight hp]
  have hSame : d.cwd.join (d.cwd.join p) = d.cwd.join p :=
    Path.join_of_isAbsolute (Path.isAbsolute_join hAnchored.isAbsolute)
  rw [Tree.arrive, Tree.arrive, hNul, hAnchored.hasNul_join hNul, hSame]

theorem isAbsolute_rootOf (hAnchored : d.Anchored) (hp : Component.up ∉ p.parts) (name : String) :
    (d.rootOf name p).isAbsolute = true := by
  rw [rootOf, Path.absolute_of_not_mem_up hAnchored.straight hp]
  exact Path.isAbsolute_join (Path.isAbsolute_join hAnchored.isAbsolute)

theorem up_not_mem_rootOf (hAnchored : d.Anchored) (hp : Component.up ∉ p.parts)
    (hName : Component.up ∉ (Path.ofString name).parts) :
    Component.up ∉ (d.rootOf name p).parts := by
  rw [rootOf, Path.absolute_of_not_mem_up hAnchored.straight hp]
  exact Path.not_mem_up_join (Path.not_mem_up_join hAnchored.straight hp) hName

/-- What is loaded from the directory of a pantry. -/
theorem load_of_arrival (hAnchored : d.Anchored) (hp : Component.up ∉ p.parts)
    (hName : Component.up ∉ (Path.ofString name).parts)
    (hDirectory : d.arrival name p = .directory place) :
    (d.load name (p.join (Path.ofString name))).result =
      .ok ⟨some name, some (d.rootOf name p), d.published (d.rootOf name p) place⟩ := by
  have hStraight : Component.up ∉ (p.join (Path.ofString name)).parts :=
    Path.not_mem_up_join hp hName
  have hNul : Tree.hasNul (p.join (Path.ofString name)) = false := by
    rw [Bool.eq_false_iff]
    intro hSome
    simp [arrival, Tree.arrive, hSome] at hDirectory
  have hRoot : d.cwd.absolute (p.join (Path.ofString name)) = d.rootOf name p := by
    rw [rootOf, Path.absolute_of_not_mem_up hAnchored.straight hStraight,
      Path.absolute_of_not_mem_up hAnchored.straight hp, Path.join_join]
  rw [← hRoot]
  refine load_of_directory ?_
  rw [arrive_absolute hAnchored hStraight hNul]
  exact hDirectory

-- ---------------------------------------------------------------------------
-- What a citation means
-- ---------------------------------------------------------------------------

/-- Whether the directory of a pantry has the ingredient of a citation: each component of its name
is a directory itself, none of them a dependency folder or out of reach, and the last one holds the
marker. -/
structure IsIngredient (d : Discovery) (root : Path) (place : Place) (r : Citation) : Prop where
  descends : ∀ before c after, r.ingredientWay = before ++ c :: after →
    d.tree.get? (place ++ before) c = some .directory ∧ c.text ≠ "node_modules" ∧
      Tree.isOverlong (pathBelow root (before ++ [c])) = false
  marked : d.HoldsFile root (place ++ r.ingredientWay) r.ingredientWay "ingredient.md"

/-- An ingredient is a directory with the marker that lies on the way of its name. -/
theorem isIngredient_iff {root : Path} {r : Citation} :
    d.IsIngredient root place r ↔ d.LeadsToIngredient root place r.ingredientWay := by
  have hVisited : ∀ {before c after}, r.ingredientWay = before ++ c :: after →
      (isSkipped c = false ↔ c.text ≠ "node_modules") := by
    intro before c after hWay
    have hMem : c ∈ r.ingredientWay := by simp [hWay]
    simp [Citation.isSkipped_of_mem_ingredientWay hMem]
  constructor
  · rintro ⟨hDescends, hMarked⟩
    refine ⟨by simp [Citation.ingredientWay], fun before c after hWay => ?_, hMarked⟩
    obtain ⟨hDirectory, hName, hReadable⟩ := hDescends before c after hWay
    exact ⟨hDirectory, (hVisited hWay).mpr hName, hReadable⟩
  · rintro ⟨_, hDescends, hMarked⟩
    refine ⟨fun before c after hWay => ?_, hMarked⟩
    obtain ⟨hDirectory, hSkipped, hReadable⟩ := hDescends before c after hWay
    exact ⟨hDirectory, (hVisited hWay).mp hSkipped, hReadable⟩

/-- **What a citation means**, in a tree and with the conventional file names: how a compilation is
answered for it that has not been given the file. -/
inductive Means (d : Discovery) (searchPaths : List Path) (specifier : String) (r : Citation) :
    Outcome → Prop where
  /-- No search path has a directory of the pantry's name. -/
  | noPantry (hLacks : ∀ p ∈ searchPaths, d.Lacks r.pantryName p) :
      Means d searchPaths specifier r
        (.failure specifier (.pantryNotFound r.pantryName searchPaths))
  /-- Before a directory of that name there is a search path that is too long. -/
  | tooLong {p : Path} (hStops : d.StopsAt r.pantryName searchPaths p .tooLong) :
      Means d searchPaths specifier r (.failure specifier (.discoveryFailed r.pantryName
        (.nameTooLong (p.join (Path.ofString r.pantryName)))))
  /-- The pantry has the ingredient, and the ingredient has a style file. -/
  | file {p : Path} {place : Place}
      (hStops : d.StopsAt r.pantryName searchPaths p (.directory place))
      (hIngredient : d.IsIngredient (d.rootOf r.pantryName p) place r)
      (hStyle : d.HoldsFile (d.rootOf r.pantryName p) (place ++ r.ingredientWay) r.ingredientWay
        "index.scss") :
      Means d searchPaths specifier r (.file (((d.rootOf r.pantryName p).join
        (Path.ofString r.ingredientName)).join (Path.ofString "index.scss")).toString)
  /-- The pantry has the ingredient, but the ingredient has no style file. -/
  | noStyle {p : Path} {place : Place}
      (hStops : d.StopsAt r.pantryName searchPaths p (.directory place))
      (hIngredient : d.IsIngredient (d.rootOf r.pantryName p) place r)
      (hStyle : ¬ d.HoldsFile (d.rootOf r.pantryName p) (place ++ r.ingredientWay)
        r.ingredientWay "index.scss") :
      Means d searchPaths specifier r
        (.failure specifier (.noEntryPoint r.pantryName r.ingredientName "sass"))
  /-- The pantry does not have the ingredient. -/
  | noIngredient {p : Path} {place : Place}
      (hStops : d.StopsAt r.pantryName searchPaths p (.directory place))
      (hIngredient : ¬ d.IsIngredient (d.rootOf r.pantryName p) place r) :
      Means d searchPaths specifier r
        (.failure specifier (.noIngredient r.pantryName r.ingredientName))

/-- Every citation means something. -/
theorem exists_means (d : Discovery) (searchPaths : List Path) (specifier : String)
    (r : Citation) : ∃ outcome, d.Means searchPaths specifier r outcome := by
  rcases lacks_or_stops d r.pantryName searchPaths with hLacks | ⟨p, hLong | ⟨place, hStops⟩⟩
  · exact ⟨_, .noPantry hLacks⟩
  · exact ⟨_, .tooLong hLong⟩
  · by_cases hIngredient : d.IsIngredient (d.rootOf r.pantryName p) place r
    · by_cases hStyle : d.HoldsFile (d.rootOf r.pantryName p) (place ++ r.ingredientWay)
        r.ingredientWay "index.scss"
      · exact ⟨_, .file hStops hIngredient hStyle⟩
      · exact ⟨_, .noStyle hStops hIngredient hStyle⟩
    · exact ⟨_, .noIngredient hStops hIngredient⟩

end Discovery

end Larder
