import Larder.Proofs.Path.Lexical
import Mathlib

/-!
# Larder — containment

Whether a path lies below another one is decided on written paths: they have a longest path in
common, and it is to be the upper one. That common path is found by looking at two lists of names
only, the least and the greatest. Names in between cannot do otherwise than begin with what these
two share.

What comes out is a text, which is compared with a text. It always starts with one slash. So a root
with two slashes holds nothing, not even itself; and any other one holds exactly those paths whose
names begin with its own, name by name, however both are spelled.

## Results

* `prefix_sharedNames_iff`: what two lists share is what both begin with.
* `isPrefix_of_between`: so does every list between them.
* `commonPath_of_rooted`: paths that start at a root have a longest path in common.
* `isWithin_iff_names`: a path lies within a root with one slash whose names its own begin with.
* `isWithin_exact`: the same for written paths, with what follows from it.
-/

namespace Larder

namespace Path

-- ---------------------------------------------------------------------------
-- The least and the greatest
-- ---------------------------------------------------------------------------

section Order

variable {α : Type} {before : α → α → Bool}

theorem foremost_mem (before : α → α → Bool) (first : α) (others : List α) :
    foremost before first others ∈ first :: others := by
  induction others generalizing first with
  | nil => exact List.mem_cons_self
  | cons other rest ih =>
    have hRest := ih (if before other first then other else first)
    rw [foremost, List.foldl_cons, ← foremost]
    rcases List.mem_cons.mp hRest with hHead | hLater
    · rw [hHead]
      split
      · exact List.mem_cons_of_mem _ List.mem_cons_self
      · exact List.mem_cons_self
    · exact List.mem_cons_of_mem _ (List.mem_cons_of_mem _ hLater)

/-- Nothing comes before the first. -/
theorem not_before_foremost (hAsymm : ∀ a b, before a b = true → before b a = false)
    (hTrans : ∀ a b c, before a b = false → before b c = false → before a c = false)
    (first : α) (others : List α) :
    ∀ x ∈ first :: others, before x (foremost before first others) = false := by
  induction others generalizing first with
  | nil =>
    intro x hMem
    rw [List.mem_singleton.mp hMem]
    exact Bool.eq_false_iff.mpr fun hSelf =>
      absurd ((hAsymm _ _ hSelf).symm.trans hSelf) (by decide)
  | cons other rest ih =>
    have hRest := ih (if before other first then other else first)
    rw [foremost, List.foldl_cons, ← foremost]
    rw [List.forall_mem_cons] at hRest ⊢
    rw [List.forall_mem_cons]
    cases hNewer : before other first with
    | true =>
      rw [hNewer, if_pos rfl] at hRest
      rw [if_pos rfl]
      exact ⟨hTrans _ _ _ (hAsymm _ _ hNewer) hRest.1, hRest⟩
    | false =>
      rw [hNewer, if_neg (by decide)] at hRest
      rw [if_neg (by decide)]
      exact ⟨hRest.1, hTrans _ _ _ hNewer hRest.1, hRest.2⟩

variable [LinearOrder α]

/-- With the order, nothing is less than the first. -/
theorem not_lt_foremost (h : ∀ a b, before a b = true ↔ a < b) (first : α) (others : List α) :
    ∀ x ∈ first :: others, ¬ x < foremost before first others := by
  simp only [← h, Bool.not_eq_true]
  refine not_before_foremost (fun a b hLess => ?_) (fun a b c hNot hNot' => ?_) first others
  · exact Bool.eq_false_iff.mpr fun hLess' => lt_asymm ((h a b).mp hLess) ((h b a).mp hLess')
  · rw [Bool.eq_false_iff, ne_eq, h, not_lt] at hNot hNot' ⊢
    exact hNot'.trans hNot

/-- With the order turned round, the first is less than nothing. -/
theorem foremost_not_lt (h : ∀ a b, before a b = true ↔ b < a) (first : α) (others : List α) :
    ∀ x ∈ first :: others, ¬ foremost before first others < x := by
  simp only [← h, Bool.not_eq_true]
  refine not_before_foremost (fun a b hLess => ?_) (fun a b c hNot hNot' => ?_) first others
  · exact Bool.eq_false_iff.mpr fun hLess' => lt_asymm ((h a b).mp hLess) ((h b a).mp hLess')
  · rw [Bool.eq_false_iff, ne_eq, h, not_lt] at hNot hNot' ⊢
    exact hNot.trans hNot'

/-- What two lists begin with, every list between them begins with. -/
theorem isPrefix_of_between {shared lower names upper : List α} (hLower : shared <+: lower)
    (hUpper : shared <+: upper) (hAbove : ¬ names < lower) (hBelow : ¬ upper < names) :
    shared <+: names := by
  induction shared generalizing lower names upper with
  | nil => exact List.nil_prefix
  | cons name shared ih =>
    obtain ⟨lower, rfl⟩ := hLower
    obtain ⟨upper, rfl⟩ := hUpper
    rw [List.cons_append] at hAbove hBelow
    cases names with
    | nil => exact absurd (List.nil_lt_cons _ _) hAbove
    | cons other names =>
      rw [List.cons_lt_cons_iff, not_or, not_and] at hAbove hBelow
      obtain rfl : other = name := le_antisymm (not_lt.mp hBelow.1) (not_lt.mp hAbove.1)
      exact List.prefix_cons_inj other |>.mpr
        (ih (List.prefix_append _ _) (List.prefix_append _ _) (hAbove.2 rfl) (hBelow.2 rfl))

end Order

-- ---------------------------------------------------------------------------
-- The common path
-- ---------------------------------------------------------------------------

/-- What two lists share is what both begin with. -/
theorem prefix_sharedNames_iff {names left right : List (List Char)} :
    names <+: sharedNames left right ↔ names <+: left ∧ names <+: right := by
  induction left generalizing names right with
  | nil => simp +contextual [sharedNames]
  | cons name left ih =>
    cases right with
    | nil => simp +contextual [sharedNames]
    | cons name' right =>
      cases names with
      | nil => simp
      | cons first names =>
        unfold sharedNames
        split
        · rename_i hSame
          subst hSame
          rw [List.cons_prefix_cons, List.cons_prefix_cons, List.cons_prefix_cons, ih]
          tauto
        · rename_i hApart
          rw [List.cons_prefix_cons, List.cons_prefix_cons]
          simp only [List.prefix_nil, List.cons_ne_nil, false_iff, not_and]
          rintro ⟨rfl, -⟩ rfl
          exact absurd rfl hApart

/-- **Paths that start at a root have a longest path in common.** Its names are those that the names
of every one of them begin with, and it is written with one slash. -/
theorem commonPath_of_rooted {text : List Char} {rest : List (List Char)}
    (h : ∀ t ∈ text :: rest, isRooted t = true) :
    ∃ names, commonPath (text :: rest) = .ok ('/' :: Text.joinWith '/' names) ∧
      ∀ shared, shared <+: names ↔ ∀ t ∈ text :: rest, shared <+: pieces t := by
  have hText : isRooted text = true := h text List.mem_cons_self
  have hAll : (rest.all fun other => isRooted other = isRooted text) = true := by
    rw [List.all_eq_true]
    intro t hMem
    rw [hText, h t (List.mem_cons_of_mem _ hMem)]
    rfl
  refine ⟨_, by rw [commonPath, if_pos hAll, if_pos hText]; rfl, fun shared => ?_⟩
  rw [prefix_sharedNames_iff, ← List.forall_mem_map (f := pieces), List.map_cons]
  constructor
  · -- every path lies between the least and the greatest
    rintro ⟨hLower, hUpper⟩ names hMem
    exact isPrefix_of_between hLower hUpper
      (not_lt_foremost (fun _ _ => decide_eq_true_iff) _ _ names hMem)
      (foremost_not_lt (fun _ _ => decide_eq_true_iff) _ _ names hMem)
  · exact fun hEach => ⟨hEach _ (foremost_mem _ _ _), hEach _ (foremost_mem _ _ _)⟩

-- ---------------------------------------------------------------------------
-- Written paths
-- ---------------------------------------------------------------------------

variable {cwd p root : Path}

theorem toChars_inj {q : Path} : p.toChars = q.toChars ↔ p = q :=
  ⟨fun h => by rw [← ofChars_toChars p, h, ofChars_toChars], fun h => h ▸ rfl⟩

theorem isRooted_toChars (h : p.isAbsolute = true) : isRooted p.toChars = true := by
  rw [toChars_of_isAbsolute h]
  obtain ⟨root, parts⟩ := p
  cases root with
  | relative => cases h
  | single => rfl
  | double => rfl

-- ---------------------------------------------------------------------------
-- Containment
-- ---------------------------------------------------------------------------

/-- Of two paths from a root the longest one in common is the second, as it is written, if that has
one slash and its names are the first ones of the other. -/
theorem commonPath_eq_base_iff (hPath : p.isAbsolute = true) (hRoot : root.isAbsolute = true) :
    ∃ common, commonPath [p.toChars, root.toChars] = .ok common ∧
      (common = root.toChars ↔ root.root = .single ∧ root.names <+: p.names) := by
  have hRooted : ∀ t ∈ [p.toChars, root.toChars], isRooted t = true := by
    simp [isRooted_toChars hPath, isRooted_toChars hRoot]
  obtain ⟨names, hCommon, hShared⟩ := commonPath_of_rooted hRooted
  simp only [List.mem_cons, List.not_mem_nil, or_false, forall_eq_or_imp, forall_eq,
    pieces_toChars] at hShared
  -- what they have in common are names of the second, so there is a path with these names
  obtain ⟨parts, rfl⟩ : ∃ parts : List Component, parts.map Component.chars = names := by
    obtain ⟨more, hMore⟩ := ((hShared names).mp List.prefix_rfl).2
    obtain ⟨parts, _, _, hNames, _⟩ := List.map_eq_append_iff.mp hMore.symm
    exact ⟨parts, hNames⟩
  have hSpelled : '/' :: Text.joinWith '/' (parts.map Component.chars) =
      (Path.mk .single parts).toChars :=
    (toChars_of_isAbsolute (p := ⟨.single, parts⟩) rfl).symm
  refine ⟨_, hCommon, ?_⟩
  rw [hSpelled, toChars_inj, eq_iff_names]
  show Root.single = root.root ∧ parts.map Component.chars = root.names ↔ _
  constructor
  · rintro ⟨hSingle, hSame⟩
    exact ⟨hSingle.symm, hSame ▸ ((hShared _).mp List.prefix_rfl).1⟩
  · rintro ⟨hSingle, hPrefix⟩
    have hWhole : root.names <+: parts.map Component.chars :=
      (hShared _).mpr ⟨hPrefix, List.prefix_rfl⟩
    exact ⟨hSingle.symm, ((hShared _).mp List.prefix_rfl).2.eq_of_length_le hWhole.length_le⟩

/-- A path lies within a root if the absolute form of that has one slash, and its names are the
first ones in the absolute form of the path. -/
theorem isWithin_iff_names (hCwd : cwd.isAbsolute = true) :
    cwd.isWithin p root = true ↔
      (cwd.absolute root).root = .single ∧
        (cwd.absolute root).names <+: (cwd.absolute p).names := by
  obtain ⟨common, hCommon, hSame⟩ := commonPath_eq_base_iff (isAbsolute_absolute hCwd p)
    (isAbsolute_absolute hCwd root)
  rw [isWithin]
  simp only [normalize_absolute, hCommon, decide_eq_true_iff]
  exact hSame

/-- Other spellings have the same answer. Of the path only the names count. -/
theorem isWithin_congr (hCwd : cwd.isAbsolute = true) {p' root' : Path}
    (hPath : (cwd.absolute p).names = (cwd.absolute p').names)
    (hRoot : cwd.absolute root = cwd.absolute root') :
    cwd.isWithin p root = cwd.isWithin p' root' := by
  rw [Bool.eq_iff_iff, isWithin_iff_names hCwd, isWithin_iff_names hCwd, hPath, hRoot]

theorem isWithin_trans (hCwd : cwd.isAbsolute = true) {q : Path} (h : cwd.isWithin p q = true)
    (hUpper : cwd.isWithin q root = true) : cwd.isWithin p root = true := by
  rw [isWithin_iff_names hCwd] at h hUpper ⊢
  exact ⟨hUpper.1, hUpper.2.trans h.2⟩

/-- What turns aside at the last name of a root does not lie within it, however the name goes on. -/
theorem isWithin_sibling (hCwd : cwd.isAbsolute = true) {above below : List (List Char)}
    {name other : List Char} (hRoot : (cwd.absolute root).names = above ++ [name])
    (hPath : (cwd.absolute p).names = above ++ other :: below) (h : name ≠ other) :
    cwd.isWithin p root = false := by
  rw [Bool.eq_false_iff, ne_eq, isWithin_iff_names hCwd, hRoot, hPath]
  rintro ⟨-, hPrefix⟩
  rw [List.prefix_append_right_inj, List.cons_prefix_cons] at hPrefix
  exact h hPrefix.1

/--
**Containment is exact.** A text names a place: its slashes are those that it starts with, or else
those of the working directory, and its names are found by walking it. Of two places the longest
path in common always exists. The first lies within the second exactly if the second has one slash
and its names are the first ones of the first, each of them whole. So a place beside the second one
is not within it, even if its name goes on where the other one ends; another text for either place
has the same answer; and what lies within a place lies within whatever that place lies within.
-/
theorem isWithin_exact (hCwd : cwd.isAbsolute = true) :
    let place (text : String) : Path := cwd.absolute (ofString text)
    let inside (path root : String) : Bool := cwd.isWithin (ofString path) (ofString root)
    -- the places
    (∀ text, (place text).normalize = place text ∧
      (place text).toChars =
        (place text).root.toChars ++ Text.joinWith '/' (place text).names ∧
      (place text).root =
        (if (ofString text).isAbsolute then (ofString text).root else cwd.root) ∧
      (place text).names =
        Lexical.walk (if (ofString text).isAbsolute then [] else Lexical.walk [] cwd.toChars)
          text.toList) ∧
    -- what lies within what
    (∀ path root,
      (∃ common, commonPath [(place path).toChars, (place root).toChars] = .ok common) ∧
      (inside path root = true ↔
        (place root).root = .single ∧ (place root).names <+: (place path).names)) ∧
    -- what follows
    (∀ path root above name other below, (place root).names = above ++ [name] →
      (place path).names = above ++ other :: below → name ≠ other → inside path root = false) ∧
    (∀ path path' root root', place path = place path' → place root = place root' →
      inside path root = inside path' root') ∧
    ∀ path between root, inside path between = true → inside between root = true →
      inside path root = true := by
  intro place inside
  refine ⟨fun text => ⟨normalize_absolute _ _, toChars_of_isAbsolute (isAbsolute_absolute hCwd _),
      root_absolute _ _, names_absolute hCwd text⟩, fun path root => ⟨?_, isWithin_iff_names hCwd⟩,
    fun path root above name other below => isWithin_sibling hCwd,
    fun path path' root root' hPath => isWithin_congr hCwd (congrArg names hPath),
    fun path between root => isWithin_trans hCwd⟩
  obtain ⟨common, hCommon, -⟩ := commonPath_eq_base_iff
    (isAbsolute_absolute hCwd (ofString path)) (isAbsolute_absolute hCwd (ofString root))
  exact ⟨common, hCommon⟩

/-- A pantry holds what lies in it, but not its neighbour, whose name is longer; and two slashes
hold nothing. -/
theorem isWithin_exact_neighbours :
    let inside (path root : String) : Bool :=
      (ofString "/a/b").isWithin (ofString path) (ofString root)
    inside ".././pantry//x" "/a/pantry/" = true ∧ inside "../pantry-extra/x" "/a/pantry" = false ∧
      inside "//a" "//a" = false := by
  intro inside
  obtain ⟨-, hExact, hBeside, -⟩ := @isWithin_exact (ofString "/a/b") (by decide +kernel)
  refine ⟨((hExact _ _).2).mpr (by decide +kernel), ?_, Bool.eq_false_iff.mpr fun hInside =>
    absurd ((hExact _ _).2.mp hInside) (by decide +kernel)⟩
  exact hBeside _ _ ["a".toList] "pantry".toList "pantry-extra".toList ["x".toList]
    (by decide +kernel) (by decide +kernel) (by decide +kernel)

end Path

end Larder
