import Larder.Config
import Larder.Proofs.Schema

/-!
# Larder — which configurations are accepted

The form of a configuration, said without its check. There is one level to each kind of thing: an
entry point, an ingredient, a descriptor, a seed, all seeds, and the configuration around them. The
levels treat what they do not know differently. A descriptor and what is in it may have members that
nobody asked for, while a configuration may not. And they treat a second spelling differently: an
ingredient that lists its entry points under both spellings is read by the first one, while a
configuration that gives its search paths under two spellings is refused, since the one that is not
read is a member that nobody asked for.

## Results

* `decides_pantryOf`, `decides_seedOf`, `decides_seedsOf`: which descriptors and seeds are accepted.
* `fits_iff`: what is left to a configuration when the spelling that is read is known.
* `load_eq_ok_iff`: a configuration does not depend on the spelling of its search paths.
* `Config.accepted_iff_fits`: which objects are configurations.
-/

namespace Larder

open Checked

-- ---------------------------------------------------------------------------
-- Descriptors
-- ---------------------------------------------------------------------------

namespace Value

/-- An entry point has a file name. -/
def IsEntryPoint : Value → Prop := IsObjectWith fun members => Has members "filename" IsText

/-- An ingredient may have a name, has a path and may have entry points. These stand under the first
of the two spellings that is there. -/
def IsIngredient : Value → Prop :=
  IsObjectWith fun members =>
    MayHave members "name" IsTextOrNull ∧
    Has members "path" IsText ∧
    MayHave members "entryPoints" (IsObjectOf IsEntryPoint) ∧
    (members.lookup "entryPoints" = none →
      MayHave members "entry_points" (IsObjectOf IsEntryPoint))

/-- A descriptor may have a name, a path and ingredients. -/
def IsPantry : Value → Prop :=
  IsObjectWith fun members =>
    MayHave members "name" IsTextOrNull ∧
    MayHave members "path" IsTextOrNull ∧
    MayHave members "ingredients" (IsObjectOf IsIngredient)

/-- A seed is a place or a descriptor. -/
def IsSeed (v : Value) : Prop := v.IsText ∨ v.IsPantry

/-- Seeds stand under names that are not blank. -/
def IsSeeds : Value → Prop :=
  IsObjectWith fun members => ∀ m ∈ members, Text.strip m.1 ≠ "" ∧ IsSeed m.2

end Value

open Value

theorem decides_path (v : Value) : Decides (Checked.path v) v.IsText := by
  cases v with
  | str s => exact (Decides.ok _).congr (iff_of_true trivial ⟨s, rfl⟩)
  | _ => exact (Decides.fail _).congr (iff_of_false id nofun)

theorem decides_path? (v : Value) : Decides (Checked.path? v) v.IsTextOrNull := by
  cases v with
  | null => exact (Decides.ok none).congr (iff_of_true trivial (.inl rfl))
  | str s => exact (Decides.ok _).congr (iff_of_true trivial (.inr ⟨s, rfl⟩))
  | _ => exact (Decides.fail _).congr (iff_of_false id (Or.rec nofun nofun))

theorem decides_entryPointOf (v : Value) : Decides (entryPointOf v) v.IsEntryPoint := by
  cases v with
  | object members =>
    exact (Decides.required Decides.string members "filename").object
  | _ => exact (Decides.fail _).congr (iff_of_false id nofun)

theorem decides_entryPointsOf (v : Value) :
    Decides (entryPointsOf v) (v.IsObjectOf IsEntryPoint) :=
  (Decides.mapping decides_entryPointOf v).map _

/-- The entry points that are read are those under the first spelling that is there. -/
theorem mayHave_entryPointsKey {members : List (String × Value)} {Form : Value → Prop} :
    MayHave members (entryPointsKey members) Form ↔
      MayHave members "entryPoints" Form ∧
        (members.lookup "entryPoints" = none → MayHave members "entry_points" Form) := by
  unfold entryPointsKey
  cases hRead : members.lookup "entryPoints" with
  | none =>
    have hNone : MayHave members "entryPoints" Form := fun v hSome => by
      rw [hRead] at hSome
      cases hSome
    simp [hNone]
  | some v => simp

theorem decides_ingredientOf (v : Value) : Decides (ingredientOf v) v.IsIngredient := by
  cases v with
  | object members =>
    have hAll := (((Decides.optional Decides.string? members "name" none).map Ingredient.mk).seq
      (Decides.required decides_path members "path")).seq
      (Decides.optional decides_entryPointsOf members (entryPointsKey members) Registry.empty)
    rw [mayHave_entryPointsKey, and_assoc] at hAll
    exact hAll.object
  | _ => exact (Decides.fail _).congr (iff_of_false id nofun)

theorem decides_ingredientsOf (v : Value) :
    Decides (ingredientsOf v) (v.IsObjectOf IsIngredient) :=
  (Decides.mapping decides_ingredientOf v).map _

theorem decides_pantryOf (v : Value) : Decides (pantryOf v) v.IsPantry := by
  cases v with
  | object members =>
    have hAll := (((Decides.optional Decides.string? members "name" none).map Pantry.mk).seq
      (Decides.optional decides_path? members "path" none)).seq
      (Decides.optional decides_ingredientsOf members "ingredients" Registry.empty)
    exact (hAll.congr and_assoc).object
  | _ => exact (Decides.fail _).congr (iff_of_false id nofun)

-- ---------------------------------------------------------------------------
-- Seeds
-- ---------------------------------------------------------------------------

/-- A value that is no text is a seed if it is a descriptor; if it is not, both readings are
reported. -/
theorem decides_seedOf (v : Value) : Decides (seedOf v) v.IsSeed := by
  by_cases hText : v.IsText
  · obtain ⟨s, rfl⟩ := hText
    exact (Decides.ok _).congr (iff_of_true trivial (.inl ⟨s, rfl⟩))
  · have hRead := (decides_pantryOf v).under (.key "Pantry")
    unfold seedOf
    split
    · exact absurd ⟨_, rfl⟩ hText
    · split
      · rename_i pantry hPantry
        rw [hPantry] at hRead
        exact (Decides.ok _).congr
          (iff_of_true trivial (.inr (hRead.ok_iff.mp ⟨pantry, rfl⟩)))
      · rename_i errors hErrors
        rw [hErrors] at hRead
        refine ⟨iff_of_false nofun ?_, fun hNone => ?_⟩
        · rintro (hIs | hIs)
          · exact hText hIs
          · obtain ⟨_, hOk⟩ := hRead.ok_iff.mpr hIs
            cases hOk
        · exact absurd (Except.error.inj hNone) (by simp)

/-- A text is blank if stripping leaves nothing of it. -/
theorem isBlankText_iff {s : String} : Text.isBlankText s = true ↔ Text.strip s = "" := by
  rw [Text.isBlankText, List.all_eq_true, ← Text.trim_eq_nil_iff, Text.strip,
    ← String.toList_inj, String.toList_ofList]
  rfl

/-- The members that a mapping yields go by the names under which they were found. -/
theorem keys_of_mapping {α : Type} {check : Value → Checked α} {members : List (String × Value)}
    {found : List (String × α)} (h : mapping check (.object members) = .ok found) :
    found.map Prod.fst = members.map Prod.fst := by
  induction members generalizing found with
  | nil => cases h; rfl
  | cons m rest ih =>
    obtain ⟨g, others, hFirst, hOthers, rfl⟩ := seq_eq_ok_iff.mp h
    obtain ⟨_, p, hCons, hUnder, rfl⟩ := seq_eq_ok_iff.mp hFirst
    obtain ⟨_, a, hPair, -, rfl⟩ := seq_eq_ok_iff.mp (under_eq_ok_iff.mp hUnder)
    cases hCons
    cases hPair
    rw [List.map_cons, List.map_cons, ih hOthers]

/-- Names are looked at when every seed is of the right form, and a blank one is refused. -/
theorem decides_seedsOf (v : Value) : Decides (seedsOf v) v.IsSeeds := by
  have hForm := Decides.mapping decides_seedOf v
  have hSplit : v.IsSeeds → v.IsObjectOf IsSeed := fun ⟨members, hSame, hAll⟩ =>
    ⟨members, hSame, fun m hMem => (hAll m hMem).2⟩
  unfold seedsOf
  cases hRead : mapping seedOf v with
  | error errors =>
    rw [hRead] at hForm
    refine ⟨iff_of_false nofun fun hIs => ?_, fun hNone => hForm.listed ?_⟩
    · obtain ⟨_, hOk⟩ := hForm.ok_iff.mpr (hSplit hIs)
      cases hOk
    · exact congrArg Except.error (Except.error.inj hNone)
  | ok seeds =>
    obtain ⟨members, rfl, hAll⟩ := hForm.ok_iff.mp ⟨seeds, hRead⟩
    have hKeys := keys_of_mapping hRead
    have hBlank : (seeds.any fun s => Text.isBlankText s.1) = true ↔
        ∃ m ∈ members, Text.strip m.1 = "" := by
      have hNames : ∀ l : List (String × Seed), (l.any fun s => Text.isBlankText s.1) =
          (l.map Prod.fst).any Text.isBlankText := fun l => by rw [List.any_map]; rfl
      rw [hNames, hKeys, List.any_map, List.any_eq_true]
      exact exists_congr fun m => and_congr_right fun _ => isBlankText_iff
    show Decides (if _ then _ else _) _
    split
    · rename_i hSome
      obtain ⟨m, hMem, hStrip⟩ := hBlank.mp hSome
      refine (Decides.fail _).congr (iff_of_false id ?_)
      rintro ⟨_, hSame, hIs⟩
      cases hSame
      exact (hIs m hMem).1 hStrip
    · rename_i hNone
      exact (Decides.ok _).congr (iff_of_true trivial ⟨members, rfl, fun m hMem =>
        ⟨fun hStrip => hNone (hBlank.mpr ⟨m, hMem, hStrip⟩), hAll m hMem⟩⟩)

-- ---------------------------------------------------------------------------
-- Search paths
-- ---------------------------------------------------------------------------

namespace Config

variable {cwd : Path} {members : List (String × Value)} {key : String}

/-- Search paths are given under one spelling at most. -/
def OneSpelling (members : List (String × Value)) : Prop :=
  ∀ m ∈ members, ∀ m' ∈ members, m.1 ∈ searchPathKeys → m'.1 ∈ searchPathKeys → m.1 = m'.1

/-- The form of a configuration. -/
structure Fits (members : List (String × Value)) : Prop where
  known : ∀ m ∈ members, m.1 = "pantries" ∨ m.1 ∈ searchPathKeys
  oneSpelling : OneSpelling members
  searchPaths : ∀ key ∈ searchPathKeys, MayHave members key (IsListOf IsText)
  pantries : MayHave members "pantries" IsSeeds

/-- The same configuration with its search paths under one of the spellings. -/
def respell (key : String) (members : List (String × Value)) : List (String × Value) :=
  members.map fun m => (if m.1 ∈ searchPathKeys then key else m.1, m.2)

theorem pantries_not_mem_searchPathKeys : "pantries" ∉ searchPathKeys := by decide

theorem lookup_isSome_of_mem {m : String × Value} (h : m ∈ members) :
    (members.lookup m.1).isSome = true :=
  List.lookup_isSome_iff.mpr ⟨m, h, beq_self_eq_true m.1⟩

theorem exists_mem_of_lookup_isSome (h : (members.lookup key).isSome = true) :
    ∃ m ∈ members, m.1 = key := by
  obtain ⟨m, hMem, hKey⟩ := List.lookup_isSome_iff.mp h
  exact ⟨m, hMem, (beq_iff_eq.mp hKey).symm⟩

/-- The spelling that is read is one of the spellings, and it is there. -/
theorem searchPathKey?_spec (h : searchPathKey? members = some key) :
    key ∈ searchPathKeys ∧ ∃ m ∈ members, m.1 = key :=
  ⟨List.mem_of_find?_eq_some h,
    exists_mem_of_lookup_isSome (List.find?_some (p := fun k => (members.lookup k).isSome) h)⟩

/-- The only spelling that is there is read. -/
theorem searchPathKey?_of_mem (hOne : OneSpelling members) {m : String × Value} (hMem : m ∈ members)
    (hKey : m.1 ∈ searchPathKeys) : searchPathKey? members = some m.1 := by
  cases hRead : searchPathKey? members with
  | none => exact absurd (lookup_isSome_of_mem hMem) (List.find?_eq_none.mp hRead m.1 hKey)
  | some key =>
    obtain ⟨hSpelling, m', hMem', rfl⟩ := searchPathKey?_spec hRead
    rw [hOne m' hMem' m hMem hSpelling hKey]

theorem decides_searchPathsIn : Decides (searchPathsIn cwd members)
    (∀ key, searchPathKey? members = some key → MayHave members key (IsListOf IsText)) := by
  unfold searchPathsIn
  cases searchPathKey? members with
  | none => exact (Decides.ok _).congr (iff_of_true trivial nofun)
  | some key =>
    refine (Decides.optional (fun v => (Decides.sequence decides_path v).map _) members key
      _).congr ⟨fun hForm _ hKey => ?_, fun hAll => hAll key rfl⟩
    rwa [← Option.some.inj hKey]

theorem decides_noUnknown : Decides (noUnknown members)
    (∀ m ∈ members, m.1 = "pantries" ∨ searchPathKey? members = some m.1) := by
  have hNil : unknownKeys members = [] ↔
      ∀ m ∈ members, m.1 = "pantries" ∨ searchPathKey? members = some m.1 := by
    rw [unknownKeys, List.filter_eq_nil_iff, List.forall_mem_map]
    refine forall₂_congr fun m _ => ?_
    by_cases hIs : m.1 = "pantries" <;> simp [hIs]
  unfold noUnknown
  split
  · rename_i hNone
    exact (Decides.ok ()).congr (iff_of_true trivial (hNil.mp hNone))
  · rename_i hSome
    exact ⟨iff_of_false nofun (mt hNil.mpr hSome),
      fun hNone => hSome (List.map_eq_nil_iff.mp (Except.error.inj hNone))⟩

/-- A configuration fits if its seeds and the search paths that are read do, and if it has no other
members than these. -/
theorem fits_iff : Fits members ↔
    (MayHave members "pantries" IsSeeds ∧
      ∀ key, searchPathKey? members = some key → MayHave members key (IsListOf IsText)) ∧
    ∀ m ∈ members, m.1 = "pantries" ∨ searchPathKey? members = some m.1 := by
  constructor
  · intro h
    exact ⟨⟨h.pantries, fun key hKey => h.searchPaths key (searchPathKey?_spec hKey).1⟩,
      fun m hMem => (h.known m hMem).imp_right (searchPathKey?_of_mem h.oneSpelling hMem)⟩
  · rintro ⟨⟨hPantries, hPaths⟩, hKnown⟩
    -- every spelling that is there is the one that is read
    have hRead : ∀ m ∈ members, m.1 ∈ searchPathKeys → searchPathKey? members = some m.1 :=
      fun m hMem hKey => (hKnown m hMem).resolve_left fun hIs =>
        pantries_not_mem_searchPathKeys (hIs ▸ hKey)
    refine ⟨fun m hMem => (hKnown m hMem).imp_right fun hKey => (searchPathKey?_spec hKey).1,
      fun m hMem m' hMem' hKey hKey' => Option.some.inj
        ((hRead m hMem hKey).symm.trans (hRead m' hMem' hKey')), fun key hKey v hSome => ?_,
      hPantries⟩
    obtain ⟨m, hMem, rfl⟩ := exists_mem_of_lookup_isSome (Option.isSome_of_eq_some hSome)
    exact hPaths m.1 (hRead m hMem hKey) v hSome

theorem decides_ofMembers : Decides (ofMembers cwd members) (Fits members) :=
  ((((Decides.optional decides_seedsOf members "pantries" Registry.empty).map _).seq
    decides_searchPathsIn).seq decides_noUnknown).congr fits_iff.symm

-- ---------------------------------------------------------------------------
-- Spellings
-- ---------------------------------------------------------------------------

/-- The search paths that are given, under whatever spelling. -/
def given? (members : List (String × Value)) : Option Value :=
  (members.find? fun m => decide (m.1 ∈ searchPathKeys)).map Prod.snd

theorem given?_respell (hKey : key ∈ searchPathKeys) :
    given? (respell key members) = given? members := by
  have hSame : ((fun m : String × Value => decide (m.1 ∈ searchPathKeys)) ∘
      fun m : String × Value => (if m.1 ∈ searchPathKeys then key else m.1, m.2)) =
      fun m => decide (m.1 ∈ searchPathKeys) := by
    funext m
    by_cases hIs : m.1 ∈ searchPathKeys <;> simp [hIs, hKey]
  rw [given?, respell, List.find?_map, hSame, Option.map_map, given?]
  rfl

theorem lookup_respell (hKey : key ∈ searchPathKeys) {other : String}
    (hOther : other ∉ searchPathKeys) :
    (respell key members).lookup other = members.lookup other := by
  induction members with
  | nil => rfl
  | cons m rest ih =>
    rw [respell, List.map_cons, ← respell]
    by_cases hIs : m.1 ∈ searchPathKeys
    · have hNe : other ≠ key := fun hEq => hOther (hEq ▸ hKey)
      have hNe' : other ≠ m.1 := fun hEq => hOther (hEq ▸ hIs)
      rw [if_pos hIs, List.lookup_cons, List.lookup_cons, ih, beq_false_of_ne hNe,
        beq_false_of_ne hNe']
    · rw [if_neg hIs, List.lookup_cons, List.lookup_cons, ih]

/-- There is one spelling now. -/
theorem oneSpelling_respell : OneSpelling (respell key members) := by
  have hOnly : ∀ m ∈ respell key members, m.1 ∈ searchPathKeys → m.1 = key := by
    intro m hMem hIs
    obtain ⟨m', -, rfl⟩ := List.mem_map.mp hMem
    dsimp only at hIs ⊢
    split at hIs
    · rename_i hSpelling
      rw [if_pos hSpelling]
    · contradiction
  exact fun m hMem m' hMem' hIs hIs' => (hOnly m hMem hIs).trans (hOnly m' hMem' hIs').symm

theorem known_respell (hKey : key ∈ searchPathKeys) :
    (∀ m ∈ respell key members, m.1 = "pantries" ∨ m.1 ∈ searchPathKeys) ↔
      ∀ m ∈ members, m.1 = "pantries" ∨ m.1 ∈ searchPathKeys := by
  rw [respell, List.forall_mem_map]
  refine forall₂_congr fun m _ => ?_
  dsimp only
  split
  · rename_i hIs
    exact iff_of_true (.inr hKey) (.inr hIs)
  · rfl

/-- The search paths that are given under one spelling are read. -/
theorem searchPathsIn_eq_ok_iff (hOne : OneSpelling members) {paths : List Path} :
    searchPathsIn cwd members = .ok paths ↔
      (given? members = none ∧ defaultSearchPaths cwd = paths) ∨
        ∃ v, given? members = some v ∧ searchPathsOf cwd v = .ok paths := by
  unfold given?
  cases hFound : members.find? fun m => decide (m.1 ∈ searchPathKeys) with
  | none =>
    have hNone : searchPathKey? members = none := by
      cases hRead : searchPathKey? members with
      | none => rfl
      | some key =>
        obtain ⟨hSpelling, m, hMem, rfl⟩ := searchPathKey?_spec hRead
        exact absurd (decide_eq_true hSpelling) (List.find?_eq_none.mp hFound m hMem)
    rw [searchPathsIn, hNone]
    simp
  | some m =>
    obtain ⟨hIs, before, after, hSplit, hBefore⟩ := List.find?_eq_some_iff_append.mp hFound
    have hKey : m.1 ∈ searchPathKeys := of_decide_eq_true hIs
    have hMem : m ∈ members := hSplit ▸ List.mem_append_right _ List.mem_cons_self
    have hLookup : members.lookup m.1 = some m.2 := by
      refine List.lookup_eq_some_iff.mpr ⟨before, after, hSplit, fun p hp => bne_iff_ne.mpr ?_⟩
      rintro hSame
      simpa [← hSame, hKey] using hBefore p hp
    rw [searchPathsIn, searchPathKey?_of_mem hOne hMem hKey]
    simp [Checked.optional, hLookup]

/-- Under which spelling search paths are given makes no difference to a configuration. -/
theorem load_eq_ok_iff (hOne : OneSpelling members) {config : Config} :
    load cwd (.object members) = .ok config ↔
      optional members "pantries" Registry.empty seedsOf = .ok config.pantries ∧
      ((given? members = none ∧ defaultSearchPaths cwd = config.searchPaths) ∨
        ∃ v, given? members = some v ∧ searchPathsOf cwd v = .ok config.searchPaths) ∧
      ∀ m ∈ members, m.1 = "pantries" ∨ m.1 ∈ searchPathKeys := by
  have hLoad : load cwd (.object members) = .ok config ↔ ofMembers cwd members = .ok config := by
    unfold load
    dsimp only
    split <;> simp_all
  have hKnown : noUnknown members = .ok () ↔
      ∀ m ∈ members, m.1 = "pantries" ∨ m.1 ∈ searchPathKeys := by
    have hDecides : Decides (noUnknown members) _ := decides_noUnknown
    refine Iff.trans ⟨fun h => ⟨(), h⟩, fun ⟨_, h⟩ => h⟩ (hDecides.ok_iff.trans ?_)
    exact forall₂_congr fun m hMem => or_congr_right
      ⟨fun h => (searchPathKey?_spec h).1, searchPathKey?_of_mem hOne hMem⟩
  rw [hLoad, ← searchPathsIn_eq_ok_iff hOne, ← hKnown, ofMembers]
  simp only [seq_eq_ok_iff]
  constructor
  · rintro ⟨_, _, ⟨_, paths, ⟨_, seeds, hFun, hSeeds, rfl⟩, hPaths, rfl⟩, hUnit, rfl⟩
    cases hFun
    exact ⟨hSeeds, hPaths, hUnit⟩
  · rintro ⟨hSeeds, hPaths, hUnit⟩
    exact ⟨_, _, ⟨_, _, ⟨_, _, rfl, hSeeds, rfl⟩, hPaths, rfl⟩, hUnit, rfl⟩

/--
**An object is a configuration exactly if it fits.** If it does not, it is refused with a list of
places that is not empty. And what it says does not depend on the spelling under which it gives its
search paths: any of the three may take the place of the one that is there.
-/
theorem accepted_iff_fits (cwd : Path) (members : List (String × Value)) {key : String}
    (hKey : key ∈ searchPathKeys) :
    ((∃ config, load cwd (.object members) = .ok config) ↔ Fits members) ∧
    (¬ Fits members →
      ∃ errors, errors ≠ [] ∧ load cwd (.object members) = .error (.configInvalid errors)) ∧
    ∀ config, load cwd (.object members) = .ok config ↔
      OneSpelling members ∧ load cwd (.object (respell key members)) = .ok config := by
  have hDecides : Decides (ofMembers cwd members) (Fits members) := decides_ofMembers
  have hIff : (∃ config, load cwd (.object members) = .ok config) ↔ Fits members := by
    rw [← hDecides.ok_iff]
    unfold load
    dsimp only
    split <;> simp_all
  refine ⟨hIff, fun hNot => ?_, fun config => ?_⟩
  · obtain ⟨errors, hSome, hErrors⟩ := hDecides.exists_errors hNot
    refine ⟨errors, hSome, ?_⟩
    rw [load, hErrors]
  · have hSame : OneSpelling members → (load cwd (.object members) = .ok config ↔
        load cwd (.object (respell key members)) = .ok config) := fun hOne => by
      rw [load_eq_ok_iff hOne, load_eq_ok_iff oneSpelling_respell, given?_respell hKey,
        known_respell hKey]
      simp only [Checked.optional, lookup_respell hKey pantries_not_mem_searchPathKeys]
    constructor
    · intro hOk
      have hOne := (hIff.mp ⟨config, hOk⟩).oneSpelling
      exact ⟨hOne, (hSame hOne).mp hOk⟩
    · rintro ⟨hOne, hOk⟩
      exact (hSame hOne).mpr hOk

/-- A descriptor and a place, with a search path under the last spelling. -/
theorem accepted_iff_fits_vendor :
    let entryPoints := Value.object [("sass", .object [("filename", .str "a.scss")])]
    let ingredient := Value.object [("path", .str "/p/i"), ("entryPoints", entryPoints)]
    let pantry := Value.object [("ingredients", .object [("i", ingredient)]), ("kept", .null)]
    let seeds := Value.object [("p", pantry), ("@ns/other", .str "/srv/other")]
    let members := [("pantries", seeds), ("searchPaths", .list [.str "vendor"])]
    Fits members ∧
      ∃ config, load ⟨.single, []⟩ (.object (respell "search_paths" members)) = .ok config := by
  intro entryPoints ingredient pantry seeds members
  have hAll := accepted_iff_fits ⟨.single, []⟩ members
    (by decide : "search_paths" ∈ searchPathKeys)
  have hOk : (load ⟨.single, []⟩ (.object members)).isOk = true := by decide +kernel
  cases hLoad : load ⟨.single, []⟩ (.object members) with
  | ok config => exact ⟨hAll.1.mp ⟨config, hLoad⟩, config, ((hAll.2.2 config).mp hLoad).2⟩
  | error fault =>
    rw [hLoad] at hOk
    cases hOk

end Config

end Larder
