import Larder.Proofs.Config
import Larder.Proofs.Path.Lexical
import Larder.Proofs.Registry
import Mathlib.Data.Set.List

/-!
# Larder — writing a configuration

A configuration that was loaded can be written as a value again: a place as the text of its path, a
descriptor as an object with all of its members, each under the spelling that comes last. What is
written is read as it was, one kind of thing after another from the entry points outwards, since a
path is read from its own text, and a registry names no key twice.

Search paths are anchored when they are loaded. So the ones that are written are absolute, and the
working directory under which they are read again makes no difference to them.

## Results

* `mapping_written`: the entries of a registry are read as they were.
* `seedOf_written`: so is a place, and so is a descriptor.
* `searchPathsOf_written`: so are search paths, if they are absolute.
* `load_written`: so is a configuration that was loaded.
-/

namespace Larder

open Checked

-- ---------------------------------------------------------------------------
-- The forms that are written
-- ---------------------------------------------------------------------------

/-- A text or nothing, as a value. -/
def Value.ofText? : Option String → Value
  | none => .null
  | some s => .str s

/-- A registry as an object, each of its values in some form. -/
def Registry.written {α : Type} (form : α → Value) (r : Registry String α) : Value :=
  .object (r.entries.map fun entry => (entry.1, form entry.2))

/-- The file of an entry point as an object. -/
def writtenEntryPoint (file : String) : Value := .object [("filename", .str file)]

/-- An ingredient as an object. -/
def Ingredient.written (i : Ingredient) : Value :=
  .object [("name", .ofText? i.name), ("path", .str i.path.toString),
    ("entry_points", i.entryPoints.written writtenEntryPoint)]

/-- A descriptor as an object. -/
def Pantry.written (p : Pantry) : Value :=
  .object [("name", .ofText? p.name), ("path", .ofText? (p.path.map Path.toString)),
    ("ingredients", p.ingredients.written Ingredient.written)]

/-- A descriptor as an object, or a place as a text. -/
def Seed.written : Seed → Value
  | .descriptor pantry => pantry.written
  | .location path => .str path.toString

/-- A configuration as an object. -/
def Config.written (config : Config) : Value :=
  .object [("pantries", config.pantries.written Seed.written),
    ("search_paths", .list (config.searchPaths.map fun path => .str path.toString))]

-- ---------------------------------------------------------------------------
-- Reading them
-- ---------------------------------------------------------------------------

section Reading

variable {α β : Type} {check : Value → Checked α} {form : α → Value}

/-- What stands under each key is read in its place. -/
theorem mapping_map {check : Value → Checked β} {read : α → β}
    (h : ∀ a, check (form a) = .ok (read a)) (entries : List (String × α)) :
    mapping check (.object (entries.map fun entry => (entry.1, form entry.2))) =
      .ok (entries.map fun entry => (entry.1, read entry.2)) := by
  rw [mapping]
  induction entries with
  | nil => rfl
  | cons entry rest ih =>
    rw [List.map_cons, List.map_cons, all, ih, h]
    rfl

/-- The entries of a registry are read as they were. -/
theorem mapping_written (h : ∀ a, check (form a) = .ok a) (r : Registry String α) :
    mapping check (r.written form) = .ok r.entries :=
  (mapping_map h r.entries).trans (congrArg Except.ok (List.map_id r.entries))

theorem ofList_mapping_written (h : ∀ a, check (form a) = .ok a) (r : Registry String α) :
    seq (.ok Registry.ofList) (mapping check (r.written form)) = .ok r := by
  rw [mapping_written h]
  exact congrArg Except.ok r.ofList_entries

theorem string?_written (t : Option String) : string? (.ofText? t) = .ok t := by
  cases t <;> rfl

theorem path_written (p : Path) : Checked.path (.str p.toString) = .ok p :=
  congrArg Except.ok p.ofString_toString

theorem path?_written (p : Option Path) :
    Checked.path? (.ofText? (p.map Path.toString)) = .ok p := by
  cases p with
  | none => rfl
  | some p => exact congrArg (fun q => Except.ok (some q)) p.ofString_toString

theorem entryPointsOf_written (files : Registry String String) :
    entryPointsOf (files.written writtenEntryPoint) = .ok files := by
  have hEach : ∀ file, entryPointOf (writtenEntryPoint file) = .ok file := fun _ => rfl
  exact ofList_mapping_written hEach files

theorem ingredientOf_written (i : Ingredient) : ingredientOf i.written = .ok i := by
  have hAll : ingredientOf i.written = seq (seq (seq (.ok Ingredient.mk)
      (under (.key "name") (string? (.ofText? i.name))))
      (under (.key "path") (Checked.path (.str i.path.toString))))
      (under (.key "entry_points") (entryPointsOf (i.entryPoints.written writtenEntryPoint))) := rfl
  rw [hAll, string?_written, path_written, entryPointsOf_written]
  rfl

theorem pantryOf_written (p : Pantry) : pantryOf p.written = .ok p := by
  have hIngredients : ingredientsOf (p.ingredients.written Ingredient.written) =
      .ok p.ingredients := ofList_mapping_written ingredientOf_written p.ingredients
  have hAll : pantryOf p.written = seq (seq (seq (.ok Pantry.mk)
      (under (.key "name") (string? (.ofText? p.name))))
      (under (.key "path") (Checked.path? (.ofText? (p.path.map Path.toString)))))
      (under (.key "ingredients") (ingredientsOf (p.ingredients.written Ingredient.written))) := rfl
  rw [hAll, string?_written, path?_written, hIngredients]
  rfl

/-- An object that fits a descriptor is one. -/
theorem seedOf_of_pantryOf {members : List (String × Value)} {p : Pantry}
    (h : pantryOf (.object members) = .ok p) :
    seedOf (.object members) = .ok (.descriptor p) := by
  rw [seedOf, h]
  · rfl
  · exact fun _ hEq => Value.noConfusion hEq

/-- A place is read as it was, and so is a descriptor. -/
theorem seedOf_written (s : Seed) : seedOf s.written = .ok s := by
  cases s with
  | location path => exact congrArg (fun p => Except.ok (Seed.location p)) path.ofString_toString
  | descriptor pantry => exact seedOf_of_pantryOf (pantryOf_written pantry)

/-- Seeds that fit are read if no name is blank. -/
theorem seedsOf_of_mapping {v : Value} {seeds : List (String × Seed)}
    (h : mapping seedOf v = .ok seeds)
    (hNames : ∀ name ∈ seeds.map Prod.fst, Text.isBlankText name = false) :
    seedsOf v = .ok (Registry.ofList seeds) := by
  have hNone : (seeds.any fun s => Text.isBlankText s.1) = false :=
    List.any_eq_false.mpr fun s hMem hBlank =>
      absurd ((hNames s.1 (List.mem_map_of_mem hMem)).symm.trans hBlank) (by decide)
  rw [seedsOf, h]
  simp only [hNone, Bool.false_eq_true, if_false]

/-- No name of seeds that were read is blank. -/
theorem not_isBlankText_of_seedsOf {v : Value} {seeds : Registry String Seed}
    (h : seedsOf v = .ok seeds) : ∀ name ∈ seeds.keys, Text.isBlankText name = false := by
  unfold seedsOf at h
  split at h
  · cases h
  · rename_i found _
    split at h
    · cases h
    · rename_i hNone
      cases h
      intro name hMem
      obtain ⟨s, hFound, rfl⟩ := List.mem_map.mp (Registry.mem_of_mem_keys_ofList hMem)
      exact Bool.eq_false_iff.mpr fun hBlank => hNone (List.any_eq_true.mpr ⟨s, hFound, hBlank⟩)

end Reading

-- ---------------------------------------------------------------------------
-- Search paths
-- ---------------------------------------------------------------------------

section SearchPaths

variable {cwd : Path}

theorem all_itemsFrom_texts (start : Nat) (texts : List String) :
    all (itemsFrom Checked.path start (texts.map Value.str)) = .ok (texts.map Path.ofString) := by
  induction texts generalizing start with
  | nil => rfl
  | cons s rest ih =>
    rw [List.map_cons, itemsFrom, all, ih]
    rfl

/-- Search paths are given as texts, and each is anchored in its place. -/
theorem searchPathsOf_eq_ok_iff {v : Value} {paths : List Path} :
    searchPathsOf cwd v = .ok paths ↔ ∃ texts : List String, v = .list (texts.map .str) ∧
      paths = texts.map fun s => cwd.anchor (Path.ofString s) := by
  have hRead : ∀ texts : List String, searchPathsOf cwd (.list (texts.map .str)) =
      .ok (texts.map fun s => cwd.anchor (Path.ofString s)) := fun texts => by
    rw [searchPathsOf, Checked.sequence, all_itemsFrom_texts]
    exact congrArg Except.ok List.map_map
  constructor
  · intro h
    have hForm : v.IsListOf Value.IsText :=
      ((Decides.sequence decides_path v).map (List.map cwd.anchor)).ok_iff.mp ⟨paths, h⟩
    obtain ⟨items, rfl, hItems⟩ := hForm
    have hTexts : items ∈ Set.range (List.map Value.str) := by
      rw [Set.range_list_map]
      exact fun item hMem => (hItems item hMem).imp fun _ h => h.symm
    obtain ⟨texts, rfl⟩ := hTexts
    exact ⟨texts, rfl, Except.ok.inj (h.symm.trans (hRead texts))⟩
  · rintro ⟨texts, rfl, rfl⟩
    exact hRead texts

/-- Search paths that were read are absolute. -/
theorem isAbsolute_of_searchPathsOf (hCwd : cwd.isAbsolute = true) {v : Value} {paths : List Path}
    (h : searchPathsOf cwd v = .ok paths) : ∀ p ∈ paths, p.isAbsolute = true := by
  obtain ⟨texts, -, rfl⟩ := searchPathsOf_eq_ok_iff.mp h
  exact List.forall_mem_map.mpr fun _ _ => Path.isAbsolute_join hCwd

/-- Search paths that are absolute are read as they were, from wherever. -/
theorem searchPathsOf_written {paths : List Path} (h : ∀ p ∈ paths, p.isAbsolute = true) :
    searchPathsOf cwd (.list (paths.map fun p => .str p.toString)) = .ok paths := by
  refine searchPathsOf_eq_ok_iff.mpr ⟨paths.map Path.toString, by rw [List.map_map]; rfl, ?_⟩
  rw [List.map_map]
  refine (List.map_id paths).symm.trans (List.map_congr_left fun p hMem => ?_)
  show p = cwd.anchor (Path.ofString p.toString)
  rw [Path.ofString_toString, Path.anchor, Path.join_of_isAbsolute (h p hMem)]

end SearchPaths

-- ---------------------------------------------------------------------------
-- Configurations
-- ---------------------------------------------------------------------------

namespace Path

/-- Two slashes, and no third, are a root of their own. -/
theorem rootOfChars_eq_double_iff {text : List Char} :
    Root.ofChars text = .double ↔ ∃ rest, text = '/' :: '/' :: rest ∧ rest.head? ≠ some '/' := by
  constructor
  · intro h
    unfold Root.ofChars at h
    split at h
    · cases h
    · rename_i rest hThird
      refine ⟨rest, rfl, fun hHead => ?_⟩
      obtain ⟨more, rfl⟩ := List.head?_eq_some_iff.mp hHead
      exact hThird more rfl
    · cases h
    · cases h
  · rintro ⟨rest, rfl, hHead⟩
    have hDouble : Root.ofChars (Root.double.toChars ++ rest) = .double := rootOfChars_append hHead
    exact hDouble

/-- Where a text leads that is anchored. -/
theorem anchor_ofChars (cwd : Path) (text : List Char) :
    (isRooted text = true → cwd.anchor (ofChars text) = ofChars text) ∧
    (isRooted text = false → (cwd.anchor (ofChars text)).root = cwd.root ∧
      (cwd.anchor (ofChars text)).names = cwd.names ++ pieces text) := by
  rw [← isAbsolute_ofChars]
  refine ⟨join_of_isAbsolute, fun hRelative => ?_⟩
  have hRoot : (ofChars text).root = .relative := by simpa [isAbsolute] using hRelative
  rw [anchor, join_of_relative hRoot]
  exact ⟨rfl, List.map_append.trans (congrArg _ (names_ofChars text))⟩

end Path

namespace Config

variable {cwd : Path} {v : Value} {config : Config}

/-- The search paths that a value gives, under whatever spelling. -/
def searchPathsGiven? : Value → Option Value
  | .object members => given? members
  | _ => none

theorem fits_of_load {members : List (String × Value)}
    (h : load cwd (.object members) = .ok config) : Fits members := by
  have hRead : ofMembers cwd members = .ok config := by
    unfold load at h
    dsimp only at h
    split at h
    · rename_i hRead
      rw [hRead, Except.ok.inj h]
    · cases h
  exact decides_ofMembers.ok_iff.mp ⟨config, hRead⟩

/-- What is known of a configuration that was loaded: no name is blank, and the search paths are
those that were given, or else the dependency folder. -/
theorem of_load (h : load cwd v = .ok config) :
    (∀ name ∈ config.pantries.keys, Text.isBlankText name = false) ∧
      ((searchPathsGiven? v = none ∧ config.searchPaths = defaultSearchPaths cwd) ∨
        ∃ given, searchPathsGiven? v = some given ∧
          searchPathsOf cwd given = .ok config.searchPaths) := by
  cases v with
  | null =>
    cases h
    exact ⟨nofun, .inl ⟨rfl, rfl⟩⟩
  | object members =>
    obtain ⟨hPantries, hPaths, -⟩ := (load_eq_ok_iff (fits_of_load h).oneSpelling).mp h
    refine ⟨?_, hPaths.imp_left fun hNone => ⟨hNone.1, hNone.2.symm⟩⟩
    unfold Checked.optional at hPantries
    split at hPantries
    · rw [← Except.ok.inj hPantries]
      exact nofun
    · exact not_isBlankText_of_seedsOf (under_eq_ok_iff.mp hPantries)
  | _ => cases h

theorem load_object {members : List (String × Value)} (h : ofMembers cwd members = .ok config) :
    load cwd (.object members) = .ok config := by
  rw [load, h]

/-- A configuration may give seeds, search paths, both or neither. -/
theorem ofMembers_of_parts (cwd : Path) (seeds paths : Option Value) :
    ofMembers cwd (seeds.toList.map (("pantries", ·)) ++ paths.toList.map (("search_paths", ·))) =
      seq (seq (seq (.ok fun pantries searchPaths (_ : Unit) => ⟨pantries, searchPaths⟩)
        (seeds.elim (.ok Registry.empty) fun v => under (.key "pantries") (seedsOf v)))
        (paths.elim (.ok (defaultSearchPaths cwd))
          fun v => under (.key "search_paths") (searchPathsOf cwd v)))
        (.ok ()) := by
  cases seeds <;> cases paths <;> rfl

/-- A configuration without blank names and with absolute search paths is read as it was. -/
theorem load_of_written (hNames : ∀ name ∈ config.pantries.keys, Text.isBlankText name = false)
    (hPaths : ∀ path ∈ config.searchPaths, path.isAbsolute = true) :
    load cwd config.written = .ok config := by
  have hSeeds : seedsOf (config.pantries.written Seed.written) = .ok config.pantries :=
    (seedsOf_of_mapping (mapping_written seedOf_written _) hNames).trans
      (congrArg Except.ok (Registry.ofList_entries _))
  have hAll := ofMembers_of_parts cwd (some (config.pantries.written Seed.written))
    (some (.list (config.searchPaths.map fun path => .str path.toString)))
  rw [Option.elim_some, Option.elim_some, hSeeds, searchPathsOf_written hPaths] at hAll
  exact load_object hAll

/--
**A configuration that was loaded can be written and loaded again**, from any working directory, and
is the same as before. Its search paths are absolute. They are those that were given, as many and in
the same order, or else the dependency folder. A text that starts with a slash keeps all of its
names, `..` among them, and its two slashes if it has two and no third; the names of any other text
come after those of the working directory.
-/
theorem load_written (hCwd : cwd.isAbsolute = true) (h : load cwd v = .ok config) :
    (∀ cwd', load cwd' config.written = .ok config) ∧
    (∀ path ∈ config.searchPaths, path.isAbsolute = true) ∧
    ((searchPathsGiven? v = none ∧ config.searchPaths = [cwd.child dependencyFolder]) ∨
      ∃ texts : List String, searchPathsGiven? v = some (.list (texts.map .str)) ∧
        config.searchPaths = texts.map fun text => cwd.anchor (Path.ofString text)) ∧
    ∀ text : String,
      let path := cwd.anchor (Path.ofString text)
      path.toChars = path.root.toChars ++ Text.joinWith '/' path.names ∧
      (Path.isRooted text.toList = true → path.names = Path.pieces text.toList ∧
        (path.root = .double ↔
          ∃ rest, text.toList = '/' :: '/' :: rest ∧ rest.head? ≠ some '/')) ∧
      (Path.isRooted text.toList = false → path.root = cwd.root ∧
        path.names = cwd.names ++ Path.pieces text.toList) := by
  obtain ⟨hNames, hPaths⟩ := of_load h
  have hAbsolute : ∀ path ∈ config.searchPaths, path.isAbsolute = true := by
    rcases hPaths with ⟨-, hDefault⟩ | ⟨given, -, hRead⟩
    · rw [hDefault]
      exact List.forall_mem_singleton.mpr hCwd
    · exact isAbsolute_of_searchPathsOf hCwd hRead
  refine ⟨fun _ => load_of_written hNames hAbsolute, hAbsolute, hPaths.imp_right ?_,
    fun text => ?_⟩
  · rintro ⟨given, hGiven, hRead⟩
    obtain ⟨texts, rfl, hAnchored⟩ := searchPathsOf_eq_ok_iff.mp hRead
    exact ⟨texts, hGiven, hAnchored⟩
  · obtain ⟨hRooted, hRelative⟩ := cwd.anchor_ofChars text.toList
    refine ⟨Path.toChars_of_isAbsolute (Path.isAbsolute_join hCwd), fun hText => ?_, hRelative⟩
    show (cwd.anchor (Path.ofChars text.toList)).names = _ ∧
      ((cwd.anchor (Path.ofChars text.toList)).root = .double ↔ _)
    rw [hRooted hText]
    exact ⟨Path.names_ofChars _, Path.rootOfChars_eq_double_iff⟩

/-- A place, a descriptor, and search paths under a second spelling: one that is relative, and one
that starts with two slashes and climbs. -/
theorem load_written_climbing :
    let entryPoints := Value.object [("sass", .object [("filename", .str "a.scss")])]
    let ingredient := Value.object [("path", .str "./i/"), ("entryPoints", entryPoints)]
    let pantry := Value.object [("ingredients", .object [("i", ingredient)]), ("kept", .null)]
    let v := Value.object [("searchPaths", .list [.str "vendor//x", .str "//srv/../a/."]),
      ("pantries", .object [("p", pantry), ("q", .str "")])]
    ∃ config, load (.ofString "/w") v = .ok config ∧
      load (.ofString "/elsewhere") config.written = .ok config ∧
      config.searchPaths.map Path.toString = ["/w/vendor/x", "//srv/../a"] := by
  intro entryPoints ingredient pantry v
  have hPaths : (load (.ofString "/w") v).toOption.map (fun c => c.searchPaths.map Path.toString) =
      some ["/w/vendor/x", "//srv/../a"] := by decide +kernel
  cases hLoad : load (.ofString "/w") v with
  | ok config =>
    obtain ⟨hAgain, -⟩ := load_written (by decide +kernel) hLoad
    rw [hLoad] at hPaths
    exact ⟨config, rfl, hAgain _, Option.some.inj hPaths⟩
  | error fault =>
    rw [hLoad] at hPaths
    cases hPaths

end Config

end Larder
