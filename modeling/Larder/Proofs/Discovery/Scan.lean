import Larder.Proofs.Path.Names
import Larder.Proofs.Registry

/-!
# Larder — what a scan finds

A scan goes down from the directory of a pantry and takes note of the directories that hold the
marker. It is a recursion with a bound on its depth, while the directories that it should come to
are those at the end of a way that leads through directories it enters. A way passes through as many
different directories as it is long, each of them an entry of the tree, so the bound is never met.

Two ways have two names. So what the scan registers under a name is the directory that the name
leads to, and nothing is registered under a name that leads nowhere.

## Results

* `mem_scan`: the scan finds the directories with the marker that it can come to.
* `published_get?`, `published_get?_none`: what is registered under the name of a way.
* `entryPointFor_published`: which file of a found ingredient is given.
-/

namespace Larder

namespace Discovery

variable {d : Discovery} {root : Path} {place : Place} {below way : List Component}
  {c : Component} {file : String}

-- ---------------------------------------------------------------------------
-- One directory
-- ---------------------------------------------------------------------------

/-- Whether a directory, so far below a pantry, holds something under a name that does not count as
a directory: a file, or a link that does not lead to one. -/
def HoldsFile (d : Discovery) (root : Path) (place : Place) (below : List Component)
    (file : String) : Prop :=
  ∃ c : Component, c.text = file ∧ (d.tree.get? place c = some .file ∨
    ∃ target, d.tree.get? place c = some (.link target) ∧
      d.tree.leadsToDirectory d.cwd (pathBelow root (below ++ [c])) = false)

/-- Whether the scan enters a directory, so far below a pantry, under a name. -/
structure Enters (d : Discovery) (root : Path) (place : Place) (below : List Component)
    (c : Component) : Prop where
  directory : d.tree.get? place c = some .directory
  visited : isSkipped c = false
  readable : Tree.isOverlong (pathBelow root (below ++ [c])) = false

theorem mem_children_iff : c ∈ d.tree.children place ↔ ∃ node, d.tree.get? place c = some node :=
  Tree.mem_children.trans Registry.mem_keys_iff

theorem mem_filesIn : file ∈ d.filesIn root place below ↔ d.HoldsFile root place below file := by
  rw [filesIn, List.mem_map]
  constructor
  · rintro ⟨c, hMem, rfl⟩
    rw [List.mem_filter, mem_children_iff] at hMem
    obtain ⟨⟨node, hNode⟩, hFile⟩ := hMem
    refine ⟨c, rfl, ?_⟩
    rw [holdsDirectory, hNode] at hFile
    cases node with
    | file => exact Or.inl hNode
    | directory => simp at hFile
    | link target => exact Or.inr ⟨target, hNode, by simpa using hFile⟩
  · rintro ⟨c, rfl, hNode⟩
    refine ⟨c, List.mem_filter.mpr ⟨?_, ?_⟩, rfl⟩
    · rcases hNode with hNode | ⟨target, hNode, _⟩
      · exact mem_children_iff.mpr ⟨_, hNode⟩
      · exact mem_children_iff.mpr ⟨_, hNode⟩
    · rcases hNode with hNode | ⟨target, hNode, hLeads⟩
      · simp [holdsDirectory, hNode]
      · simp [holdsDirectory, hNode, hLeads]

theorem mem_entered : c ∈ d.entered root place below ↔ d.Enters root place below c := by
  rw [entered, (sortNames_perm _).mem_iff, List.mem_filter, Bool.and_eq_true, Bool.and_eq_true,
    mem_children_iff, decide_eq_true_eq, Bool.not_eq_true', Bool.not_eq_true']
  constructor
  · rintro ⟨_, ⟨hVisited, hDirectory⟩, hReadable⟩
    exact ⟨hDirectory, hVisited, hReadable⟩
  · rintro ⟨hDirectory, hVisited, hReadable⟩
    exact ⟨⟨_, hDirectory⟩, ⟨hVisited, hDirectory⟩, hReadable⟩

-- ---------------------------------------------------------------------------
-- Ways down
-- ---------------------------------------------------------------------------

/-- Whether the scan enters every directory on a way down, from a directory so far below the
pantry. -/
def Descends (d : Discovery) (root : Path) (place : Place) (below way : List Component) : Prop :=
  ∀ before c after, way = before ++ c :: after →
    d.Enters root (place ++ before) (below ++ before) c

theorem descends_nil : d.Descends root place below [] := by
  intro before c after hWay
  simp at hWay

theorem descends_cons : d.Descends root place below (c :: way) ↔
    d.Enters root place below c ∧ d.Descends root (place ++ [c]) (below ++ [c]) way := by
  constructor
  · intro h
    refine ⟨by simpa using h [] c way rfl, fun before e after hWay => ?_⟩
    simpa using h (c :: before) e after (by rw [hWay, List.cons_append])
  · rintro ⟨hFirst, hRest⟩ before e after hWay
    rw [List.cons_eq_append_iff] at hWay
    rcases hWay with ⟨rfl, hWay⟩ | ⟨before, rfl, hWay⟩
    · obtain ⟨rfl, _⟩ := List.cons.inj hWay
      simpa using hFirst
    · simpa using hRest before e after hWay

/-- The entries of the tree that a way down passes. -/
def passed (place : Place) : List Component → List (Place × Component)
  | [] => []
  | c :: way => (place, c) :: passed (place ++ [c]) way

theorem length_passed (place : Place) (way : List Component) :
    (passed place way).length = way.length := by
  induction way generalizing place with
  | nil => rfl
  | cons c way ih => rw [passed, List.length_cons, ih, List.length_cons]

/-- A way leads down only. -/
theorem length_le_of_mem_passed {key : Place × Component} (h : key ∈ passed place way) :
    place.length ≤ key.1.length := by
  induction way generalizing place with
  | nil => simp [passed] at h
  | cons c way ih =>
    rw [passed, List.mem_cons] at h
    rcases h with rfl | hLater
    · exact Nat.le_refl _
    · have hBelow := ih hLater
      rw [List.length_append, List.length_singleton] at hBelow
      omega

theorem nodup_passed (place : Place) (way : List Component) : (passed place way).Nodup := by
  induction way generalizing place with
  | nil => exact List.nodup_nil
  | cons c way ih =>
    rw [passed, List.nodup_cons]
    refine ⟨fun hLater => ?_, ih _⟩
    have hBelow := length_le_of_mem_passed hLater
    rw [List.length_append, List.length_singleton] at hBelow
    exact absurd hBelow (Nat.not_succ_le_self _)

theorem mem_keys_of_mem_passed (h : d.Descends root place below way) {key : Place × Component}
    (hKey : key ∈ passed place way) : key ∈ d.tree.nodes.keys := by
  induction way generalizing place below with
  | nil => simp [passed] at hKey
  | cons c way ih =>
    obtain ⟨hFirst, hRest⟩ := descends_cons.mp h
    rw [passed, List.mem_cons] at hKey
    rcases hKey with rfl | hLater
    · exact Registry.mem_keys_iff.mpr ⟨_, hFirst.directory⟩
    · exact ih hRest hLater

/-- No way down is longer than the tree has entries. -/
theorem length_le_of_descends (h : d.Descends root place below way) :
    way.length ≤ d.tree.nodes.entries.length := by
  have hLength : (passed place way).length ≤ d.tree.nodes.keys.length :=
    (nodup_passed place way).length_le_of_subset fun key hKey => mem_keys_of_mem_passed h hKey
  rwa [length_passed, Registry.keys, List.length_map] at hLength

-- ---------------------------------------------------------------------------
-- The scan
-- ---------------------------------------------------------------------------

theorem mem_ingredientIn {i : Ingredient} : i ∈ d.ingredientIn root place below ↔
    below ≠ [] ∧ d.HoldsFile root place below marker ∧
      i = ingredientAt d.fileNames root below (d.filesIn root place below) := by
  rw [ingredientIn, ← mem_filesIn, ← and_assoc]
  simp only [List.contains_iff_mem]
  split
  · rename_i hBoth
    simp [hBoth]
  · rename_i hNot
    simp only [List.not_mem_nil, false_iff]
    exact fun h => hNot h.1

/-- A scan of some depth finds what lies at the end of the ways that are no longer. -/
theorem mem_scanFrom (depth : Nat) {i : Ingredient} : i ∈ d.scanFrom root depth place below ↔
    ∃ way, way.length ≤ depth ∧ d.Descends root place below way ∧
      i ∈ d.ingredientIn root (place ++ way) (below ++ way) := by
  induction depth generalizing place below with
  | zero =>
    rw [scanFrom]
    constructor
    · exact fun hHere => ⟨[], Nat.le_refl _, descends_nil, by simpa using hHere⟩
    · rintro ⟨way, hLength, _, hHere⟩
      obtain rfl := List.eq_nil_of_length_eq_zero (Nat.le_zero.mp hLength)
      simpa using hHere
  | succ depth ih =>
    rw [scanFrom, List.mem_append, List.mem_flatMap]
    constructor
    · rintro (hHere | ⟨c, hEnters, hBelow⟩)
      · exact ⟨[], Nat.zero_le _, descends_nil, by simpa using hHere⟩
      · obtain ⟨way, hLength, hDescends, hThere⟩ := ih.mp hBelow
        refine ⟨c :: way, Nat.succ_le_succ hLength,
          descends_cons.mpr ⟨mem_entered.mp hEnters, hDescends⟩, ?_⟩
        simpa using hThere
    · rintro ⟨way, hLength, hDescends, hThere⟩
      cases way with
      | nil => exact Or.inl (by simpa using hThere)
      | cons c way =>
        obtain ⟨hFirst, hRest⟩ := descends_cons.mp hDescends
        refine Or.inr ⟨c, mem_entered.mpr hFirst, ih.mpr ⟨way, ?_, hRest, ?_⟩⟩
        · exact Nat.le_of_succ_le_succ hLength
        · simpa using hThere

/-- Whether a way from the directory of a pantry leads to an ingredient. -/
structure LeadsToIngredient (d : Discovery) (root : Path) (place : Place)
    (way : List Component) : Prop where
  below : way ≠ []
  descends : d.Descends root place [] way
  marked : d.HoldsFile root (place ++ way) way marker

/-- The ingredient at the end of a way. -/
def ingredientOn (d : Discovery) (root : Path) (place : Place) (way : List Component) :
    Ingredient :=
  ingredientAt d.fileNames root way (d.filesIn root (place ++ way) way)

/-- **The scan finds the directories with the marker that it can come to**, however deep they
lie. -/
theorem mem_scan {i : Ingredient} : i ∈ d.scan root place ↔
    ∃ way, d.LeadsToIngredient root place way ∧ i = d.ingredientOn root place way := by
  simp only [scan, mem_scanFrom, List.nil_append, mem_ingredientIn]
  constructor
  · rintro ⟨way, _, hDescends, hBelow, hMarked, rfl⟩
    exact ⟨way, ⟨hBelow, hDescends, hMarked⟩, rfl⟩
  · rintro ⟨way, hLeads, rfl⟩
    exact ⟨way, length_le_of_descends hLeads.descends, hLeads.descends, hLeads.below,
      hLeads.marked, rfl⟩

-- ---------------------------------------------------------------------------
-- The pantry
-- ---------------------------------------------------------------------------

/-- The ingredients of the pantry in a directory, by name. -/
def published (d : Discovery) (root : Path) (place : Place) : Registry String Ingredient :=
  Registry.ofList ((d.scan root place).filterMap fun i => i.name.map fun n => (n, i))

/-- From a path whose anchored form leads to a directory the pantry in that directory is loaded. -/
theorem load_of_directory {name : String} {path : Path}
    (h : d.tree.arrive d.cwd (d.cwd.absolute path) = .directory place) :
    (d.load name path).result =
      .ok ⟨some name, some (d.cwd.absolute path), d.published (d.cwd.absolute path) place⟩ := by
  rw [load]
  simp only [h]
  rfl

/-- What the scan enters under a name lies on the way of that name. -/
theorem mem_named {i : Ingredient} {name : String} :
    (name, i) ∈ ((d.scan root place).filterMap fun i => i.name.map fun n => (n, i)) ↔
      ∃ way, d.LeadsToIngredient root place way ∧ i = d.ingredientOn root place way ∧
        name = nameBelow way := by
  rw [List.mem_filterMap]
  constructor
  · rintro ⟨j, hScan, hName⟩
    obtain ⟨way, hLeads, rfl⟩ := mem_scan.mp hScan
    obtain ⟨rfl, rfl⟩ := Prod.mk.inj (Option.some.inj hName)
    exact ⟨way, hLeads, rfl, rfl⟩
  · rintro ⟨way, hLeads, rfl, rfl⟩
    exact ⟨_, mem_scan.mpr ⟨way, hLeads, rfl⟩, rfl⟩

/-- Under the name of a way to an ingredient that ingredient is registered. -/
theorem published_get? (h : d.LeadsToIngredient root place way) :
    (d.published root place).get? (nameBelow way) = some (d.ingredientOn root place way) := by
  refine Registry.get?_ofList_of_mem (mem_named.mpr ⟨way, h, rfl, rfl⟩) fun i hMem => ?_
  obtain ⟨way', _, rfl, hName⟩ := mem_named.mp hMem
  rw [nameBelow_inj.mp hName]

/-- Under the name of any other way nothing is registered. -/
theorem published_get?_none (h : ¬ d.LeadsToIngredient root place way) :
    (d.published root place).get? (nameBelow way) = none := by
  refine Registry.get?_ofList_of_not_mem fun i hMem => h ?_
  obtain ⟨way', hLeads, _, hName⟩ := mem_named.mp hMem
  rwa [nameBelow_inj.mp hName]

/-- What is registered lies at the end of the way of its name. -/
theorem exists_way_of_published {i : Ingredient} {name : String}
    (h : (d.published root place).get? name = some i) :
    ∃ way, d.LeadsToIngredient root place way ∧ i = d.ingredientOn root place way ∧
      name = nameBelow way := by
  rw [published, Registry.get?_ofList] at h
  exact mem_named.mp (List.mem_reverse.mp (mem_of_lookupPair h))

/-- A found ingredient has the entry points whose conventional files stand beside the marker. -/
theorem get?_entryPoints (d : Discovery) (root : Path) (place : Place) (way : List Component)
    (kind : String) : (d.ingredientOn root place way).entryPoints.get? kind =
      (d.fileNames.get? kind).filter fun file =>
        (d.filesIn root (place ++ way) way).contains file :=
  Registry.get?_ofList_filter d.fileNames _ kind

/-- **Which file of an ingredient is given.** In the pantry that was loaded from a directory, the
entry point of the ingredient at the end of a way is the conventional file in the directory at the
end of that way. -/
theorem entryPointFor_published (d : Discovery) (root : Path) (place : Place)
    (way : List Component) {name kind : String} (hName : name ≠ "") (cwd shown : Path)
    (hFile : d.fileNames.get? kind = some file) :
    let p : Pantry := ⟨some name, some shown, d.published root place⟩
    (d.LeadsToIngredient root place way → d.HoldsFile root (place ++ way) way file →
      p.entryPointFor cwd (nameBelow way) kind =
        .ok (cwd.absolute ((pathBelow root way).join (Path.ofString file)))) ∧
    (d.LeadsToIngredient root place way → ¬ d.HoldsFile root (place ++ way) way file →
      p.entryPointFor cwd (nameBelow way) kind =
        .error (.noEntryPoint name (nameBelow way) kind)) ∧
    (¬ d.LeadsToIngredient root place way →
      p.entryPointFor cwd (nameBelow way) kind = .error (.noIngredient name (nameBelow way))) := by
  intro p
  have hShown : p.displayName = name := by
    simp [p, Pantry.displayName, Pantry.ownName?, Option.filter_some, hName]
  have hPoint : (d.ingredientOn root place way).entryPoints.get? kind =
      if file ∈ d.filesIn root (place ++ way) way then some file else none := by
    rw [get?_entryPoints, hFile, Option.filter_some]
    simp only [List.contains_iff_mem]
  refine ⟨fun hLeads hHolds => ?_, fun hLeads hLacks => ?_, fun hNone => ?_⟩
  · rw [if_pos (mem_filesIn.mpr hHolds)] at hPoint
    exact Pantry.entryPointFor_eq_ok_iff.mpr ⟨_, _, published_get? hLeads, hPoint, rfl⟩
  · rw [if_neg fun hMem => hLacks (mem_filesIn.mp hMem)] at hPoint
    have hFound : p.ingredients.get? (nameBelow way) = _ := published_get? hLeads
    simp only [Pantry.entryPointFor, hFound, hPoint, hShown]
  · have hMissing : p.ingredients.get? (nameBelow way) = none := published_get?_none hNone
    simp only [Pantry.entryPointFor, hMissing, hShown]

end Discovery

end Larder
