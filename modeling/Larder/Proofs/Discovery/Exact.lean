import Larder.Proofs.Discovery.Scan
import Larder.Proofs.Importer.Meaning

/-!
# Larder — what a pantry publishes, and in which order

The scan of a directory comes to its ingredients by ways, and the ways have an order of their own:
they are compared name by name, the names code point by code point, and a way comes after the ways
that it continues. The scan goes through the names of each directory sorted, so it comes to the
ingredients in this order. A directory may list its names in any order; nothing that the scan looks
at depends on it.

So a pantry is known when its tree is known: which ways lead to ingredients, in which order they are
registered, what each of them is. One thing remains that the tree does not say. A directory whose
path is longer than can be asked for is passed by, though it is there and holds the marker.

## Results

* `pairwise_sortNames`, `sortNames_eq_of_perm`: sorting forgets the order that names came in.
* `scan_eq_map`, `pairwise_ways`: the scan follows the order of the ways.
* `load_relisted`: a pantry does not depend on how directories list their names.
* `load_exact`: what is loaded from a directory.
* `passed_by_for_length`: a directory with the marker that is no ingredient.
-/

namespace Larder

-- ---------------------------------------------------------------------------
-- Names in order
-- ---------------------------------------------------------------------------

theorem Component.text_inj {c e : Component} (h : c.text = e.text) : c = e := by
  cases c
  cases e
  simpa using h

theorem pairwise_insertName (c : Component) {cs : List Component}
    (h : cs.Pairwise fun c e => c.text ≤ e.text) :
    (insertName c cs).Pairwise fun c e => c.text ≤ e.text := by
  induction cs with
  | nil => exact List.pairwise_singleton _ _
  | cons e rest ih =>
    obtain ⟨hFirst, hRest⟩ := List.pairwise_cons.mp h
    unfold insertName
    split
    · rename_i hLe
      refine List.pairwise_cons.mpr ⟨List.forall_mem_cons.mpr ⟨hLe, fun other hMem => ?_⟩, h⟩
      exact String.le_trans hLe (hFirst other hMem)
    · rename_i hNot
      refine List.pairwise_cons.mpr ⟨fun other hMem => ?_, ih hRest⟩
      rcases List.mem_cons.mp ((insertName_perm c rest).mem_iff.mp hMem) with rfl | hOld
      · exact (String.le_total _ _).resolve_left hNot
      · exact hFirst other hOld

theorem pairwise_sortNames (cs : List Component) :
    (sortNames cs).Pairwise fun c e => c.text ≤ e.text := by
  induction cs with
  | nil => exact List.Pairwise.nil
  | cons c rest ih => exact pairwise_insertName c ih

/-- Sorting forgets the order that names came in. -/
theorem sortNames_eq_of_perm {cs cs' : List Component} (h : cs.Perm cs') :
    sortNames cs = sortNames cs' := by
  have hPerm : (sortNames cs).Perm (sortNames cs') :=
    ((sortNames_perm cs).trans h).trans (sortNames_perm cs').symm
  exact hPerm.eq_of_pairwise (fun _ _ _ _ hLe hGe => Component.text_inj (String.le_antisymm hLe hGe))
    (pairwise_sortNames cs) (pairwise_sortNames cs')

/-- Names that differ are sorted strictly. -/
theorem pairwise_lt_sortNames {cs : List Component} (h : cs.Nodup) :
    (sortNames cs).Pairwise fun c e => c.text < e.text := by
  have hNodup : (sortNames cs).Nodup := (sortNames_perm cs).nodup_iff.mpr h
  refine ((pairwise_sortNames cs).and hNodup).imp fun hBoth => ?_
  rw [← String.not_le]
  exact fun hGe => hBoth.2 (Component.text_inj (String.le_antisymm hBoth.1 hGe))

-- ---------------------------------------------------------------------------
-- Trees that differ in their order only
-- ---------------------------------------------------------------------------

namespace Tree

variable {t t' : Tree}

/-- Whether two trees hold the same, though their directories may list it in another order. -/
def Relisted (t t' : Tree) : Prop := ∀ place c, t.get? place c = t'.get? place c

theorem Relisted.entries_perm (h : t.Relisted t') : t.nodes.entries.Perm t'.nodes.entries :=
  Registry.entries_perm_of_get?_eq fun (place, c) => h place c

theorem children_perm (h : t.Relisted t') (place : Place) :
    (t.children place).Perm (t'.children place) :=
  (h.entries_perm.map Prod.fst).filterMap _

theorem nodup_children (t : Tree) (place : Place) : (t.children place).Nodup := by
  have hHere : ∀ {key : Place × Component} {c : Component},
      (if key.1 = place then some key.2 else none) = some c → key = (place, c) := by
    intro key c hKey
    split at hKey
    · rename_i hPlace
      exact Prod.ext hPlace (Option.some.inj hKey)
    · cases hKey
  refine List.Pairwise.filterMap _ (fun key other hNe c hKey c' hOther hSame => hNe ?_) t.nodes.nodup
  rw [hHere hKey, hHere hOther, hSame]

theorem walk_relisted (h : t.Relisted t') (jump : Place → List Component → Arrival) (place : Place)
    (way : List Component) : t.walk jump place way = t'.walk jump place way := by
  induction way generalizing place with
  | nil => rfl
  | cons c rest ih =>
    rw [walk, walk, h place c]
    simp only [ih]

theorem follow_relisted (h : t.Relisted t') (links : Nat) : t.follow links = t'.follow links := by
  induction links with
  | zero =>
    funext place way
    exact walk_relisted h _ place way
  | succ links ih =>
    funext place way
    rw [follow, follow, ih]
    exact walk_relisted h _ place way

theorem arrive_relisted (h : t.Relisted t') (cwd p : Path) : t.arrive cwd p = t'.arrive cwd p := by
  rw [arrive, arrive, follow_relisted h]

end Tree

namespace Discovery

variable {d d' : Discovery} {root path : Path} {place : Place} {below way way' : List Component}
  {name : String}

/-- Whether two discoveries see the same tree from the same directory and go by the same file
names, though directories may be listed in another order. -/
structure Relisted (d d' : Discovery) : Prop where
  tree : d.tree.Relisted d'.tree
  cwd : d.cwd = d'.cwd
  fileNames : d.fileNames = d'.fileNames

theorem holdsDirectory_relisted (h : d.Relisted d') (c : Component) :
    d.holdsDirectory root place below c = d'.holdsDirectory root place below c := by
  rw [holdsDirectory, holdsDirectory, h.tree place c, Tree.leadsToDirectory, Tree.leadsToDirectory,
    Tree.arrive_relisted h.tree, h.cwd]

theorem filesIn_relisted (h : d.Relisted d') :
    (d.filesIn root place below).Perm (d'.filesIn root place below) := by
  rw [filesIn, filesIn]
  simp only [holdsDirectory_relisted h]
  exact ((Tree.children_perm h.tree place).filter _).map _

theorem entered_relisted (h : d.Relisted d') :
    d.entered root place below = d'.entered root place below := by
  rw [entered, entered]
  simp only [h.tree place]
  exact sortNames_eq_of_perm ((Tree.children_perm h.tree place).filter _)

theorem ingredientIn_relisted (h : d.Relisted d') :
    d.ingredientIn root place below = d'.ingredientIn root place below := by
  have hFiles : ∀ {file}, (d.filesIn root place below).contains file =
      (d'.filesIn root place below).contains file := (filesIn_relisted h).contains_eq
  rw [ingredientIn, ingredientIn, ingredientAt, ingredientAt, h.fileNames]
  simp only [hFiles]

theorem scanFrom_relisted (h : d.Relisted d') (depth : Nat) :
    d.scanFrom root depth place below = d'.scanFrom root depth place below := by
  induction depth generalizing place below with
  | zero => exact ingredientIn_relisted h
  | succ depth ih =>
    rw [scanFrom, scanFrom, ingredientIn_relisted h, entered_relisted h]
    simp only [ih]

/-- A pantry does not depend on how directories list their names. -/
theorem load_relisted (h : d.Relisted d') (name : String) (path : Path) :
    d.load name path = d'.load name path := by
  have hLength : d.tree.nodes.entries.length = d'.tree.nodes.entries.length :=
    h.tree.entries_perm.length_eq
  have hScan : ∀ place, d.scan (d'.cwd.absolute path) place =
      d'.scan (d'.cwd.absolute path) place := by
    intro place
    rw [scan, scan, hLength, scanFrom_relisted h]
  rw [load, load, Tree.arrive_relisted h.tree, h.cwd]
  simp only [hScan]

-- ---------------------------------------------------------------------------
-- The order of the scan
-- ---------------------------------------------------------------------------

/-- The ways to the ingredients in a directory and below it, in the order of the scan. -/
def waysFrom (d : Discovery) (root : Path) : Nat → Place → List Component → List (List Component)
  | 0, place, below => (d.ingredientIn root place below).map fun _ => []
  | depth + 1, place, below =>
    ((d.ingredientIn root place below).map fun _ => []) ++
      (d.entered root place below).flatMap fun c =>
        (d.waysFrom root depth (place ++ [c]) (below ++ [c])).map (c :: ·)

/-- The ways to the ingredients of the pantry in a directory, in the order of the scan. -/
def ways (d : Discovery) (root : Path) (place : Place) : List (List Component) :=
  d.waysFrom root d.tree.nodes.entries.length place []

theorem ingredientIn_eq_map (d : Discovery) (root : Path) (place : Place) (below : List Component) :
    d.ingredientIn root place below = ((d.ingredientIn root place below).map fun _ => []).map
      fun way => ingredientAt d.fileNames root (below ++ way)
        (d.filesIn root (place ++ way) (below ++ way)) := by
  rw [ingredientIn]
  split
  · simp
  · rfl

theorem scanFrom_eq_map (d : Discovery) (root : Path) (depth : Nat) (place : Place)
    (below : List Component) :
    d.scanFrom root depth place below = (d.waysFrom root depth place below).map fun way =>
      ingredientAt d.fileNames root (below ++ way)
        (d.filesIn root (place ++ way) (below ++ way)) := by
  induction depth generalizing place below with
  | zero => exact ingredientIn_eq_map d root place below
  | succ depth ih =>
    rw [scanFrom, waysFrom, List.map_append, List.map_flatMap, ← ingredientIn_eq_map]
    simp only [ih, List.map_map, Function.comp_def, List.append_assoc, List.singleton_append]

/-- The scan follows the ways. -/
theorem scan_eq_map (d : Discovery) (root : Path) (place : Place) :
    d.scan root place = (d.ways root place).map (d.ingredientOn root place) :=
  scanFrom_eq_map d root d.tree.nodes.entries.length place []

theorem mem_ways : way ∈ d.ways root place ↔ d.LeadsToIngredient root place way := by
  have hInj : ∀ {way way'}, d.ingredientOn root place way = d.ingredientOn root place way' →
      way = way' := fun hSame => nameBelow_inj.mp (Option.some.inj (congrArg Ingredient.name hSame))
  have hScan : way ∈ d.ways root place ↔ d.ingredientOn root place way ∈ d.scan root place := by
    rw [scan_eq_map, List.mem_map]
    constructor
    · exact fun hMem => ⟨way, hMem, rfl⟩
    · rintro ⟨way', hMem, hSame⟩
      exact hInj hSame ▸ hMem
  rw [hScan, mem_scan]
  constructor
  · rintro ⟨way', hLeads, hSame⟩
    exact hInj hSame ▸ hLeads
  · exact fun hLeads => ⟨way, hLeads, rfl⟩

/-- The order of ways: name by name, and what continues a way comes after it. -/
def Before (way way' : List Component) : Prop :=
  way.map Component.text < way'.map Component.text

theorem pairwise_entered (d : Discovery) (root : Path) (place : Place) (below : List Component) :
    (d.entered root place below).Pairwise fun c e => c.text < e.text :=
  pairwise_lt_sortNames ((d.tree.nodup_children place).filter _)

theorem pairwise_waysFrom (d : Discovery) (root : Path) (depth : Nat) (place : Place)
    (below : List Component) : (d.waysFrom root depth place below).Pairwise Before := by
  have hHere : ∀ place below,
      ((d.ingredientIn root place below).map fun _ => []).Pairwise Before := by
    intro place below
    rw [ingredientIn]
    split
    · exact List.pairwise_singleton _ _
    · exact List.Pairwise.nil
  induction depth generalizing place below with
  | zero => exact hHere place below
  | succ depth ih =>
    rw [waysFrom, List.pairwise_append, List.pairwise_flatMap]
    refine ⟨hHere place below, ⟨fun c _ => ?_, ?_⟩, fun way hNil way' hBelow => ?_⟩
    · -- below one name, the ways go on from there
      refine List.pairwise_map.mpr ((ih (place ++ [c]) (below ++ [c])).imp fun hBefore => ?_)
      exact List.cons_lt_cons_iff.mpr (.inr ⟨rfl, hBefore⟩)
    · refine (pairwise_entered d root place below).imp fun hNames way hWay way' hWay' => ?_
      obtain ⟨rest, -, rfl⟩ := List.mem_map.mp hWay
      obtain ⟨rest', -, rfl⟩ := List.mem_map.mp hWay'
      exact List.cons_lt_cons_iff.mpr (.inl hNames)
    · obtain ⟨c, -, hUnder⟩ := List.mem_flatMap.mp hBelow
      obtain ⟨rest, -, rfl⟩ := List.mem_map.mp hUnder
      obtain ⟨_, -, rfl⟩ := List.mem_map.mp hNil
      exact List.nil_lt_cons _ _

/-- The scan follows the order of the ways. -/
theorem pairwise_ways (d : Discovery) (root : Path) (place : Place) :
    (d.ways root place).Pairwise Before :=
  pairwise_waysFrom d root d.tree.nodes.entries.length place []

/-- The ingredients are registered in the order of the ways, each under the name of its way. -/
theorem entries_published (d : Discovery) (root : Path) (place : Place) :
    (d.published root place).entries =
      (d.ways root place).map fun way => (nameBelow way, d.ingredientOn root place way) := by
  have hNamed : ((d.scan root place).filterMap fun i => i.name.map fun n => (n, i)) =
      (d.ways root place).map fun way => (nameBelow way, d.ingredientOn root place way) := by
    rw [scan_eq_map, List.filterMap_map, ← List.filterMap_eq_map]
    rfl
  rw [published, hNamed, Registry.entries_ofList]
  rw [List.map_map]
  refine List.pairwise_map.mpr ((pairwise_ways d root place).imp fun hBefore hSame => ?_)
  rw [nameBelow_inj.mp hSame] at hBefore
  exact List.lt_irrefl _ hBefore

theorem keys_published (d : Discovery) (root : Path) (place : Place) :
    (d.published root place).keys = (d.ways root place).map nameBelow := by
  rw [Registry.keys, entries_published, List.map_map]
  rfl

-- ---------------------------------------------------------------------------
-- What is loaded
-- ---------------------------------------------------------------------------

/-- The entry points of an ingredient are the files of the table that stand beside the marker. -/
theorem get?_entryPoints_iff {kind file : String} :
    (d.ingredientOn root place way).entryPoints.get? kind = some file ↔
      d.fileNames.get? kind = some file ∧ d.HoldsFile root (place ++ way) way file := by
  rw [get?_entryPoints, Option.filter_eq_some_iff, List.contains_iff_mem, mem_filesIn]

/--
**What is loaded from a directory.** The pantry has the given name and the anchored path of the
directory. Its ingredients are registered under the names of the ways that lead to directories with
the marker, in the order of the ways, and no two ways have one name. The ingredient of a way goes by
the name of the way, its path is the path of the pantry joined to that name, and it has the entry
points whose files stand in its directory. All of this, the order included, stays the same when the
directories of the tree are listed in another order.
-/
theorem load_exact
    (hDirectory : d.tree.arrive d.cwd (d.cwd.absolute path) = .directory place) :
    ∃ (P : Pantry) (ways : List (List Component)),
      (d.load name path).result = .ok P ∧
      P.name = some name ∧ P.path = some (d.cwd.absolute path) ∧
      P.ingredients.keys = ways.map nameBelow ∧
      (∀ way, way ∈ ways ↔ d.LeadsToIngredient (d.cwd.absolute path) place way) ∧
      ways.Pairwise Before ∧
      (∀ way way', nameBelow way = nameBelow way' → way = way') ∧
      (∀ way ∈ ways, ∃ i, P.ingredients.get? (nameBelow way) = some i ∧
        i.name = some (nameBelow way) ∧
        i.path = (d.cwd.absolute path).join (Path.ofString (nameBelow way)) ∧
        ∀ kind file, i.entryPoints.get? kind = some file ↔ d.fileNames.get? kind = some file ∧
          d.HoldsFile (d.cwd.absolute path) (place ++ way) way file) ∧
      ∀ d', d.Relisted d' → d'.load name path = d.load name path := by
  refine ⟨_, d.ways (d.cwd.absolute path) place, load_of_directory hDirectory, rfl, rfl,
    keys_published d _ place, fun way => mem_ways, pairwise_ways d _ place,
    fun way way' => nameBelow_inj.mp, fun way hWay => ?_,
    fun d' hRelisted => (load_relisted hRelisted name path).symm⟩
  refine ⟨_, published_get? (mem_ways.mp hWay), rfl, ?_, fun kind file => get?_entryPoints_iff⟩
  rw [ofString_nameBelow, Path.join_of_relative rfl]
  rfl

/-- A tree with a pantry in it: three ingredients, and three directories that are none, for they are
hidden, a dependency folder and a link. -/
def stall : Discovery where
  tree := Tree.ofPaths []
    (["/p/b/ingredient.md", "/p/b/index.scss", "/p/b/c/ingredient.md", "/p/a/ingredient.md",
      "/p/.h/ingredient.md", "/p/node_modules/m/ingredient.md"].map Path.ofString)
    [(Path.ofString "/p/l", Path.ofString "a")]
  cwd := Path.ofString "/"
  fileNames := defaultFileNames

/-- The three are registered in their order, and stay so in any listing of the tree. -/
theorem load_stall :
    (∃ place, stall.tree.arrive stall.cwd (stall.cwd.absolute (Path.ofString "/p")) =
      .directory place) ∧
    ∃ P, (stall.load "p" (Path.ofString "/p")).result = .ok P ∧
      P.ingredients.keys = ["a", "b", "b/c"] ∧
      ∀ d', stall.Relisted d' → (d'.load "p" (Path.ofString "/p")).result = .ok P := by
  have hDirectory : stall.tree.arrive stall.cwd (stall.cwd.absolute (Path.ofString "/p")) =
      .directory (Path.ofString "p").parts := by decide +kernel
  have hKeys : (stall.load "p" (Path.ofString "/p")).result.toOption.map (·.ingredients.keys) =
      some ["a", "b", "b/c"] := by decide +kernel
  obtain ⟨P, _, hLoad, _, _, _, _, _, _, _, hRelisted⟩ :
      ∃ P _, (stall.load "p" (Path.ofString "/p")).result = .ok P ∧ _ := load_exact hDirectory
  rw [hLoad] at hKeys
  refine ⟨⟨_, hDirectory⟩, P, hLoad, Option.some.inj hKeys, fun d' h => ?_⟩
  rw [hRelisted d' h, hLoad]

open State in
theorem absolute_winding : roundTree.cwd.absolute (winding.join (Path.ofString "p")) =
    winding.join (Path.ofString "p") := by
  have hPath : Component.up ∉ (winding.join (Path.ofString "p")).parts :=
    Path.not_mem_up_join up_not_mem_winding (by decide +kernel)
  rw [Path.absolute_of_not_mem_up (by decide +kernel) hPath]
  exact Path.join_of_isAbsolute rfl

open State in
/-- The one directory there cannot be asked for. -/
theorem ways_winding : roundTree.ways (winding.join (Path.ofString "p")) [shop] = [] := by
  have hOnly : roundTree.tree.children [shop] = [stretched 49] := by decide +kernel
  refine List.eq_nil_iff_forall_not_mem.mpr fun way hWay => ?_
  obtain ⟨hBelow, hDescends, -⟩ := mem_ways.mp hWay
  obtain ⟨c, rest, rfl⟩ := List.exists_cons_of_ne_nil hBelow
  obtain ⟨hThere, -, hReadable⟩ := hDescends [] c rest rfl
  have hChild : c ∈ roundTree.tree.children [shop] := mem_children_iff.mpr ⟨_, hThere⟩
  rw [hOnly, List.mem_singleton] at hChild
  rw [hChild] at hReadable
  exact absurd (overlong_distant.symm.trans hReadable) (by decide)

open State in
/-- **A directory with the marker that is no ingredient.** The path leads to the directory of a
pantry. In it there is a directory, not hidden and not a dependency folder, that holds the marker.
But its path is longer than can be asked for, and the pantry is loaded without ingredients. -/
theorem passed_by_for_length :
    roundTree.tree.arrive roundTree.cwd
        (roundTree.cwd.absolute (winding.join (Path.ofString "p"))) = .directory [shop] ∧
      roundTree.tree.get? [shop] (stretched 49) = some .directory ∧
      isSkipped (stretched 49) = false ∧
      (∃ c : Component, c.text = marker ∧
        roundTree.tree.get? [shop, stretched 49] c = some .file) ∧
      ∃ P, (roundTree.load "p" (winding.join (Path.ofString "p"))).result = .ok P ∧
        P.ingredients.keys = [] := by
  have hDirectory : roundTree.tree.arrive roundTree.cwd
      (roundTree.cwd.absolute (winding.join (Path.ofString "p"))) = .directory [shop] := by
    rw [absolute_winding]
    exact winding_stops.1
  refine ⟨hDirectory, by decide +kernel, by decide +kernel,
    ⟨⟨"ingredient.md", by decide +kernel⟩, rfl, by decide +kernel⟩, _,
    load_of_directory hDirectory, ?_⟩
  rw [keys_published, absolute_winding, ways_winding, List.map_nil]

end Discovery

end Larder
