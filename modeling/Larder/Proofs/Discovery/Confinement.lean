import Larder.Proofs.Discovery.Search

/-!
# Larder — no way out of a pantry

What a pantry gives lies in its directory. Three things together see to that. The scan goes down
only, through names that directories list, and no directory lists its own parent; a conventional
file counts only if a directory lists it, whatever the table of file names says; and the directory
of the pantry is anchored and normalised before anything is joined to it. So the path of an entry
point is the directory of the pantry with names below it, none of them `..`.

On the other side, the name of a pantry that is cited consists of one or two names that are not
`..` either. So the directory of the pantry is the search path with these names below it, however
the search path is spelled.

## Results

* `absolute_pathBelow`: names below a path stay below it when the path is anchored.
* `proper_ofPaths`: in a tree that is built from paths no directory lists its parent.
* `entryPoint_below`: an entry point lies strictly below the directory of its pantry.
* `pieces_pantryName`, `candidate_pantryName`: what is looked for on behalf of a citation.
-/

namespace Larder

namespace Path

/-- Whether a path leads strictly below a root, by names alone. -/
def StrictlyBelow (root path : Path) : Prop :=
  ∃ way, way ≠ [] ∧ Component.up ∉ way ∧ path = Discovery.pathBelow root way

end Path

/-- Whether no directory of a tree lists its own parent. -/
def Tree.Proper (t : Tree) : Prop := ∀ place, t.get? place Component.up = none

-- ---------------------------------------------------------------------------
-- Names below a path
-- ---------------------------------------------------------------------------

namespace Discovery

variable {cwd p : Path} {way : List Component}

theorem foldl_push_of_not_mem_up {absolute : Bool} (h : Component.up ∉ way)
    (stack : List Component) : way.foldl (Path.push absolute) stack = way.reverse ++ stack := by
  induction way generalizing stack with
  | nil => rfl
  | cons c rest ih =>
    rw [List.mem_cons, not_or] at h
    obtain ⟨hHead, hRest⟩ := h
    have hPush : Path.push absolute stack c = c :: stack := if_neg (Ne.symm hHead)
    rw [List.foldl_cons, hPush, ih hRest, List.reverse_cons, List.append_assoc]
    rfl

theorem normalize_pathBelow (h : Component.up ∉ way) :
    (pathBelow p way).normalize = pathBelow p.normalize way := by
  have hParts : ((p.parts ++ way).foldl (Path.push p.isAbsolute) []).reverse =
      p.normalize.parts ++ way := by
    rw [List.foldl_append, foldl_push_of_not_mem_up h, List.reverse_append, List.reverse_reverse]
    rfl
  exact congrArg (Path.mk p.root) hParts

theorem join_pathBelow (cwd p : Path) (way : List Component) :
    cwd.join (pathBelow p way) = pathBelow (cwd.join p) way := by
  by_cases hAbsolute : p.isAbsolute = true
  · have hBelow : (pathBelow p way).isAbsolute = true := hAbsolute
    rw [Path.join_of_isAbsolute hAbsolute, Path.join_of_isAbsolute hBelow]
  · have hRelative : p.root = .relative := by simpa [Path.isAbsolute] using hAbsolute
    have hBelow : (pathBelow p way).root = .relative := hRelative
    rw [Path.join_of_relative hRelative, Path.join_of_relative hBelow]
    simp only [pathBelow, List.append_assoc]

/-- Names below a path stay below it when the path is anchored. -/
theorem absolute_pathBelow (h : Component.up ∉ way) :
    cwd.absolute (pathBelow p way) = pathBelow (cwd.absolute p) way := by
  rw [Path.absolute, join_pathBelow, normalize_pathBelow h]
  rfl

end Discovery

/-- What lies strictly below an anchored path is its own normal form. -/
theorem Path.StrictlyBelow.normalize {cwd p path : Path}
    (h : (cwd.absolute p).StrictlyBelow path) : path.normalize = path := by
  obtain ⟨way, _, hUp, rfl⟩ := h
  rw [Discovery.normalize_pathBelow hUp, Path.normalize_absolute]

-- ---------------------------------------------------------------------------
-- Proper trees
-- ---------------------------------------------------------------------------

namespace Tree

variable {t t' : Tree} {place place' : Place} {c : Component}

theorem Proper.enter (h : t.Proper) (hName : c ≠ Component.up) (place : Place) (node : Node) :
    (t.enter place c node).Proper := by
  intro other
  unfold Tree.enter
  split
  · exact h other
  · have hKey : (other, Component.up) ≠ (place, c) := fun hEq => hName (Prod.mk.inj hEq).2.symm
    exact (Registry.get?_insert_of_ne _ _ hKey).trans (h other)

theorem Proper.reach (h : t.Proper) {way : List Component}
    (hReach : t.reach place way = some (t', place')) : t'.Proper := by
  induction way generalizing t place with
  | nil =>
    obtain ⟨rfl, _⟩ := Prod.mk.inj (Option.some.inj hReach)
    exact h
  | cons c rest ih =>
    unfold Tree.reach at hReach
    split at hReach
    · exact ih h hReach
    · rename_i hName
      split at hReach
      · exact ih (h.enter hName place .directory) hReach
      · exact ih h hReach
      · exact absurd hReach (by simp)
      · split at hReach
        · exact ih h hReach
        · exact absurd hReach (by simp)

theorem Proper.enterAt (h : t.Proper) (node : Node) (p : Path) : (t.enterAt node p).Proper := by
  unfold Tree.enterAt
  split
  · rename_i t' place _ hReach
    split
    · exact h.reach hReach
    · rename_i hName
      exact (h.reach hReach).enter hName place node
  · exact h

theorem Proper.foldl {α : Type} (h : t.Proper) {step : Tree → α → Tree}
    (hStep : ∀ t a, Tree.Proper t → (step t a).Proper) (entries : List α) :
    (entries.foldl step t).Proper := by
  induction entries generalizing t with
  | nil => exact h
  | cons a rest ih => exact ih (hStep t a h)

/-- In a tree that is built from paths no directory lists its parent. -/
theorem proper_ofPaths (directories files : List Path) (links : List (Path × Path)) :
    (ofPaths directories files links).Proper := by
  have hEmpty : empty.Proper := fun place => rfl
  have hDirectories := hEmpty.foldl (fun _ p ht => Proper.enterAt ht .directory p) directories
  have hFiles := hDirectories.foldl (fun _ p ht => Proper.enterAt ht .file p) files
  exact hFiles.foldl (fun _ l ht => Proper.enterAt ht (.link l.2) l.1) links

end Tree

-- ---------------------------------------------------------------------------
-- Entry points
-- ---------------------------------------------------------------------------

namespace Discovery

variable {d : Discovery} {name kind : String} {path root : Path} {place : Place}
  {below way : List Component} {P : Pantry}

theorem load_eq_ok (h : (d.load name path).result = .ok P) :
    ∃ place, P = ⟨some name, some (d.cwd.absolute path),
      d.published (d.cwd.absolute path) place⟩ := by
  unfold load at h
  simp only at h
  split at h
  · rename_i place _
    exact ⟨place, (Except.ok.inj h).symm⟩
  · exact absurd h (by simp)
  · exact absurd h (by simp)

/-- The pantry that a search comes to is loaded from one of the search paths. -/
theorem discoverIn_eq_ok {all searchPaths : List Path}
    (h : (d.discoverIn name all searchPaths).result = .ok P) :
    ∃ searchPath ∈ searchPaths, (d.load name (candidate name searchPath)).result = .ok P := by
  induction searchPaths with
  | nil => exact absurd h (by simp [discoverIn])
  | cons searchPath rest ih =>
    unfold discoverIn at h
    simp only at h
    split at h
    · exact absurd h (by simp)
    · exact ⟨searchPath, List.mem_cons_self, h⟩
    · obtain ⟨other, hMem, hLoad⟩ := ih h
      exact ⟨other, List.mem_cons_of_mem _ hMem, hLoad⟩

/-- The scan never goes up. -/
theorem up_not_mem_of_descends (hProper : d.tree.Proper) (h : d.Descends root place below way) :
    Component.up ∉ way := by
  intro hMem
  obtain ⟨before, after, hWay⟩ := List.append_of_mem hMem
  have hListed := (h before Component.up after hWay).directory
  rw [hProper] at hListed
  exact absurd hListed (by simp)

/-- What counts as a file is a name, and not the one of the parent. -/
theorem exists_component (hProper : d.tree.Proper) {file : String}
    (h : file ∈ d.filesIn root place below) : ∃ c, Component.text c = file ∧ c ≠ Component.up := by
  obtain ⟨c, hText, hNode⟩ := mem_filesIn.mp h
  refine ⟨c, hText, ?_⟩
  rintro rfl
  rw [hProper] at hNode
  rcases hNode with hNode | ⟨_, hNode, _⟩ <;> exact absurd hNode (by simp)

theorem ofString_text (c : Component) : Path.ofString c.text = ⟨.relative, [c]⟩ :=
  ofString_nameBelow [c]

/-- **An entry point lies strictly below the directory of its pantry**, whatever the ingredient is
called and whatever the table of file names says. -/
theorem entryPoint_below (hCwd : d.cwd.isAbsolute = true) (hProper : d.tree.Proper)
    (hLoad : (d.load name path).result = .ok P) {registered ingredient : String} {cwd q : Path}
    (hEntry : (P.named registered).entryPointFor cwd ingredient kind = .ok q) :
    (P.named registered).path = some (d.cwd.absolute path) ∧
      (d.cwd.absolute path).StrictlyBelow q := by
  obtain ⟨place, rfl⟩ := load_eq_ok hLoad
  obtain ⟨found, file, hFound, hFile, rfl⟩ := Pantry.entryPointFor_eq_ok_iff.mp hEntry
  rw [Pantry.ingredients_named] at hFound
  refine ⟨Pantry.path_named _ _, ?_⟩
  obtain ⟨way, hLeads, rfl, _⟩ := exists_way_of_published hFound
  rw [get?_entryPoints, Option.filter_eq_some_iff, List.contains_iff_mem] at hFile
  obtain ⟨c, rfl, hUp⟩ := exists_component hProper hFile.2
  have hStraight : Component.up ∉ way ++ [c] := by
    rw [List.mem_append, not_or]
    exact ⟨up_not_mem_of_descends hProper hLeads.descends,
      fun hMem => hUp (List.mem_singleton.mp hMem).symm⟩
  have hJoin : (d.ingredientOn (d.cwd.absolute path) place way).path.join
      (Path.ofString c.text) = pathBelow (d.cwd.absolute path) (way ++ [c]) := by
    rw [ofString_text, Path.join_of_relative rfl]
    exact congrArg (Path.mk _) (List.append_assoc _ _ _)
  -- the directory of the pantry is anchored, so joining it to a working directory does nothing
  have hAnchored : (cwd.join (d.cwd.absolute path)).normalize = d.cwd.absolute path := by
    rw [Path.join_of_isAbsolute (Path.isAbsolute_absolute hCwd path), Path.normalize_absolute]
  refine ⟨way ++ [c], by simp, hStraight, ?_⟩
  rw [hJoin, absolute_pathBelow hStraight]
  exact congrArg (pathBelow · _) hAnchored

end Discovery

-- ---------------------------------------------------------------------------
-- What is looked for
-- ---------------------------------------------------------------------------

namespace Citation

/-- The pieces between the slashes of a pantry's name are the names on its way. -/
theorem pieces_pantryName (r : Citation) :
    Text.splitOn '/' r.pantryName.toList = r.pantryWay.map fun c => c.text.toList := by
  have hSome : r.pantryWay ≠ [] := by
    unfold pantryWay
    split <;> simp
  rw [← r.nameBelow_pantryWay, Discovery.toList_nameBelow, Path.splitOn_spellParts hSome]

/-- There are one or two, and none of them is empty, `.` or `..`. -/
theorem pieces_proper (r : Citation) :
    let pieces := Text.splitOn '/' r.pantryName.toList
    (pieces.length = 1 ∨ pieces.length = 2) ∧
      ∀ piece ∈ pieces, piece ≠ [] ∧ piece ≠ ['.'] ∧ piece ≠ ['.', '.'] := by
  intro pieces
  have hPieces : pieces = r.pantryWay.map fun c => c.text.toList := r.pieces_pantryName
  rw [hPieces]
  refine ⟨?_, ?_⟩
  · rw [List.length_map]
    unfold pantryWay
    split
    · exact Or.inl rfl
    · exact Or.inr rfl
  · intro piece hPiece
    obtain ⟨c, hMem, rfl⟩ := List.mem_map.mp hPiece
    refine ⟨c.text_toList_ne_nil, fun hDot => c.valid.2.1 ?_, fun hUp => ?_⟩
    · exact String.toList_inj.mp hDot
    · have hText : c.text = Component.up.text := String.toList_inj.mp hUp
      have hSame : c = Component.up := by
        obtain ⟨text, _⟩ := c
        obtain rfl : text = ".." := hText
        rfl
      exact r.up_not_mem_pantryWay (hSame ▸ hMem)

/-- A cited pantry is looked for below a search path under one or two names. -/
theorem candidate_pantryName (r : Citation) (searchPath : Path) :
    Discovery.candidate r.pantryName searchPath = Discovery.pathBelow searchPath r.pantryWay := by
  have hRelative : (Path.ofString r.pantryName).root = .relative := by rw [ofString_pantryName]
  rw [Discovery.candidate_eq_join hRelative, ofString_pantryName, Path.join_of_relative rfl]
  rfl

end Citation

end Larder
