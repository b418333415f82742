import Larder.Emission
import Larder.Proofs.Path.Normal
import Larder.Specifier

/-!
# Larder — lexical reasoning on written paths

What a relative specifier leads to is worked out on paths, which have no empty names and no `.`.
Here the same is said of the texts themselves: a text is cut at its slashes, and its pieces are met
one after another by a stack of names. An empty piece and `.` are skipped, `..` takes the last name
away if there is one, and anything else is put there as it stands, whatever characters it is made
of.

A text that does not start at a root keeps those `..` that have no name before them. This is all
that sets it apart, so every text has a normal form: its slashes, and the names that are left. It is
how the normalised path is written.

So a specifier is walked from the directory of its document, and that directory is all that it needs
to know of the document. The path that it leads to is normal: it is the form in which a compilation
takes note of it.

## Results

* `toString_normalize`: a normalised path is written as the normal form of its text.
* `normal_normal`: a normal form is its own normal form.
* `names_normalize`: a path from a root is normalised by walking its text.
* `names_absolute`: so is a text that is anchored at the working directory.
* `classify_eq_relative_iff`: which specifiers are relative, and where they lead to.
* `relative_walks`: what a relative specifier leads to, in terms of texts alone.
-/

namespace Larder

-- ---------------------------------------------------------------------------
-- Walking a text
-- ---------------------------------------------------------------------------

namespace Lexical

/-- What a piece of a text between two slashes does to the names before it. -/
def step (names : List (List Char)) (piece : List Char) : List (List Char) :=
  if piece = [] ∨ piece = ['.'] then names
  else if piece = ['.', '.'] then names.dropLast
  else names ++ [piece]

/-- The names that a text leads to, starting from some names. -/
def walk (names : List (List Char)) (text : List Char) : List (List Char) :=
  (Text.splitOn '/' text).foldl step names

/-- What a piece of a text does to the names before it, whether or not the text starts at a root.
Where it does not, a `..` stays if there is no name before it that it could take away. -/
def meet (rooted : Bool) (names : List (List Char)) (piece : List Char) : List (List Char) :=
  if piece = [] ∨ piece = ['.'] then names
  else if piece ≠ ['.', '.'] ∨ (rooted = false ∧ names = []) ∨ names.getLast? = some ['.', '.'] then
    names ++ [piece]
  else names.dropLast

/-- The normal form of a text: one slash, or exactly two, if it starts with slashes, and the names
that are left. If that is nothing at all, the normal form is `.`. -/
def normal (text : String) : String :=
  let names := (Text.splitOn '/' text.toList).foldl (meet (Path.isRooted text.toList)) []
  let spelled := (Path.Root.ofChars text.toList).toChars ++ Text.joinWith '/' names
  if spelled = [] then "." else String.ofList spelled

/-- No `..` comes up on the way from a root. -/
theorem up_not_mem_step {names : List (List Char)} (h : ['.', '.'] ∉ names) (piece : List Char) :
    ['.', '.'] ∉ step names piece := by
  unfold step
  split
  · exact h
  · split
    · exact fun hMem => h (List.dropLast_subset _ hMem)
    · rename_i hUp
      exact fun hMem => (List.mem_append.mp hMem).elim h fun hLast =>
        hUp (List.mem_singleton.mp hLast).symm

/-- On the way from a root every `..` takes a name away. -/
theorem meet_of_not_mem {names : List (List Char)} (h : ['.', '.'] ∉ names) (piece : List Char) :
    meet true names piece = step names piece := by
  have hLast : names.getLast? ≠ some ['.', '.'] := fun hEq => h (List.mem_of_getLast? hEq)
  unfold meet step
  by_cases hUp : piece = ['.', '.'] <;> simp [hUp, hLast]

theorem foldl_meet {names : List (List Char)} (h : ['.', '.'] ∉ names) (pieces : List (List Char)) :
    pieces.foldl (meet true) names = pieces.foldl step names := by
  induction pieces generalizing names with
  | nil => rfl
  | cons piece rest ih =>
    rw [List.foldl_cons, List.foldl_cons, meet_of_not_mem h, ih (up_not_mem_step h piece)]

end Lexical

namespace Component

/-- The characters of a component. -/
def chars (c : Component) : List Char := c.text.toList

theorem chars_inj {c d : Component} : c.chars = d.chars ↔ c = d := by
  cases c
  cases d
  simp [chars, String.toList_inj]

theorem chars_eq_up_iff {c : Component} : c.chars = ['.', '.'] ↔ c = up :=
  chars_inj (d := up)

/-- A component is not skipped. -/
theorem chars_kept (c : Component) : ¬ (c.chars = [] ∨ c.chars = ['.']) := by
  rintro (hEmpty | hDot)
  · exact c.text_toList_ne_nil hEmpty
  · exact c.valid.2.1 (String.toList_inj.mp hDot)

/-- A piece between two slashes is a component, unless it is empty or `.`. -/
theorem ofChars?_piece {piece : List Char} (h : '/' ∉ piece) :
    ((piece = [] ∨ piece = ['.']) ∧ ofChars? piece = none) ∨
    (¬ (piece = [] ∨ piece = ['.']) ∧ ∃ c, ofChars? piece = some c ∧ c.chars = piece) := by
  have hEmpty : String.ofList piece = "" ↔ piece = [] := by
    rw [← String.toList_inj, String.toList_ofList]
    rfl
  have hDot : String.ofList piece = "." ↔ piece = ['.'] := by
    rw [← String.toList_inj, String.toList_ofList]
    rfl
  unfold ofChars?
  simp only [ne_eq, hEmpty, hDot, String.toList_ofList, h, not_false_eq_true, and_true]
  by_cases hSkipped : piece = [] ∨ piece = ['.']
  · rw [dif_neg fun hKept => hSkipped.elim hKept.1 hKept.2]
    exact .inl ⟨hSkipped, rfl⟩
  · rw [dif_pos (not_or.mp hSkipped)]
    exact .inr ⟨hSkipped, _, rfl, String.toList_ofList⟩

end Component

namespace Path

variable {cwd p q : Path}

/-- The names of a path, as characters. -/
def names (p : Path) : List (List Char) := p.parts.map Component.chars

/-- A path is its root and its names. -/
theorem eq_iff_names : p = q ↔ p.root = q.root ∧ p.names = q.names := by
  obtain ⟨root, parts⟩ := p
  obtain ⟨root', parts'⟩ := q
  simp [names, List.map_inj_right fun _ _ => Component.chars_inj.mp]

theorem names_parent (p : Path) : p.parent.names = p.names.dropLast := List.map_dropLast

/-- An absolute path is written as its slashes and its names. -/
theorem toChars_of_isAbsolute (h : p.isAbsolute = true) :
    p.toChars = p.root.toChars ++ Text.joinWith '/' p.names := by
  have hRoot : p.root ≠ .relative := by simpa [isAbsolute] using h
  rw [toChars, if_neg fun hBoth => hRoot hBoth.1]
  rfl

/-- The names of a written path are its pieces. -/
theorem names_ofChars (text : List Char) : (ofChars text).names = pieces text := by
  have hPieces : ∀ piece ∈ Text.splitOn '/' text, '/' ∉ piece :=
    fun _ => Text.not_mem_of_mem_splitOn
  show ((Text.splitOn '/' text).filterMap Component.ofChars?).map Component.chars = pieces text
  rw [pieces]
  generalize Text.splitOn '/' text = all at hPieces
  induction all with
  | nil => rfl
  | cons piece rest ih =>
    rw [List.forall_mem_cons] at hPieces
    rcases Component.ofChars?_piece hPieces.1 with ⟨hSkipped, hNone⟩ | ⟨hKept, c, hRead, rfl⟩
    · rw [List.filterMap_cons_none hNone,
        List.filter_cons_of_neg (by simpa [Decidable.or_iff_not_imp_left] using hSkipped)]
      exact ih hPieces.2
    · rw [List.filterMap_cons_some hRead, List.map_cons,
        List.filter_cons_of_pos (by simpa using not_or.mp hKept), ih hPieces.2]

theorem pieces_toChars (p : Path) : pieces p.toChars = p.names := by
  rw [← names_ofChars, ofChars_toChars]

-- ---------------------------------------------------------------------------
-- Pushing is meeting pieces
-- ---------------------------------------------------------------------------

/-- What is pushed on a stack is put after the names on it, and `..` takes the last name away. -/
theorem names_push (rooted : Bool) (stack : List Component) (c : Component) :
    (push rooted stack c).reverse.map Component.chars =
      Lexical.meet rooted (stack.reverse.map Component.chars) c.chars := by
  unfold push Lexical.meet
  rw [if_neg c.chars_kept]
  by_cases hUp : c = Component.up
  · rw [if_pos hUp]
    cases stack with
    | nil => cases rooted <;> simp [hUp, Component.chars_eq_up_iff]
    | cons top rest => by_cases hTop : top = Component.up <;>
        simp [hUp, hTop, Component.chars_eq_up_iff]
  · rw [if_neg hUp, if_pos (.inl (mt Component.chars_eq_up_iff.mp hUp)), List.reverse_cons,
      List.map_append]
    rfl

/-- Pushing the components of a text is meeting its pieces. -/
theorem names_foldl_push (rooted : Bool) {pieces : List (List Char)}
    (hPieces : ∀ piece ∈ pieces, '/' ∉ piece) (stack : List Component) :
    ((pieces.filterMap Component.ofChars?).foldl (push rooted) stack).reverse.map Component.chars =
      pieces.foldl (Lexical.meet rooted) (stack.reverse.map Component.chars) := by
  induction pieces generalizing stack with
  | nil => rfl
  | cons piece rest ih =>
    rw [List.forall_mem_cons] at hPieces
    rw [List.foldl_cons]
    rcases Component.ofChars?_piece hPieces.1 with ⟨hSkipped, hNone⟩ | ⟨_, c, hRead, rfl⟩
    · rw [List.filterMap_cons_none hNone, Lexical.meet, if_pos hSkipped]
      exact ih hPieces.2 stack
    · rw [List.filterMap_cons_some hRead, List.foldl_cons, ← names_push]
      exact ih hPieces.2 _

-- ---------------------------------------------------------------------------
-- Normal forms of texts
-- ---------------------------------------------------------------------------

/-- A text that starts with a slash is an absolute path, and any other one is relative. -/
theorem isAbsolute_ofChars (text : List Char) : (ofChars text).isAbsolute = isRooted text := by
  cases text with
  | nil => rfl
  | cons c rest =>
    by_cases hSlash : c = '/'
    · subst hSlash
      show decide (Root.ofChars ('/' :: rest) ≠ .relative) = true
      unfold Root.ofChars
      split <;> simp_all
    · show decide (Root.ofChars (c :: rest) ≠ .relative) = decide (some c = some '/')
      unfold Root.ofChars
      split <;> simp_all

/-- What a path is written as, but for the `.` of the working directory. -/
theorem toChars_eq (p : Path) :
    p.toChars = if p.root.toChars ++ Text.joinWith '/' p.names = [] then ['.']
      else p.root.toChars ++ Text.joinWith '/' p.names := by
  have hNothing : p.root.toChars ++ Text.joinWith '/' p.names = [] ↔
      p.root = .relative ∧ p.parts = [] := by
    have hRoot : p.root.toChars = [] ↔ p.root = .relative := by cases p.root <;> simp [Root.toChars]
    rw [List.append_eq_nil_iff, hRoot]
    refine and_congr_right fun _ => ⟨fun hEmpty => ?_, fun hEmpty => ?_⟩
    · refine Decidable.not_not.mp fun hParts => ?_
      obtain ⟨c, rest, hSpelled, _⟩ := spellParts_head hParts
      exact List.cons_ne_nil _ _ (hSpelled.symm.trans hEmpty)
    · rw [names, hEmpty]
      rfl
  rw [toChars]
  simp only [hNothing]
  rfl

/-- **A normalised path is written as the normal form of its text.** -/
theorem toString_normalize (text : String) :
    (ofString text).normalize.toString = Lexical.normal text := by
  have hPieces : ∀ piece ∈ Text.splitOn '/' text.toList, '/' ∉ piece :=
    fun _ => Text.not_mem_of_mem_splitOn
  have hNames : (ofString text).normalize.names =
      (Text.splitOn '/' text.toList).foldl (Lexical.meet (isRooted text.toList)) [] := by
    rw [← isAbsolute_ofChars]
    exact names_foldl_push _ hPieces []
  have hRoot : (ofString text).normalize.root = Root.ofChars text.toList := rfl
  rw [toString, toChars_eq, hRoot, hNames, Lexical.normal]
  split <;> rfl

/-- A normal form is its own normal form. -/
theorem normal_normal (text : String) :
    Lexical.normal (Lexical.normal text) = Lexical.normal text := by
  rw [← toString_normalize text, ← toString_normalize, ofString_toString, normalize_normalize]

-- ---------------------------------------------------------------------------
-- Normalising is walking
-- ---------------------------------------------------------------------------

/-- No `..` lies on the stack of a path from a root. -/
theorem up_not_mem_of_settled {stack : List Component} (h : Settled true stack) :
    ['.', '.'] ∉ stack.reverse.map Component.chars := by
  intro hMem
  obtain ⟨c, hMem, hChars⟩ := List.mem_map.mp hMem
  rw [Component.chars_eq_up_iff.mp hChars, List.mem_reverse] at hMem
  exact h.2 rfl hMem

/-- Below a path from a root, the components of a text are normalised by walking the text. -/
theorem names_normalize_append (hRoot : p.isAbsolute = true) (text : List Char) :
    (Path.mk p.root (p.parts ++ (ofChars text).parts)).normalize.names =
      Lexical.walk p.normalize.names text := by
  have hSame : (Path.mk p.root (p.parts ++ (ofChars text).parts)).isAbsolute = true := hRoot
  have hPieces : ∀ piece ∈ Text.splitOn '/' text, '/' ∉ piece :=
    fun _ => Text.not_mem_of_mem_splitOn
  have hSettled : Settled true (p.parts.foldl (push true) []) := settled_foldl _ (settled_nil _)
  have hWalk := names_foldl_push true hPieces (p.parts.foldl (push true) [])
  rw [Lexical.foldl_meet (up_not_mem_of_settled hSettled)] at hWalk
  rw [names, normalize, names, normalize, hSame, hRoot, List.foldl_append, Lexical.walk, ← hWalk]
  rfl

/-- No `..` is left in a path from a root. -/
theorem up_not_mem_normalize (h : p.isAbsolute = true) : Component.up ∉ p.normalize.parts := by
  have hSettled : Settled p.isAbsolute (p.parts.foldl (push p.isAbsolute) []) :=
    settled_foldl _ (settled_nil _)
  exact fun hMem => hSettled.2 h (List.mem_reverse.mp hMem)

/-- A path from a root is normalised by walking its text. -/
theorem names_normalize (h : p.isAbsolute = true) :
    p.normalize.names = Lexical.walk [] p.toChars := by
  have hEmpty : (Path.mk p.root []).normalize.names = [] := rfl
  have hAll := names_normalize_append (p := ⟨p.root, []⟩) h p.toChars
  rwa [ofChars_toChars, List.nil_append, hEmpty] at hAll

/-- A text that is anchored is walked from the working directory, or from the root that it starts
with. -/
theorem names_absolute (hCwd : cwd.isAbsolute = true) (text : String) :
    (cwd.absolute (ofString text)).names =
      Lexical.walk (if (ofString text).isAbsolute then [] else Lexical.walk [] cwd.toChars)
        text.toList := by
  split
  · rename_i hAbsolute
    have hEmpty : (Path.mk (ofString text).root []).normalize.names = [] := rfl
    have hAll := names_normalize_append (p := ⟨(ofString text).root, []⟩) hAbsolute text.toList
    rw [List.nil_append, hEmpty] at hAll
    rw [absolute, join_of_isAbsolute hAbsolute]
    exact hAll
  · rename_i hRelative
    rw [absolute, join_of_relative (by simpa [isAbsolute] using hRelative), ← names_normalize hCwd]
    exact names_normalize_append hCwd text.toList

end Path

-- ---------------------------------------------------------------------------
-- Relative specifiers
-- ---------------------------------------------------------------------------

theorem documentName?_eq_some_iff {file : Value} {name : String} :
    documentName? file = some name ↔ file = .str name ∧ name ≠ "" := by
  cases file with
  | str written =>
    rw [documentName?, Value.str.injEq]
    split
    · rename_i hEmpty
      subst hEmpty
      exact ⟨nofun, fun h => absurd h.1.symm h.2⟩
    · rename_i hText
      rw [Option.some.injEq]
      exact ⟨fun h => ⟨h, h ▸ hText⟩, And.left⟩
  | _ => exact ⟨nofun, nofun⟩

theorem head?_of_startsRelative {cs : List Char} (h : startsRelative cs = true) :
    cs.head? = some '.' := by
  unfold startsRelative at h
  split at h
  · rfl
  · rfl
  · cases h

/-- A specifier is relative if it starts with one or two dots and a slash, or is these dots, and
stands in a document with a name. It leads to a path seen from the directory of the document. -/
theorem classify_eq_relative_iff {cwd path : Path} {specifier file : Value} :
    classify cwd specifier file = .relative path ↔
      ∃ text name, specifier = .str text ∧ startsRelative text.toList = true ∧
        file = .str name ∧ name ≠ "" ∧
        path = cwd.resolveFrom (Path.ofString name) (Path.ofString text) := by
  constructor
  · intro h
    unfold classify at h
    split at h
    · rename_i text
      split at h
      · cases h
      · unfold classifyText at h
        simp only at h
        split at h
        · cases h
        · split at h
          · rename_i hStart
            split at h
            · rename_i name hName
              obtain ⟨hFile, hText⟩ := documentName?_eq_some_iff.mp hName
              exact ⟨text, name, rfl, hStart, hFile, hText, (Reference.relative.inj h).symm⟩
            · cases h
          · split at h <;> cases h
    · cases h
  · rintro ⟨text, name, rfl, hStart, rfl, hName, rfl⟩
    have hHead := head?_of_startsRelative hStart
    have hText : text ≠ "" := by
      rintro rfl
      cases hHead
    have hSlash : ¬ text.toList.head? = some '/' := by
      rw [hHead]
      decide
    simp only [classify, classifyText, if_neg hText, if_neg hSlash, hStart, if_true,
      documentName?_eq_some_iff.mpr ⟨rfl, hName⟩]

theorem root_of_startsRelative {text : String} (h : startsRelative text.toList = true) :
    (Path.ofString text).root = .relative := by
  have hHead := head?_of_startsRelative h
  show Path.Root.ofChars text.toList = .relative
  cases hText : text.toList with
  | nil => rfl
  | cons c rest =>
    rw [hText] at hHead
    obtain rfl : c = '.' := Option.some.inj hHead
    simp [Path.Root.ofChars]

/-- The names that a relative specifier leads to are walked from those of the directory of its
document. -/
theorem names_resolveFrom {cwd : Path} (hCwd : cwd.isAbsolute = true) {text : String}
    (hStart : startsRelative text.toList = true) (file : Path) :
    (cwd.resolveFrom file (Path.ofString text)).names =
      Lexical.walk (cwd.absolute file).parent.names text.toList := by
  have hFile : (cwd.join file).isAbsolute = true := Path.isAbsolute_join hCwd
  -- the directory is normal, as it lies above a normal path
  have hNormal : (cwd.absolute file).parent.normalize = (cwd.absolute file).parent :=
    Path.normalize_of_not_mem_up fun hMem =>
      Path.up_not_mem_normalize hFile (List.dropLast_subset _ hMem)
  rw [Path.resolveFrom, Path.join_of_relative (root_of_startsRelative hStart)]
  have hWalk := Path.names_normalize_append (p := (cwd.absolute file).parent) hFile text.toList
  rwa [hNormal] at hWalk

theorem root_resolveFrom {cwd : Path} {text : String}
    (hStart : startsRelative text.toList = true) (file : Path) :
    (cwd.resolveFrom file (Path.ofString text)).root = (cwd.absolute file).parent.root := by
  rw [Path.resolveFrom, Path.join_of_relative (root_of_startsRelative hStart)]
  rfl

/-- A path that is recorded is known in all its spellings, and nothing else is new. -/
theorem Emission.contains_record {e : Emission} {p q : Path} :
    (e.record p).1.contains q = true ↔ q.normalize = p.normalize ∨ e.contains q = true := by
  simp only [contains, List.contains_iff_mem, mem_record]

/--
**What a relative specifier leads to** is found by walking its text from the directory of its
document. The names that come out stand below the slashes of that directory, one or two. The path is
absolute and normal, and its text is. It is the same for all documents in that directory. And of two
relative imports one makes the other known to a compilation exactly if the same names come out below
the same slashes.
-/
theorem relative_walks {cwd : Path} (hCwd : cwd.isAbsolute = true) {text name : String}
    {path : Path} (h : classify cwd (.str text) (.str name) = .relative path) :
    let document := cwd.absolute (Path.ofString name)
    let folder := document.parent
    let names := Lexical.walk folder.names text.toList
    -- the document, as it is walked
    (document.names = Lexical.walk
        (if (Path.ofString name).isAbsolute then [] else Lexical.walk [] cwd.toChars) name.toList ∧
      folder.names = document.names.dropLast ∧
      folder.root =
        if (Path.ofString name).isAbsolute then (Path.ofString name).root else cwd.root) ∧
    -- the path
    (path.isAbsolute = true ∧ path.root = folder.root ∧ path.names = names ∧
      path.toString = String.ofList (folder.root.toChars ++ Text.joinWith '/' names) ∧
      (folder.root.toChars = ['/'] ∨ folder.root.toChars = ['/', '/'])) ∧
    (path.normalize = path ∧ (Path.ofString path.toString).normalize.toString = path.toString) ∧
    -- other documents
    (∀ cwd' name', name' ≠ "" → (cwd'.absolute (Path.ofString name')).parent = folder →
      classify cwd' (.str text) (.str name') = .relative path) ∧
    ∀ cwd' text' name' path', cwd'.isAbsolute = true →
      classify cwd' (.str text') (.str name') = .relative path' →
      let folder' := (cwd'.absolute (Path.ofString name')).parent
      ∀ e : Emission, (e.record path).1.contains path' = true ↔
        folder'.root = folder.root ∧ Lexical.walk folder'.names text'.toList = names ∨
          e.contains path' = true := by
  intro document folder names
  -- what is said of this import holds of any other one
  have hAny : ∀ cwd' text' name' path', cwd'.isAbsolute = true →
      classify cwd' (.str text') (.str name') = .relative path' →
      let folder' := (cwd'.absolute (Path.ofString name')).parent
      path'.root = folder'.root ∧ path'.names = Lexical.walk folder'.names text'.toList ∧
        path'.normalize = path' := by
    intro cwd' text' name' path' hCwd' hOther
    obtain ⟨_, _, hText, hStart, hName, _, rfl⟩ := classify_eq_relative_iff.mp hOther
    cases hText
    cases hName
    exact ⟨root_resolveFrom hStart _, names_resolveFrom hCwd' hStart _,
      Path.normalize_resolveFrom _ _ _⟩
  obtain ⟨hRoot, hNames, hNormal⟩ := hAny cwd text name path hCwd h
  have hFolder : folder.isAbsolute = true := Path.isAbsolute_join (q := Path.ofString name) hCwd
  have hAbsolute : folder.root ≠ .relative := by simpa [Path.isAbsolute] using hFolder
  refine ⟨⟨Path.names_absolute hCwd name, Path.names_parent _, ?_⟩, ⟨?_, hRoot, hNames, ?_, ?_⟩,
    ⟨hNormal, ?_⟩, fun cwd' name' hName' hSame => ?_, fun cwd' text' name' path' hCwd' hOther => ?_⟩
  · show (cwd.join (Path.ofString name)).root = _
    unfold Path.join
    split <;> rfl
  · rw [Path.isAbsolute, hRoot]
    exact hFolder
  · have hSpelling : path.toChars = folder.root.toChars ++ Text.joinWith '/' path.names := by
      rw [Path.toChars, if_neg fun hBoth => hAbsolute (hRoot ▸ hBoth.1), hRoot]
      rfl
    rw [Path.toString, hSpelling, hNames]
  · cases hSlashes : folder.root with
    | relative => exact absurd hSlashes hAbsolute
    | single => exact .inl rfl
    | double => exact .inr rfl
  · rw [Path.ofString_toString, hNormal]
  · obtain ⟨_, _, hText, hStart, hName, _, rfl⟩ := classify_eq_relative_iff.mp h
    cases hText
    cases hName
    refine classify_eq_relative_iff.mpr ⟨_, _, rfl, hStart, rfl, hName', ?_⟩
    rw [Path.resolveFrom, Path.resolveFrom, hSame]
  · obtain ⟨hRoot', hNames', hNormal'⟩ := hAny cwd' text' name' path' hCwd' hOther
    intro folder' e
    rw [Emission.contains_record, hNormal, hNormal', Path.eq_iff_names, hRoot, hRoot', hNames,
      hNames']

/-- A document below two slashes; the specifier climbs above them and comes down with a line break
and a backslash in its names. -/
theorem relative_walks_climbing :
    ∃ path, classify ⟨.single, []⟩ (.str "./.././/b\\c/../../../x\n/d\\") (.str "//r/a/main.scss") =
        .relative path ∧ path.toString = "//x\n/d\\" := by
  have hRead : ∃ path, classify ⟨.single, []⟩ (.str "./.././/b\\c/../../../x\n/d\\")
      (.str "//r/a/main.scss") = .relative path :=
    ⟨_, classify_eq_relative_iff.mpr ⟨_, _, rfl, by decide +kernel, rfl, by decide +kernel, rfl⟩⟩
  obtain ⟨path, hPath⟩ := hRead
  refine ⟨path, hPath, ?_⟩
  rw [(relative_walks rfl hPath).2.1.2.2.2.1]
  decide +kernel

end Larder
