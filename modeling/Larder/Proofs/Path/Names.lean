import Larder.Discovery
import Larder.Path.Spelling
import Larder.Proofs.Path.Normal
import Larder.Specifier

/-!
# Larder — names and ways

A pantry is cited by a name and so is an ingredient in it, and both are directories: the name of an
ingredient is the way from its pantry's directory down to its own, and the name of a pantry is the
way from a search path down to the pantry. A way is a list of components. The scan writes ways as
names, a path is joined to a name by reading it as a way, and these two agree: reading the name of a
way gives the way back.

The grammar of citations keeps names within these bounds. A segment is a component; it does not
start with a dot, so it is neither hidden nor `..`.

## Results

* `ofString_nameBelow`: reading the name of a way gives the way.
* `ofString_ingredientName`, `ofString_pantryName`: the ways that a citation names.
* `candidate_eq_join`: a pantry is looked for at the search path joined to its name.
* `utf8ByteSize_toString`: how many bytes a path takes.
-/

namespace Larder

-- ---------------------------------------------------------------------------
-- Segments are components
-- ---------------------------------------------------------------------------

theorem isSegmentHead_ne {c d : Char} (h : isSegmentHead c = true)
    (hOther : isSegmentHead d = false) : c ≠ d := by
  rintro rfl
  exact absurd (h.symm.trans hOther) (by decide)

namespace Segment

theorem exists_head (s : Segment) : ∃ c rest, s.text.toList = c :: rest ∧ isSegmentHead c = true ∧
    ∀ d ∈ rest, isSegmentTail d = true := by
  have hValid := s.valid
  cases hText : s.text.toList with
  | nil => simp [hText, isSegment] at hValid
  | cons c rest =>
    rw [hText, isSegment, Bool.and_eq_true, List.all_eq_true] at hValid
    exact ⟨c, rest, rfl, hValid⟩

/-- A segment does not start with a dot. -/
theorem head?_ne_dot (s : Segment) : s.text.toList.head? ≠ some '.' := by
  obtain ⟨c, rest, hText, hHead, _⟩ := s.exists_head
  rw [hText]
  intro hDot
  exact isSegmentHead_ne hHead (by decide) (Option.some.inj hDot)

theorem slash_not_mem (s : Segment) : '/' ∉ s.text.toList := by
  obtain ⟨c, rest, hText, hHead, hTail⟩ := s.exists_head
  rw [hText, List.mem_cons]
  rintro (rfl | hMem)
  · exact absurd hHead (by decide)
  · exact absurd (hTail '/' hMem) (by decide)

/-- The component that a segment is. -/
def component (s : Segment) : Component where
  text := s.text
  valid := by
    refine ⟨fun hEmpty => ?_, fun hDot => ?_, s.slash_not_mem⟩
    · obtain ⟨c, rest, hText, _⟩ := s.exists_head
      simp [hEmpty] at hText
    · exact s.head?_ne_dot (by rw [hDot]; rfl)

/-- The component that a scope is written as. -/
def asScope (s : Segment) : Component where
  text := "@" ++ s.text
  valid := by
    have hText : ("@" ++ s.text).toList = '@' :: s.text.toList := by simp
    refine ⟨fun hEmpty => ?_, fun hDot => ?_, ?_⟩
    · simp [hEmpty] at hText
    · simp [hDot] at hText
    · rw [hText, List.mem_cons, not_or]
      exact ⟨by decide, s.slash_not_mem⟩

end Segment

theorem Component.head?_up : Component.up.text.toList.head? = some '.' := rfl

theorem Segment.component_ne_up (s : Segment) : s.component ≠ Component.up := by
  intro hUp
  exact s.head?_ne_dot (hUp ▸ Component.head?_up :)

theorem Segment.asScope_ne_up (s : Segment) : s.asScope ≠ Component.up := by
  intro hUp
  have hText : ("@" ++ s.text).toList = '@' :: s.text.toList := by simp
  have hHead : ("@" ++ s.text).toList.head? = some '.' := (hUp ▸ Component.head?_up :)
  simp [hText] at hHead

-- ---------------------------------------------------------------------------
-- Names of ways
-- ---------------------------------------------------------------------------

theorem Text.joinWith_eq_intercalate (sep : Char) (pieces : List (List Char)) :
    joinWith sep pieces = [sep].intercalate pieces := by
  induction pieces with
  | nil => rfl
  | cons piece rest ih =>
    cases rest with
    | nil => simp [joinWith]
    | cons next more => simp [joinWith, ih]

namespace Discovery

theorem toList_nameBelow (way : List Component) :
    (nameBelow way).toList = Path.spellParts way := by
  rw [nameBelow, String.toList_intercalate, Path.spellParts, Text.joinWith_eq_intercalate,
    List.map_map]
  rfl

/-- Reading the name of a way gives the way. -/
theorem ofString_nameBelow (way : List Component) :
    Path.ofString (nameBelow way) = ⟨.relative, way⟩ := by
  have hRoot : Path.Root.ofChars (Path.Root.toChars .relative ++ Path.spellParts way) =
      .relative := Path.rootOfChars_append (Path.head?_spellParts way)
  rw [Path.Root.toChars, List.nil_append] at hRoot
  rw [Path.ofString, toList_nameBelow, Path.ofChars, hRoot, Path.filterMap_splitOn_spellParts]

/-- Ways with one name are one way. -/
theorem nameBelow_inj {way way' : List Component} :
    nameBelow way = nameBelow way' ↔ way = way' := by
  refine ⟨fun hName => ?_, fun h => h ▸ rfl⟩
  have hPath := congrArg Path.ofString hName
  rw [ofString_nameBelow, ofString_nameBelow] at hPath
  exact congrArg Path.parts hPath

/-- A pantry is looked for at the search path joined to its name. -/
theorem candidate_eq_join {name : String} (h : (Path.ofString name).root = .relative)
    (searchPath : Path) : candidate name searchPath = searchPath.join (Path.ofString name) := by
  rw [Path.join_of_relative h]
  rfl

end Discovery

-- ---------------------------------------------------------------------------
-- How long a path is
-- ---------------------------------------------------------------------------

/-- How many bytes a way takes, each name with a slash before it. -/
def bytesOfWay : List Component → Nat
  | [] => 0
  | c :: way => c.text.utf8ByteSize + 1 + bytesOfWay way

theorem bytesOfWay_append (way way' : List Component) :
    bytesOfWay (way ++ way') = bytesOfWay way + bytesOfWay way' := by
  induction way with
  | nil => exact (Nat.zero_add _).symm
  | cons c way ih =>
    rw [List.cons_append, bytesOfWay, bytesOfWay, ih]
    omega

theorem bytesOfWay_replicate (n : Nat) (c : Component) :
    bytesOfWay (List.replicate n c) = n * (c.text.utf8ByteSize + 1) := by
  induction n with
  | zero => exact (Nat.zero_mul _).symm
  | succ n ih => rw [List.replicate_succ, bytesOfWay, ih, Nat.succ_mul, Nat.add_comm]

theorem bytesOfWay_eq (c : Component) (way : List Component) :
    bytesOfWay (c :: way) = (String.ofList (Path.spellParts (c :: way))).utf8ByteSize + 1 := by
  induction way generalizing c with
  | nil => simp [bytesOfWay, Path.spellParts, Text.joinWith]
  | cons next way ih =>
    have hJoined : Path.spellParts (c :: next :: way) =
        c.text.toList ++ '/' :: Path.spellParts (next :: way) := rfl
    have hSlash : (String.singleton '/').utf8ByteSize = 1 := rfl
    rw [bytesOfWay, ih next, hJoined, String.ofList_append, String.ofList_toList,
      String.ofList_cons, String.utf8ByteSize_append, String.utf8ByteSize_append, hSlash]
    omega

theorem bytesOfWay_le_of_sublist {way way' : List Component} (h : way.Sublist way') :
    bytesOfWay way ≤ bytesOfWay way' := by
  induction h with
  | slnil => exact Nat.le_refl _
  | cons c _ ih => exact Nat.le_trans ih (Nat.le_add_left _ _)
  | cons_cons c _ ih => exact Nat.add_le_add_left ih _

/-- An absolute path takes the bytes of its root and those of its way, less one slash. -/
theorem Path.utf8ByteSize_toString_add_one {p : Path} (h : p.isAbsolute = true) :
    p.toString.utf8ByteSize + 1 = p.root.toChars.length + max 1 (bytesOfWay p.parts) := by
  obtain ⟨root, parts⟩ := p
  have hRoot : (String.ofList root.toChars).utf8ByteSize = root.toChars.length := by
    cases root <;> rfl
  have hSpelled : (Path.mk root parts).toString =
      String.ofList root.toChars ++ String.ofList (Path.spellParts parts) := by
    have hAbsolute : root ≠ .relative := by simpa [isAbsolute] using h
    rw [toString, toChars, if_neg fun hBoth => hAbsolute hBoth.1, String.ofList_append]
    rfl
  rw [hSpelled, String.utf8ByteSize_append, hRoot]
  cases parts with
  | nil => rfl
  | cons c rest =>
    show _ = root.toChars.length + max 1 (bytesOfWay (c :: rest))
    rw [bytesOfWay_eq]
    omega

/-- A path from the root takes as many bytes as its way. -/
theorem Path.utf8ByteSize_toString {way : List Component} (h : way ≠ []) :
    (Path.mk .single way).toString.utf8ByteSize = bytesOfWay way := by
  obtain ⟨c, rest, rfl⟩ := List.exists_cons_of_ne_nil h
  have hSize := utf8ByteSize_toString_add_one (p := ⟨.single, c :: rest⟩) rfl
  have hSlash : Path.Root.single.toChars.length = 1 := rfl
  rw [hSlash, bytesOfWay] at hSize
  rw [bytesOfWay]
  omega

-- ---------------------------------------------------------------------------
-- The ways that a citation names
-- ---------------------------------------------------------------------------

namespace Citation

/-- The way from a search path down to the pantry. -/
def pantryWay (r : Citation) : List Component :=
  match r.scope with
  | none => [r.pantry.component]
  | some scope => [scope.asScope, r.pantry.component]

/-- The way from the pantry's directory down to the ingredient. -/
def ingredientWay (r : Citation) : List Component :=
  (r.ingredient :: r.deeper).map Segment.component

theorem nameBelow_pantryWay (r : Citation) : Discovery.nameBelow r.pantryWay = r.pantryName := by
  unfold pantryWay pantryName
  cases r.scope <;> rfl

theorem nameBelow_ingredientWay (r : Citation) :
    Discovery.nameBelow r.ingredientWay = r.ingredientName := by
  rw [Discovery.nameBelow, ingredientWay, List.map_map]
  rfl

theorem ofString_pantryName (r : Citation) :
    Path.ofString r.pantryName = ⟨.relative, r.pantryWay⟩ := by
  rw [← nameBelow_pantryWay, Discovery.ofString_nameBelow]

theorem ofString_ingredientName (r : Citation) :
    Path.ofString r.ingredientName = ⟨.relative, r.ingredientWay⟩ := by
  rw [← nameBelow_ingredientWay, Discovery.ofString_nameBelow]

theorem pantryName_ne_empty (r : Citation) : r.pantryName ≠ "" := by
  intro hEmpty
  have hWay := congrArg Path.parts (r.ofString_pantryName)
  rw [hEmpty, show (Path.ofString "").parts = [] by decide +kernel] at hWay
  unfold pantryWay at hWay
  cases hScope : r.scope <;> simp [hScope] at hWay

theorem up_not_mem_pantryWay (r : Citation) : Component.up ∉ r.pantryWay := by
  unfold pantryWay
  split
  · simpa using r.pantry.component_ne_up.symm
  · rename_i scope _
    simpa using ⟨scope.asScope_ne_up.symm, r.pantry.component_ne_up.symm⟩

theorem up_not_mem_ingredientWay (r : Citation) : Component.up ∉ r.ingredientWay := by
  intro hMem
  obtain ⟨s, _, hUp⟩ := List.mem_map.mp hMem
  exact s.component_ne_up hUp

/-- The scan passes by a directory on the way to an ingredient only if it is a dependency folder. -/
theorem isSkipped_of_mem_ingredientWay {r : Citation} {c : Component} (h : c ∈ r.ingredientWay) :
    Discovery.isSkipped c = decide (c.text = "node_modules") := by
  obtain ⟨s, _, rfl⟩ := List.mem_map.mp h
  have hDot : s.component.text.toList.head? ≠ some '.' := s.head?_ne_dot
  simp [Discovery.isSkipped, hDot]

end Citation

end Larder
