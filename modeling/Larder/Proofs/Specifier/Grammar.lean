import Larder.Proofs.Path.Names
import Larder.Specifier

/-!
# Larder — the grammar of citations

A citation is written `[@segment/]segment/segment{/segment}`, and a segment is a text of letters,
digits, `_`, `~`, `-` and dots that has at least one character and does not start with a dot. The
grammar is given here on its own, by its productions, and compared with the reader of citations.

The reader cuts a text at its slashes and reads the pieces. It accepts every text of the grammar and
reads each one as the citation that is written so. The one thing it accepts beyond the grammar is a
line break after such a text: it reads `p/i` and a line break as `p/i`, and what was written can no
longer be told from the citation.

## Results

* `Grammar.isSegment_iff`: a segment as the reader tests it is a segment of the grammar.
* `Grammar.isCitation_iff`: the grammar generates what citations are written as.
* `Citation.ofChars?_eq_some_iff`: what is read is what is written, up to a last line break.
* `Citation.accepted_or_broken`: the reader accepts the grammar, and the grammar with a line break
  after it.
-/

namespace Larder

-- ---------------------------------------------------------------------------
-- The grammar
-- ---------------------------------------------------------------------------

namespace Grammar

/-- The characters of segments: `A-Z a-z 0-9 _ ~ - .`. -/
def IsLetter (c : Char) : Prop :=
  ('A' ≤ c ∧ c ≤ 'Z') ∨ ('a' ≤ c ∧ c ≤ 'z') ∨ ('0' ≤ c ∧ c ≤ '9') ∨
    c = '_' ∨ c = '~' ∨ c = '-' ∨ c = '.'

/-- A text of such characters that has one and does not start with a dot. -/
structure IsSegment (cs : List Char) : Prop where
  nonempty : cs ≠ []
  letters : ∀ c ∈ cs, IsLetter c
  head : cs.head? ≠ some '.'

/-- An ingredient: `segment{/segment}`. -/
inductive IsIngredient : List Char → Prop where
  | last {cs : List Char} (hSegment : IsSegment cs) : IsIngredient cs
  | deeper {cs rest : List Char} (hSegment : IsSegment cs) (hRest : IsIngredient rest) :
      IsIngredient (cs ++ '/' :: rest)

/-- A citation: `[@segment/]segment/ingredient`. -/
inductive IsCitation : List Char → Prop where
  | plain {pantry ingredient : List Char} (hPantry : IsSegment pantry)
      (hIngredient : IsIngredient ingredient) : IsCitation (pantry ++ '/' :: ingredient)
  | scoped {scope pantry ingredient : List Char} (hScope : IsSegment scope)
      (hPantry : IsSegment pantry) (hIngredient : IsIngredient ingredient) :
      IsCitation ('@' :: scope ++ '/' :: (pantry ++ '/' :: ingredient))

-- ---------------------------------------------------------------------------
-- Segments
-- ---------------------------------------------------------------------------

theorem isSegmentTail_iff (c : Char) : isSegmentTail c = true ↔ IsLetter c := by
  have hUpper : c.isUpper = true ↔ 'A' ≤ c ∧ c ≤ 'Z' := decide_eq_true_iff
  have hLower : c.isLower = true ↔ 'a' ≤ c ∧ c ≤ 'z' :=
    Bool.and_eq_true_iff.trans (and_congr decide_eq_true_iff decide_eq_true_iff)
  have hDigit : c.isDigit = true ↔ '0' ≤ c ∧ c ≤ '9' :=
    Bool.and_eq_true_iff.trans (and_congr decide_eq_true_iff decide_eq_true_iff)
  have hAlpha : c.isAlpha = true ↔ c.isUpper = true ∨ c.isLower = true := Bool.or_eq_true_iff
  have hAlphanum : c.isAlphanum = true ↔ c.isAlpha = true ∨ c.isDigit = true :=
    Bool.or_eq_true_iff
  simp only [isSegmentTail, isSegmentHead, Bool.or_eq_true, decide_eq_true_eq, hAlphanum, hAlpha,
    hUpper, hLower, hDigit, IsLetter, or_assoc]

theorem isSegmentHead_iff (c : Char) : isSegmentHead c = true ↔ IsLetter c ∧ c ≠ '.' := by
  rw [← isSegmentTail_iff, isSegmentTail, Bool.or_eq_true, decide_eq_true_eq]
  constructor
  · intro hHead
    exact ⟨.inl hHead, isSegmentHead_ne hHead (by decide)⟩
  · rintro ⟨hHead | hDot, hNot⟩
    · exact hHead
    · exact absurd hDot hNot

/-- A segment as the reader tests it is a segment of the grammar. -/
theorem isSegment_iff (cs : List Char) : isSegment cs = true ↔ IsSegment cs := by
  cases cs with
  | nil => exact ⟨fun h => absurd h (by decide), fun h => absurd rfl h.nonempty⟩
  | cons c rest =>
    rw [isSegment, Bool.and_eq_true, List.all_eq_true, isSegmentHead_iff]
    simp only [isSegmentTail_iff]
    constructor
    · rintro ⟨⟨hLetter, hDot⟩, hRest⟩
      exact ⟨by simp, List.forall_mem_cons.mpr ⟨hLetter, hRest⟩, by simpa using hDot⟩
    · rintro ⟨-, hLetters, hHead⟩
      obtain ⟨hLetter, hRest⟩ := List.forall_mem_cons.mp hLetters
      exact ⟨⟨hLetter, by simpa using hHead⟩, hRest⟩

theorem not_isLetter_newline : ¬ IsLetter '\n' := by
  rw [← isSegmentTail_iff]
  decide

end Grammar

namespace Segment

/-- The characters of a segment. -/
def chars (s : Segment) : List Char := s.text.toList

theorem isSegment_chars (s : Segment) : Grammar.IsSegment s.chars :=
  (Grammar.isSegment_iff _).mp s.valid

theorem ofChars?_eq_some_iff {cs : List Char} {s : Segment} :
    ofChars? cs = some s ↔ s.chars = cs := by
  unfold ofChars?
  constructor
  · intro hRead
    split at hRead
    · rw [← Option.some.inj hRead]
      exact String.toList_ofList
    · cases hRead
  · rintro rfl
    simp only [chars, String.ofList_toList]
    rw [dif_pos s.valid]

theorem mapM_ofChars?_eq_some_iff {pieces : List (List Char)} {segments : List Segment} :
    pieces.mapM ofChars? = some segments ↔ segments.map chars = pieces := by
  induction pieces generalizing segments with
  | nil => cases segments <;> simp
  | cons piece pieces ih =>
    rw [List.mapM_cons]
    constructor
    · intro hRead
      obtain ⟨s, hPiece, hRest⟩ := Option.bind_eq_some_iff.mp hRead
      obtain ⟨more, hMore, hAll⟩ := Option.bind_eq_some_iff.mp hRest
      rw [← Option.some.inj hAll, List.map_cons, ih.mp hMore, ofChars?_eq_some_iff.mp hPiece]
    · intro hPieces
      cases segments with
      | nil => cases hPieces
      | cons s more =>
        rw [List.map_cons, List.cons.injEq] at hPieces
        rw [ofChars?_eq_some_iff.mpr hPieces.1, ih.mpr hPieces.2]
        rfl

end Segment

/-- Every segment of the grammar is the text of a segment. -/
theorem Grammar.IsSegment.exists_chars {cs : List Char} (h : IsSegment cs) :
    ∃ s : Segment, s.chars = cs := by
  refine ⟨⟨String.ofList cs, ?_⟩, String.toList_ofList⟩
  rw [String.toList_ofList]
  exact (isSegment_iff cs).mpr h

-- ---------------------------------------------------------------------------
-- What a citation is written as
-- ---------------------------------------------------------------------------

namespace Citation

/-- The pieces of a citation that follow its scope. -/
def unscoped (r : Citation) : List (List Char) :=
  r.pantry.chars :: (r.ingredient :: r.deeper).map Segment.chars

/-- The pieces that a citation is written as, with slashes between them. -/
def pieces (r : Citation) : List (List Char) :=
  match r.scope with
  | none => r.unscoped
  | some scope => ('@' :: scope.chars) :: r.unscoped

theorem toList_ingredientName (r : Citation) :
    r.ingredientName.toList = Text.joinWith '/' ((r.ingredient :: r.deeper).map Segment.chars) := by
  rw [ingredientName, String.toList_intercalate, Text.joinWith_eq_intercalate, List.map_map]
  rfl

theorem toList_render (r : Citation) : r.render.toList = Text.joinWith '/' r.pieces := by
  have hMore : (r.ingredient :: r.deeper).map Segment.chars ≠ [] := by simp
  have hPlain : Text.joinWith '/' r.unscoped =
      r.pantry.chars ++ '/' :: r.ingredientName.toList := by
    rw [unscoped, Text.joinWith_cons_of_ne_nil _ _ hMore, toList_ingredientName]
  rw [render, pieces, pantryName]
  cases r.scope with
  | none =>
    rw [hPlain]
    simp [Segment.chars]
  | some scope =>
    rw [Text.joinWith_cons_of_ne_nil _ _ (by simp [unscoped]), hPlain]
    simp [Segment.chars]

/-- A character of a citation is a slash, the mark of a scope, or one of a segment. -/
theorem mem_pieces {r : Citation} {piece : List Char} (hPiece : piece ∈ r.pieces) {c : Char}
    (hChar : c ∈ piece) : c = '@' ∨ ∃ s : Segment, c ∈ s.chars := by
  have hUnscoped : piece ∈ r.unscoped → ∃ s : Segment, c ∈ s.chars := by
    intro hMem
    rcases List.mem_cons.mp hMem with rfl | hMem
    · exact ⟨r.pantry, hChar⟩
    · obtain ⟨s, -, rfl⟩ := List.mem_map.mp hMem
      exact ⟨s, hChar⟩
  rw [pieces] at hPiece
  cases hScope : r.scope with
  | none =>
    rw [hScope] at hPiece
    exact .inr (hUnscoped hPiece)
  | some scope =>
    rw [hScope] at hPiece
    rcases List.mem_cons.mp hPiece with rfl | hPiece
    · rcases List.mem_cons.mp hChar with rfl | hChar
      · exact .inl rfl
      · exact .inr ⟨scope, hChar⟩
    · exact .inr (hUnscoped hPiece)

theorem slash_not_mem_pieces (r : Citation) : ∀ piece ∈ r.pieces, '/' ∉ piece := by
  intro piece hPiece hSlash
  rcases mem_pieces hPiece hSlash with hMark | ⟨s, hMem⟩
  · exact absurd hMark (by decide)
  · exact s.slash_not_mem hMem

theorem newline_not_mem_render (r : Citation) : '\n' ∉ r.render.toList := by
  intro hMem
  rw [toList_render] at hMem
  rcases Text.mem_joinWith hMem with hSlash | ⟨piece, hPiece, hMem⟩
  · exact absurd hSlash (by decide)
  · rcases mem_pieces hPiece hMem with hMark | ⟨s, hMem⟩
    · exact absurd hMark (by decide)
    · exact Grammar.not_isLetter_newline (s.isSegment_chars.letters _ hMem)

theorem getLast?_render_ne (r : Citation) : r.render.toList.getLast? ≠ some '\n' :=
  fun hLast => r.newline_not_mem_render (List.mem_of_getLast? hLast)

end Citation

-- ---------------------------------------------------------------------------
-- The grammar generates what citations are written as
-- ---------------------------------------------------------------------------

namespace Grammar

theorem IsIngredient.exists_segments {cs : List Char} (h : IsIngredient cs) :
    ∃ (first : Segment) (more : List Segment),
      Text.joinWith '/' ((first :: more).map Segment.chars) = cs := by
  induction h with
  | last hSegment =>
    obtain ⟨s, rfl⟩ := hSegment.exists_chars
    exact ⟨s, [], rfl⟩
  | deeper hSegment hRest ih =>
    obtain ⟨s, rfl⟩ := hSegment.exists_chars
    obtain ⟨first, more, rfl⟩ := ih
    exact ⟨s, first :: more, rfl⟩

theorem isIngredient_joinWith (first : Segment) (more : List Segment) :
    IsIngredient (Text.joinWith '/' ((first :: more).map Segment.chars)) := by
  induction more generalizing first with
  | nil => exact .last first.isSegment_chars
  | cons next more ih => exact .deeper first.isSegment_chars (ih next)

/-- The grammar generates what citations are written as, and nothing else. -/
theorem isCitation_iff (cs : List Char) :
    IsCitation cs ↔ ∃ r : Citation, r.render.toList = cs := by
  constructor
  · rintro (⟨hPantry, hIngredient⟩ | ⟨hScope, hPantry, hIngredient⟩)
    · obtain ⟨pantry, rfl⟩ := hPantry.exists_chars
      obtain ⟨first, more, rfl⟩ := hIngredient.exists_segments
      exact ⟨⟨none, pantry, first, more⟩, Citation.toList_render _⟩
    · obtain ⟨scope, rfl⟩ := hScope.exists_chars
      obtain ⟨pantry, rfl⟩ := hPantry.exists_chars
      obtain ⟨first, more, rfl⟩ := hIngredient.exists_segments
      exact ⟨⟨some scope, pantry, first, more⟩, Citation.toList_render _⟩
  · rintro ⟨⟨scope, pantry, first, more⟩, rfl⟩
    rw [Citation.toList_render]
    cases scope with
    | none => exact .plain pantry.isSegment_chars (isIngredient_joinWith first more)
    | some scope =>
      exact .scoped scope.isSegment_chars pantry.isSegment_chars (isIngredient_joinWith first more)

end Grammar

-- ---------------------------------------------------------------------------
-- What the reader reads
-- ---------------------------------------------------------------------------

namespace Citation

theorem ofPieces?_eq_some_iff {scope : Option Segment} {cut : List (List Char)} {r : Citation} :
    ofPieces? scope cut = some r ↔ r.scope = scope ∧ r.unscoped = cut := by
  constructor
  · intro hRead
    match cut with
    | [] => cases hRead
    | [_] => cases hRead
    | pantry :: first :: more =>
      obtain ⟨p, hPantry, hRest⟩ := Option.bind_eq_some_iff.mp hRead
      obtain ⟨i, hFirst, hRest⟩ := Option.bind_eq_some_iff.mp hRest
      obtain ⟨d, hMore, hAll⟩ := Option.bind_eq_some_iff.mp hRest
      rw [Segment.ofChars?_eq_some_iff] at hPantry hFirst
      rw [Segment.mapM_ofChars?_eq_some_iff] at hMore
      rw [← Option.some.inj hAll]
      refine ⟨rfl, ?_⟩
      rw [unscoped, List.map_cons, hPantry, hFirst, hMore]
  · rintro ⟨rfl, rfl⟩
    have hDeeper : (r.deeper.map Segment.chars).mapM Segment.ofChars? = some r.deeper :=
      Segment.mapM_ofChars?_eq_some_iff.mpr rfl
    rw [unscoped, List.map_cons, ofPieces?, Segment.ofChars?_eq_some_iff.mpr rfl,
      Segment.ofChars?_eq_some_iff.mpr rfl, hDeeper]
    rfl

/-- A text without the line break at its end is what the citation is written as. -/
theorem ofChars?_eq_some_iff {cs : List Char} {r : Citation} :
    ofChars? cs = some r ↔ chopNewline cs = r.render.toList := by
  have hCut : chopNewline cs = r.render.toList ↔ Text.splitOn '/' (chopNewline cs) = r.pieces := by
    rw [toList_render]
    constructor
    · intro hText
      rw [hText, Text.splitOn_joinWith (by unfold pieces unscoped; split <;> simp)
        r.slash_not_mem_pieces]
    · intro hPieces
      rw [← hPieces, Text.joinWith_splitOn]
  rw [hCut, ofChars?]
  split
  · rename_i scope rest hScoped
    rw [hScoped]
    constructor
    · intro hRead
      obtain ⟨s, hScope, hRest⟩ := Option.bind_eq_some_iff.mp hRead
      obtain ⟨hIs, hUnscoped⟩ := ofPieces?_eq_some_iff.mp hRest
      rw [pieces, hIs, hUnscoped, ← Segment.ofChars?_eq_some_iff.mp hScope]
    · intro hPieces
      rw [pieces] at hPieces
      cases hIs : r.scope with
      | none =>
        -- the pantry of a citation without scope does not start with the mark of a scope
        rw [hIs, unscoped, List.cons.injEq] at hPieces
        have hLetter := r.pantry.isSegment_chars.letters '@' (by simp [← hPieces.1])
        rw [← Grammar.isSegmentTail_iff] at hLetter
        exact absurd hLetter (by decide)
      | some s =>
        rw [hIs, List.cons.injEq, List.cons.injEq] at hPieces
        rw [Segment.ofChars?_eq_some_iff.mpr hPieces.1.2.symm]
        exact ofPieces?_eq_some_iff.mpr ⟨hIs, hPieces.2.symm⟩
  · rename_i hPlain
    rw [ofPieces?_eq_some_iff, pieces]
    cases hIs : r.scope with
    | none => exact ⟨fun h => h.2.symm, fun h => ⟨rfl, h.symm⟩⟩
    | some s =>
      constructor
      · rintro ⟨hNone, -⟩
        cases hNone
      · intro hPieces
        exact absurd hPieces (hPlain _ _)

theorem chopNewline_eq_iff {cs text : List Char} (hText : text.getLast? ≠ some '\n') :
    chopNewline cs = text ↔ cs = text ∨ cs = text ++ ['\n'] := by
  unfold chopNewline
  split
  · rename_i hLast
    obtain ⟨front, rfl⟩ := List.getLast?_eq_some_iff.mp hLast
    rw [List.dropLast_concat, List.append_left_inj]
    constructor
    · exact .inr
    · rintro (rfl | hFront)
      · exact absurd hLast hText
      · exact hFront
  · rename_i hLast
    constructor
    · exact .inl
    · rintro (rfl | rfl)
      · rfl
      · exact absurd List.getLast?_concat hLast

/-- What is read is what is written, or that with a line break after it. -/
theorem ofString?_eq_some_iff {s : String} {r : Citation} :
    ofString? s = some r ↔ s = r.render ∨ s = r.render ++ "\n" := by
  have hBroken : s = r.render ++ "\n" ↔ s.toList = r.render.toList ++ ['\n'] := by
    rw [← String.toList_inj, String.toList_append]
    rfl
  rw [ofString?, ofChars?_eq_some_iff, chopNewline_eq_iff r.getLast?_render_ne, hBroken,
    ← String.toList_inj]

/--
**The reader accepts its grammar and a line break after it.** A text is read exactly if the grammar
generates it or generates it without a line break at its end. What is read is written like the text,
or like the text without that line break. So on a text without a line break at its end the reader
accepts exactly what the grammar generates, and the citation is written as the text was.
-/
theorem accepted_or_broken (s : String) :
    (ofString? s ≠ none ↔
      Grammar.IsCitation s.toList ∨ ∃ t, s = t ++ "\n" ∧ Grammar.IsCitation t.toList) ∧
    (∀ r, ofString? s = some r → s = r.render ∨ s = r.render ++ "\n") ∧
    (s.toList.getLast? ≠ some '\n' →
      (ofString? s ≠ none ↔ Grammar.IsCitation s.toList) ∧
      ∀ r, ofString? s = some r → r.pantryName ++ "/" ++ r.ingredientName = s) := by
  have hAccepted : ofString? s ≠ none ↔
      Grammar.IsCitation s.toList ∨ ∃ t, s = t ++ "\n" ∧ Grammar.IsCitation t.toList := by
    rw [Option.ne_none_iff_exists', Grammar.isCitation_iff]
    simp only [ofString?_eq_some_iff, Grammar.isCitation_iff, String.toList_inj]
    constructor
    · rintro ⟨r, rfl | rfl⟩
      · exact .inl ⟨r, rfl⟩
      · exact .inr ⟨r.render, rfl, r, rfl⟩
    · rintro (⟨r, rfl⟩ | ⟨t, rfl, r, rfl⟩)
      · exact ⟨r, .inl rfl⟩
      · exact ⟨r, .inr rfl⟩
  have hBroken : ∀ t, s = t ++ "\n" → s.toList.getLast? = some '\n' := by
    rintro t rfl
    rw [String.toList_append]
    exact List.getLast?_concat
  refine ⟨hAccepted, fun r => ofString?_eq_some_iff.mp, fun hLast => ⟨?_, fun r hRead => ?_⟩⟩
  · rw [hAccepted, or_iff_left]
    rintro ⟨t, hText, -⟩
    exact hLast (hBroken t hText)
  · rcases ofString?_eq_some_iff.mp hRead with hText | hText
    · exact hText.symm
    · exact absurd (hBroken _ hText) hLast

/-- The grammar generates `p/i` and not `p/i` with a line break after it, but both are read, and as
one citation. -/
theorem line_break_dropped :
    Grammar.IsCitation "p/i".toList ∧ ¬ Grammar.IsCitation "p/i\n".toList ∧
    ∃ r, ofString? "p/i\n" = some r ∧ r.render = "p/i" := by
  have hPlain : Grammar.IsCitation "p/i".toList :=
    ((accepted_or_broken "p/i").2.2 (by decide +kernel)).1.mp (by decide +kernel)
  obtain ⟨r, hRead⟩ := Option.ne_none_iff_exists'.mp
    ((accepted_or_broken "p/i\n").1.mpr (.inr ⟨"p/i", rfl, hPlain⟩))
  have hNewline : ∀ r : Citation, r.render ≠ "p/i\n" := by
    intro r hText
    exact r.newline_not_mem_render (by rw [hText]; decide +kernel)
  refine ⟨hPlain, ?_, r, hRead, ?_⟩
  · rw [Grammar.isCitation_iff]
    rintro ⟨r, hText⟩
    exact hNewline r (String.toList_inj.mp hText)
  · rcases (accepted_or_broken "p/i\n").2.1 r hRead with hText | hText
    · exact absurd hText.symm (hNewline r)
    · exact (String.append_left_inj "\n").mp hText.symm

end Citation

end Larder
