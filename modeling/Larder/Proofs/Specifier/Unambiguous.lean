import Larder.Proofs.Specifier.Grammar

/-!
# Larder — citations can be told apart

What a citation is written as says where its scope ends, where its pantry ends, and how deep its
ingredient lies: slashes stand between segments only, and the mark of a scope starts no segment. So
the written form is read back as the citation, whatever document it stands in, and the names under
which pantry and ingredient are kept are shared by no other citation.

The names are compared as ways: the name of a pantry is a way of one component without a scope and
of two with one, and a way is read off its name.

## Results

* `ofString?_render`: reading undoes writing.
* `classify_render`: no written citation is taken for a path.
* `pantryName_inj`, `ingredientName_inj`: the names tell scope, pantry and ingredient.
* `read_as_written`: all of this, for the text as it is put together from segments.
-/

namespace Larder

-- ---------------------------------------------------------------------------
-- Segments and components
-- ---------------------------------------------------------------------------

namespace Segment

theorem text_inj {s s' : Segment} : s.text = s'.text ↔ s = s' := by
  cases s
  cases s'
  simp

theorem component_inj {s s' : Segment} : s.component = s'.component ↔ s = s' :=
  ⟨fun h => text_inj.mp (congrArg Component.text h), fun h => h ▸ rfl⟩

theorem asScope_inj {s s' : Segment} : s.asScope = s'.asScope ↔ s = s' :=
  ⟨fun h => text_inj.mp ((String.append_right_inj "@").mp (congrArg Component.text h)),
    fun h => h ▸ rfl⟩

end Segment

/-- What is relative starts with a dot. -/
theorem startsRelative_of_head?_ne {cs : List Char} (h : cs.head? ≠ some '.') :
    startsRelative cs = false := by
  cases cs with
  | nil => rfl
  | cons c rest =>
    have hDot : c ≠ '.' := fun hEq => h (by rw [hEq]; rfl)
    simp [startsRelative, hDot]

namespace Citation

variable {r r' : Citation}

-- ---------------------------------------------------------------------------
-- Reading what was written
-- ---------------------------------------------------------------------------

/-- Reading undoes writing. -/
theorem ofString?_render (r : Citation) : ofString? r.render = some r :=
  ofString?_eq_some_iff.mpr (.inl rfl)

/-- A written citation starts with the mark of a scope or with a segment. -/
theorem head?_render (r : Citation) :
    ∃ c, r.render.toList.head? = some c ∧ (c = '@' ∨ isSegmentHead c = true) := by
  rw [toList_render, pieces]
  cases r.scope with
  | some scope => exact ⟨'@', by simp [unscoped, Text.joinWith], .inl rfl⟩
  | none =>
    obtain ⟨c, rest, hText, hHead, -⟩ := r.pantry.exists_head
    exact ⟨c, by simp [unscoped, Segment.chars, hText, Text.joinWith_cons_cons], .inr hHead⟩

/-- No written citation is taken for a path, so it is read in every document. -/
theorem classify_render (cwd : Path) (file : Value) (r : Citation) :
    classify cwd (.str r.render) file = .ingredient r := by
  obtain ⟨c, hHead, hKind⟩ := r.head?_render
  have hNe : ∀ d, d ≠ '@' → isSegmentHead d = false → r.render.toList.head? ≠ some d := by
    rintro d hMark hSegment hEq
    obtain rfl : c = d := Option.some.inj (hHead.symm.trans hEq)
    rcases hKind with hAt | hFirst
    · exact hMark hAt
    · exact isSegmentHead_ne hFirst hSegment rfl
  have hText : r.render ≠ "" := by
    intro hEmpty
    rw [hEmpty] at hHead
    cases hHead
  have hRead : ofChars? r.render.toList = some r := ofString?_render r
  simp only [classify, classifyText, if_neg hText, if_neg (hNe '/' (by decide) (by decide)),
    startsRelative_of_head?_ne (hNe '.' (by decide) (by decide)), hRead, Bool.false_eq_true,
    if_false]

-- ---------------------------------------------------------------------------
-- Names
-- ---------------------------------------------------------------------------

/-- The name of a pantry tells its scope and its segment. -/
theorem pantryName_inj :
    r.pantryName = r'.pantryName ↔ r.scope = r'.scope ∧ r.pantry = r'.pantry := by
  constructor
  · intro hName
    rw [← nameBelow_pantryWay, ← nameBelow_pantryWay, Discovery.nameBelow_inj] at hName
    -- without a scope the way is one component shorter
    unfold pantryWay at hName
    cases hScope : r.scope <;> cases hScope' : r'.scope <;>
      simp_all [Segment.component_inj, Segment.asScope_inj]
  · rintro ⟨hScope, hPantry⟩
    rw [pantryName, pantryName, hScope, hPantry]

/-- The name of an ingredient tells its segments. -/
theorem ingredientName_inj :
    r.ingredientName = r'.ingredientName ↔
      r.ingredient = r'.ingredient ∧ r.deeper = r'.deeper := by
  constructor
  · intro hName
    rw [← nameBelow_ingredientWay, ← nameBelow_ingredientWay, Discovery.nameBelow_inj] at hName
    have hSegments : r.ingredient :: r.deeper = r'.ingredient :: r'.deeper :=
      (List.map_inj_right fun _ _ => Segment.component_inj.mp).mp hName
    exact List.cons.inj hSegments
  · rintro ⟨hFirst, hDeeper⟩
    rw [ingredientName, ingredientName, hFirst, hDeeper]

/-- Pantry and ingredient together tell the citation. -/
theorem eq_of_names (hPantry : r.pantryName = r'.pantryName)
    (hIngredient : r.ingredientName = r'.ingredientName) : r = r' := by
  obtain ⟨hScope, hSegment⟩ := pantryName_inj.mp hPantry
  obtain ⟨hFirst, hDeeper⟩ := ingredientName_inj.mp hIngredient
  cases r
  cases r'
  simp_all

/-- Segments put together as `[@scope/]pantry/first/…`. -/
def written (scope : Option Segment) (pantry first : Segment) (more : List Segment) : String :=
  scope.elim "" (fun s => "@" ++ s.text ++ "/") ++ pantry.text ++ "/" ++
    "/".intercalate ((first :: more).map Segment.text)

theorem written_eq (scope : Option Segment) (pantry first : Segment) (more : List Segment) :
    written scope pantry first more = (Citation.mk scope pantry first more).render := by
  cases scope <;> simp [written, render, pantryName, ingredientName]

/--
**Reading undoes writing, and names do not collide.** Segments put together to a text are read as
the citation of exactly these segments, by themselves and in every document, and no other segments
are put together to the same text. Of two texts that are read, those that name the same pantry have
the same scope, or both none, and the same pantry segment; and those that name the same pantry and
the same ingredient cite the same.
-/
theorem read_as_written (scope : Option Segment) (pantry first : Segment) (more : List Segment) :
    let text := written scope pantry first more
    ofString? text = some ⟨scope, pantry, first, more⟩ ∧
    (∀ cwd file, classify cwd (.str text) file = .ingredient ⟨scope, pantry, first, more⟩) ∧
    (∀ scope' pantry' first' more', written scope' pantry' first' more' = text ↔
      scope' = scope ∧ pantry' = pantry ∧ first' = first ∧ more' = more) ∧
    ∀ s s' r r', ofString? s = some r → ofString? s' = some r' →
      (r.pantryName = r'.pantryName ↔ r.scope = r'.scope ∧ r.pantry = r'.pantry) ∧
      (r.pantryName = r'.pantryName ∧ r.ingredientName = r'.ingredientName ↔ r = r') := by
  intro text
  have hText : text = (Citation.mk scope pantry first more).render := written_eq _ _ _ _
  refine ⟨?_, fun cwd file => ?_, fun scope' pantry' first' more' => ⟨fun hSame => ?_, ?_⟩,
    fun s s' r r' _ _ => ⟨pantryName_inj, fun h => eq_of_names h.1 h.2, ?_⟩⟩
  · rw [hText, ofString?_render]
  · rw [hText, classify_render]
  · -- one text is read in one way
    have hRead := congrArg ofString? hSame
    rw [hText, written_eq, ofString?_render, ofString?_render] at hRead
    simpa using hRead
  · rintro ⟨rfl, rfl, rfl, rfl⟩
    rfl
  · rintro rfl
    exact ⟨rfl, rfl⟩

end Citation

end Larder
