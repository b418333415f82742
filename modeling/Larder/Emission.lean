import Larder.Path.Spelling

/-!
# Larder — emission

The paths that one compilation has been given. A path is recorded once, in its normalised form;
the set only grows. It is kept in the order of the paths' texts, which the type guarantees.

## Results

* `mem_record`: a recording adds the normalised path and nothing else.
* `record_snd`: a recording answers whether the path was new.
* `eq_of_perm`: the order leaves no choice.
-/

namespace Larder

/-- The order of paths by their texts, code point by code point. -/
def Path.Before (p q : Path) : Prop := p.toString < q.toString

instance (p q : Path) : Decidable (p.Before q) := inferInstanceAs (Decidable (_ < _))

/-- Puts a path at its place in an ordered list; a path that is there stays there once. -/
def insertPath (p : Path) : List Path → List Path
  | [] => [p]
  | q :: rest =>
    if p.Before q then p :: q :: rest
    else if q.Before p then q :: insertPath p rest
    else q :: rest

/-- Paths that are not before one another are equal. -/
theorem Path.eq_of_not_before {p q : Path} (hpq : ¬ p.Before q) (hqp : ¬ q.Before p) : p = q :=
  Path.toString_inj.mp (String.le_antisymm (String.not_lt.mp hqp) (String.not_lt.mp hpq))

theorem Path.Before.trans {p q r : Path} (hpq : p.Before q) (hqr : q.Before r) : p.Before r :=
  String.lt_trans hpq hqr

theorem mem_insertPath {p r : Path} {ps : List Path} :
    r ∈ insertPath p ps ↔ r = p ∨ r ∈ ps := by
  induction ps with
  | nil => simp [insertPath]
  | cons q rest ih =>
    unfold insertPath
    split
    · simp
    · split
      · simp only [List.mem_cons, ih]
        constructor
        · rintro (h | h | h) <;> simp [h]
        · rintro (h | h | h) <;> simp [h]
      · rename_i hpq hqp
        have hEq := Path.eq_of_not_before hpq hqp
        subst hEq
        simp

theorem pairwise_insertPath {p : Path} {ps : List Path} (h : ps.Pairwise Path.Before) :
    (insertPath p ps).Pairwise Path.Before := by
  induction ps with
  | nil => simp [insertPath]
  | cons q rest ih =>
    rw [List.pairwise_cons] at h
    unfold insertPath
    split
    · rename_i hpq
      rw [List.pairwise_cons, List.pairwise_cons]
      refine ⟨fun r hr => ?_, h⟩
      rcases List.mem_cons.mp hr with rfl | hr
      · exact hpq
      · exact hpq.trans (h.1 r hr)
    · split
      · rename_i hqp
        rw [List.pairwise_cons]
        refine ⟨fun r hr => ?_, ih h.2⟩
        rcases mem_insertPath.mp hr with rfl | hr
        · exact hqp
        · exact h.1 r hr
      · exact List.pairwise_cons.mpr h

/-- The paths that one compilation has been given. -/
structure Emission where
  /-- The normalised paths, in order. -/
  paths : List Path := []
  /-- The paths are in order, each once. -/
  ordered : paths.Pairwise Path.Before := by simp
  deriving DecidableEq, Repr

namespace Emission

/-- The emission of a compilation that has just begun. -/
def empty : Emission := {}

instance : Inhabited Emission := ⟨empty⟩

/-- Whether some spelling of the path was recorded. -/
def contains (e : Emission) (p : Path) : Bool := e.paths.contains p.normalize

/-- The number of recorded paths. -/
def size (e : Emission) : Nat := e.paths.length

/-- The emission with the path recorded. -/
def insert (e : Emission) (p : Path) : Emission where
  paths := insertPath p.normalize e.paths
  ordered := pairwise_insertPath e.ordered

/-- Records a path and answers whether it was new. -/
def record (e : Emission) (p : Path) : Emission × Bool :=
  if e.contains p then (e, false) else (e.insert p, true)

/-- A recording answers whether the path was new. -/
@[simp] theorem record_snd (e : Emission) (p : Path) : (e.record p).2 = !e.contains p := by
  unfold record; split <;> simp_all

/-- A recording adds the normalised path and nothing else. -/
theorem mem_record {e : Emission} {p q : Path} :
    q ∈ (e.record p).1.paths ↔ q = p.normalize ∨ q ∈ e.paths := by
  unfold record
  split
  · rename_i h
    have hMem : p.normalize ∈ e.paths := by simpa [contains] using h
    constructor
    · exact Or.inr
    · rintro (rfl | hq)
      · exact hMem
      · exact hq
  · exact mem_insertPath

/-- Two compilations that were given the same paths were given them in the same order. -/
theorem eq_of_perm {e e' : Emission} (h : e.paths.Perm e'.paths) : e = e' := by
  have hPaths : e.paths = e'.paths :=
    h.eq_of_pairwise (fun p q _ _ hpq hqp => absurd (hpq.trans hqp) (String.lt_irrefl _))
      e.ordered e'.ordered
  obtain ⟨paths, _⟩ := e
  obtain ⟨paths', _⟩ := e'
  obtain rfl : paths = paths' := hPaths
  rfl

end Emission

end Larder
