import Larder.Path.Basic

/-!
# Larder — normal paths

The stack machine of `normalize` leaves a stack on which nothing is left to do: a `..` stands only
on other ones, and none at all in a path from a root. Run over such a stack from its bottom, the
machine builds it again. So normalising twice is normalising once, and a path that comes out of
lexical reasoning is its own key wherever paths are compared.

## Results

* `normalize_normalize`: a normalised path is normal.
* `normalize_absolute`, `normalize_resolveFrom`: so are anchored paths and targets of relative
  specifiers.
* `normalize_of_not_mem_up`, `absolute_of_not_mem_up`: a path without `..` is normal already.
-/

namespace Larder

namespace Path

/-- Nothing is left to do on a stack, its top first: below a `..` there are only such, and there
is none below a root. -/
def Settled (absolute : Bool) (stack : List Component) : Prop :=
  stack.Pairwise (fun above below => above = Component.up → below = Component.up) ∧
    (absolute = true → Component.up ∉ stack)

theorem settled_nil (absolute : Bool) : Settled absolute [] :=
  ⟨List.Pairwise.nil, fun _ => List.not_mem_nil⟩

theorem Settled.tail {absolute : Bool} {c : Component} {rest : List Component}
    (h : Settled absolute (c :: rest)) : Settled absolute rest := by
  obtain ⟨hPairs, hRoot⟩ := h
  exact ⟨(List.pairwise_cons.mp hPairs).2, fun ha hMem => hRoot ha (List.mem_cons_of_mem _ hMem)⟩

theorem settled_push {absolute : Bool} {stack : List Component} (h : Settled absolute stack)
    (c : Component) : Settled absolute (push absolute stack c) := by
  obtain ⟨hPairs, hRoot⟩ := h
  unfold push
  split
  · rename_i hUp
    subst hUp
    cases stack with
    | nil =>
      cases absolute with
      | false => exact ⟨List.pairwise_singleton _ _, fun ha => absurd ha (by decide)⟩
      | true => exact settled_nil true
    | cons top rest =>
      simp only
      split
      · -- one more `..` on top of others: the path cannot start at a root
        rename_i hTop
        refine ⟨List.pairwise_cons.mpr ⟨fun below hMem _ => ?_, hPairs⟩, fun ha => ?_⟩
        · rcases List.mem_cons.mp hMem with rfl | hMem
          · exact hTop
          · exact (List.pairwise_cons.mp hPairs).1 below hMem hTop
        · exact absurd (hTop ▸ List.mem_cons_self) (hRoot ha)
      · exact Settled.tail ⟨hPairs, hRoot⟩
  · rename_i hUp
    refine ⟨List.pairwise_cons.mpr ⟨fun _ _ hc => absurd hc hUp, hPairs⟩, fun ha hMem => ?_⟩
    rcases List.mem_cons.mp hMem with rfl | hMem
    · exact hUp rfl
    · exact hRoot ha hMem

theorem settled_foldl {absolute : Bool} (parts : List Component) {stack : List Component}
    (h : Settled absolute stack) : Settled absolute (parts.foldl (push absolute) stack) := by
  induction parts generalizing stack with
  | nil => exact h
  | cons c rest ih => exact ih (settled_push h c)

/-- What lies on a settled stack is pushed back onto what lies below. -/
theorem push_of_settled {absolute : Bool} {c : Component} {rest : List Component}
    (h : Settled absolute (c :: rest)) : push absolute rest c = c :: rest := by
  obtain ⟨hPairs, hRoot⟩ := h
  unfold push
  split
  · rename_i hUp
    subst hUp
    cases rest with
    | nil =>
      cases absolute with
      | false => rfl
      | true => exact absurd List.mem_cons_self (hRoot rfl)
    | cons top below =>
      have hTop : top = Component.up :=
        (List.pairwise_cons.mp hPairs).1 top List.mem_cons_self rfl
      simp [hTop]
  · rfl

/-- A settled stack is built again from its bottom. -/
theorem foldl_reverse_of_settled {absolute : Bool} {stack : List Component}
    (h : Settled absolute stack) : stack.reverse.foldl (push absolute) [] = stack := by
  induction stack with
  | nil => rfl
  | cons c rest ih =>
    rw [List.reverse_cons, List.foldl_append, ih h.tail]
    exact push_of_settled h

/-- A normalised path is normal. -/
theorem normalize_normalize (p : Path) : p.normalize.normalize = p.normalize := by
  have h : Settled p.isAbsolute (p.parts.foldl (push p.isAbsolute) []) :=
    settled_foldl p.parts (settled_nil _)
  have hParts := foldl_reverse_of_settled h
  show Path.mk p.root ((p.normalize.parts.foldl (push p.isAbsolute) []).reverse) = p.normalize
  rw [show p.normalize.parts = (p.parts.foldl (push p.isAbsolute) []).reverse from rfl, hParts]
  rfl

theorem normalize_absolute (cwd p : Path) : (cwd.absolute p).normalize = cwd.absolute p :=
  normalize_normalize _

theorem normalize_resolveFrom (cwd file specifier : Path) :
    (cwd.resolveFrom file specifier).normalize = cwd.resolveFrom file specifier :=
  normalize_normalize _

/-- Without `..` there is nothing to resolve. -/
theorem normalize_of_not_mem_up {p : Path} (h : Component.up ∉ p.parts) : p.normalize = p := by
  have hUp : Component.up ∉ p.parts.reverse := fun hMem => h (List.mem_reverse.mp hMem)
  have hSettled : Settled p.isAbsolute p.parts.reverse := by
    refine ⟨List.Pairwise.imp_of_mem (R := fun _ _ => True) (fun hAbove _ _ hEq => ?_)
      (List.pairwise_of_forall fun _ _ => trivial), fun _ => hUp⟩
    exact absurd (hEq ▸ hAbove) hUp
  have hParts := foldl_reverse_of_settled hSettled
  rw [List.reverse_reverse] at hParts
  rw [normalize, hParts, List.reverse_reverse]

theorem join_of_relative {p q : Path} (h : q.root = .relative) :
    p.join q = ⟨p.root, p.parts ++ q.parts⟩ := by
  simp [join, isAbsolute, h]

theorem join_join (p q r : Path) : p.join (q.join r) = (p.join q).join r := by
  by_cases hr : r.root = .relative
  · by_cases hq : q.root = .relative
    · have hBoth : (q.join r).root = .relative := by rw [join_of_relative hr, hq]
      rw [join_of_relative hBoth, join_of_relative hr, join_of_relative hr, join_of_relative hq,
        List.append_assoc]
    · have hAbsolute : q.isAbsolute = true := by simp [isAbsolute, hq]
      rw [join_of_isAbsolute (isAbsolute_join hAbsolute), join_of_isAbsolute hAbsolute]
  · have hAbsolute : r.isAbsolute = true := by simp [isAbsolute, hr]
    rw [join_of_isAbsolute hAbsolute, join_of_isAbsolute hAbsolute, join_of_isAbsolute hAbsolute]

theorem not_mem_up_join {p q : Path} (hp : Component.up ∉ p.parts) (hq : Component.up ∉ q.parts) :
    Component.up ∉ (p.join q).parts := by
  unfold join
  split
  · exact hq
  · exact fun hMem => (List.mem_append.mp hMem).elim hp hq

/-- An anchored path starts at its own root, or else at that of the working directory. -/
theorem root_absolute (cwd p : Path) :
    (cwd.absolute p).root = if p.isAbsolute then p.root else cwd.root := by
  show (cwd.join p).root = _
  unfold join
  split <;> rfl

theorem isAbsolute_absolute {cwd : Path} (hCwd : cwd.isAbsolute = true) (p : Path) :
    (cwd.absolute p).isAbsolute = true :=
  isAbsolute_join (q := p) hCwd

/-- Without `..` a path is anchored by joining it to the working directory. -/
theorem absolute_of_not_mem_up {cwd p : Path} (hCwd : Component.up ∉ cwd.parts)
    (hp : Component.up ∉ p.parts) : cwd.absolute p = cwd.join p :=
  normalize_of_not_mem_up (not_mem_up_join hCwd hp)

end Path

end Larder
