import Larder.Proofs.Discovery.Confinement

/-!
# Larder — the first match

A search asks of one candidate after another whether it is a directory, and loads the first that is.
It asks along the candidate as it is written: a link on the way is followed, and `..` leads to the
parent of the directory that was reached. It loads from the anchored form of the candidate, in which
each `..` has taken away the name before it.

As long as no link stands before a `..`, the two lead to one directory, and the first match is what
is loaded. Behind a link they part. Then the pantry that was found is not the one that is loaded, and
where the anchored form leads to no directory the search ends with a failure, though the pantry was
found and though later search paths may have one.

## Results

* `Tree.Real.descend`: lexical reasoning is right where there are no links.
* `arrive_absolute_of_direct`: then the anchored form of a path leads where the path leads.
* `search_cases`: how a search can go.
* `discover_first_match`: what a search comes to.
-/

namespace Larder

-- ---------------------------------------------------------------------------
-- Ways without links
-- ---------------------------------------------------------------------------

namespace Tree

variable {t : Tree} {place mid : Place} {before way : List Component} {c : Component}

/-- The directory that a way leads to, if it leads through directories alone. -/
def descend? (t : Tree) (place : Place) : List Component → Option Place
  | [] => some place
  | c :: rest =>
    if c = Component.up then t.descend? place.dropLast rest
    else if nameLimit < c.text.utf8ByteSize then none
    else
      match t.get? place c with
      | some .directory => t.descend? (place ++ [c]) rest
      | _ => none

/-- A step of such a way: up to the parent, or down to a directory. -/
theorem descend?_cons (h : t.descend? place (c :: way) = some mid) :
    (c = Component.up ∧ t.descend? place.dropLast way = some mid) ∨
    (c ≠ Component.up ∧ c.text.utf8ByteSize ≤ nameLimit ∧ t.get? place c = some .directory ∧
      t.descend? (place ++ [c]) way = some mid) := by
  rw [descend?] at h
  split at h
  · rename_i hUp
    exact .inl ⟨hUp, h⟩
  · rename_i hUp
    split at h
    · cases h
    · rename_i hShort
      split at h
      · rename_i hThere
        exact .inr ⟨hUp, Nat.le_of_not_lt hShort, hThere, h⟩
      · cases h

theorem descend?_down (hUp : c ≠ Component.up) (hShort : c.text.utf8ByteSize ≤ nameLimit)
    (hThere : t.get? place c = some .directory) :
    t.descend? place (c :: way) = t.descend? (place ++ [c]) way := by
  rw [descend?, if_neg hUp, if_neg (Nat.not_lt.mpr hShort), hThere]

theorem descend?_append (place : Place) (before way : List Component) :
    t.descend? place (before ++ way) =
      (t.descend? place before).bind fun mid => t.descend? mid way := by
  induction before generalizing place with
  | nil => rfl
  | cons c rest ih =>
    rw [List.cons_append, descend?, descend?]
    split
    · exact ih _
    · split
      · rfl
      · split
        · exact ih _
        · rfl

/-- A walk goes on from the directory that it comes to without links. -/
theorem walk_of_descend? (h : t.descend? place before = some mid)
    (jump : Place → List Component → Arrival) (way : List Component) :
    t.walk jump place (before ++ way) = t.walk jump mid way := by
  induction before generalizing place with
  | nil =>
    rw [Option.some.inj h]
    rfl
  | cons c rest ih =>
    rw [List.cons_append, walk]
    rcases descend?_cons h with ⟨rfl, hRest⟩ | ⟨hUp, hShort, hThere, hRest⟩
    · rw [if_pos rfl]
      exact ih hRest
    · rw [if_neg hUp, if_neg (Nat.not_lt.mpr hShort), hThere]
      exact ih hRest

theorem follow_of_descend? (h : t.descend? place before = some mid) (links : Nat)
    (way : List Component) : t.follow links place (before ++ way) = t.follow links mid way := by
  cases links with
  | zero => exact walk_of_descend? h _ way
  | succ links => exact walk_of_descend? h _ way

/-- Whether the names of a place lead to it from the root. -/
structure Real (t : Tree) (place : Place) : Prop where
  straight : Component.up ∉ place
  through : t.descend? [] place = some place

theorem real_nil (t : Tree) : t.Real [] := ⟨List.not_mem_nil, rfl⟩

theorem Real.child (h : t.Real place) (hUp : c ≠ Component.up)
    (hShort : c.text.utf8ByteSize ≤ nameLimit) (hThere : t.get? place c = some .directory) :
    t.Real (place ++ [c]) := by
  refine ⟨?_, ?_⟩
  · rw [List.mem_append, List.mem_singleton, not_or]
    exact ⟨h.straight, hUp.symm⟩
  · rw [descend?_append, h.through]
    exact descend?_down hUp hShort hThere

theorem Real.parent (h : t.Real place) : t.Real place.dropLast := by
  rcases List.eq_nil_or_concat place with rfl | ⟨front, c, rfl⟩
  · exact h
  · rw [List.concat_eq_append, List.dropLast_concat]
    obtain ⟨hStraight, hThrough⟩ := h
    rw [List.concat_eq_append, List.mem_append, List.mem_singleton, not_or] at hStraight
    rw [List.concat_eq_append, descend?_append] at hThrough
    obtain ⟨mid, hFront, hLast⟩ := Option.bind_eq_some_iff.mp hThrough
    refine ⟨hStraight.1, ?_⟩
    rcases descend?_cons hLast with ⟨hUp, -⟩ | ⟨-, -, -, hEnd⟩
    · exact absurd hUp.symm hStraight.2
    · rw [hFront, List.append_inj_left' (Option.some.inj hEnd) rfl]

/-- **Lexical reasoning is right where there are no links.** A way through directories alone leads
to the place whose names the stack machine is left with. -/
theorem Real.descend (h : t.Real place) (hWay : t.descend? place way = some mid) :
    t.Real mid ∧ way.foldl (Path.push true) place.reverse = mid.reverse := by
  induction way generalizing place with
  | nil =>
    obtain rfl := Option.some.inj hWay
    exact ⟨h, rfl⟩
  | cons c rest ih =>
    rw [List.foldl_cons]
    rcases descend?_cons hWay with ⟨rfl, hRest⟩ | ⟨hUp, hShort, hThere, hRest⟩
    · have hPop : Path.push true place.reverse Component.up = place.dropLast.reverse := by
        rcases List.eq_nil_or_concat place with rfl | ⟨front, top, rfl⟩
        · rfl
        · have hTop : top ≠ Component.up := fun hEq => h.straight (by simp [hEq])
          simp [Path.push, hTop]
      rw [hPop]
      exact ih h.parent hRest
    · have hPush : Path.push true place.reverse c = (place ++ [c]).reverse := by
        simp [Path.push, hUp]
      rw [hPush]
      exact ih (h.child hUp hShort hThere) hRest

end Tree

-- ---------------------------------------------------------------------------
-- Anchored forms
-- ---------------------------------------------------------------------------

namespace Path

theorem push_sublist (stack : List Component) (c : Component) :
    (push true stack c).Sublist (c :: stack) := by
  unfold push
  split
  · split
    · exact List.nil_sublist _
    · split
      · exact List.Sublist.refl _
      · exact (List.sublist_cons_self _ _).cons _
  · exact List.Sublist.refl _

theorem foldl_push_sublist (way stack : List Component) :
    (way.foldl (push true) stack).Sublist (way.reverse ++ stack) := by
  induction way generalizing stack with
  | nil => exact List.Sublist.refl _
  | cons c rest ih =>
    rw [List.foldl_cons, List.reverse_cons, List.append_assoc]
    exact (ih _).trans ((push_sublist stack c).append_left _)

/-- Lexical reasoning leaves names out and adds none. -/
theorem parts_normalize_sublist {p : Path} (h : p.isAbsolute = true) :
    p.normalize.parts.Sublist p.parts := by
  rw [normalize, h, ← List.reverse_sublist, List.reverse_reverse]
  simpa using foldl_push_sublist p.parts []

theorem isOverlong_normalize {p : Path} (h : p.isAbsolute = true)
    (hShort : Tree.isOverlong p = false) : Tree.isOverlong p.normalize = false := by
  have hBytes := bytesOfWay_le_of_sublist (parts_normalize_sublist h)
  have hLong := utf8ByteSize_toString_add_one h
  have hNormal := utf8ByteSize_toString_add_one (p := p.normalize) h
  rw [Tree.isOverlong, decide_eq_false_iff_not] at hShort ⊢
  rw [root_normalize] at hNormal
  omega

theorem hasNul_normalize {p : Path} (h : p.isAbsolute = true) (hNul : Tree.hasNul p = false) :
    Tree.hasNul p.normalize = false := by
  rw [Tree.hasNul, List.any_eq_false] at hNul ⊢
  exact fun c hMem => hNul c ((parts_normalize_sublist h).mem hMem)

end Path

namespace Discovery

variable {d : Discovery} {name : String} {searchPaths : List Path} {p : Path} {place : Place}

/-- Whether a path, seen from the working directory, leads through directories alone up to its last
`..`. -/
def Direct (d : Discovery) (p : Path) : Prop :=
  ∃ before after, (d.cwd.join p).parts = before ++ after ∧ Component.up ∉ after ∧
    (d.tree.descend? [] before).isSome

/-- Then its anchored form leads where the path leads. -/
theorem arrive_absolute_of_direct (hAnchored : d.Anchored) (hDirect : d.Direct p)
    (hArrives : d.tree.arrive d.cwd p = .directory place) :
    d.tree.arrive d.cwd (d.cwd.absolute p) = .directory place := by
  have hAbsolute : (d.cwd.join p).isAbsolute = true := Path.isAbsolute_join hAnchored.isAbsolute
  -- what is asked of the path holds of its anchored form
  rw [Tree.arrive] at hArrives
  split at hArrives
  · cases hArrives
  rename_i hNul
  split at hArrives
  · cases hArrives
  rename_i hLong
  rw [Bool.not_eq_true] at hNul hLong
  have hSame : d.cwd.join (d.cwd.absolute p) = d.cwd.absolute p :=
    Path.join_of_isAbsolute (Path.isAbsolute_absolute hAnchored.isAbsolute p)
  rw [Tree.arrive, hSame, Path.absolute, Path.hasNul_normalize hAbsolute (hAnchored.hasNul_join hNul),
    Path.isOverlong_normalize hAbsolute hLong, if_neg (by decide), if_neg (by decide)]
  -- and both go on from the same directory by the same way
  obtain ⟨before, after, hParts, hAfter, hBefore⟩ := hDirect
  obtain ⟨mid, hMid⟩ := Option.isSome_iff_exists.mp hBefore
  obtain ⟨hReal, hStack⟩ := (Tree.real_nil d.tree).descend hMid
  have hNormal : (d.cwd.join p).normalize.parts = mid ++ after := by
    rw [Path.normalize, hAbsolute, hParts, List.foldl_append]
    show (after.foldl _ (before.foldl (Path.push true) ([] : Place).reverse)).reverse = _
    rw [hStack, foldl_push_of_not_mem_up hAfter, ← List.reverse_append, List.reverse_reverse]
  rw [hNormal, Tree.follow_of_descend? hReal.through]
  rwa [hParts, Tree.follow_of_descend? hMid] at hArrives

-- ---------------------------------------------------------------------------
-- The first match
-- ---------------------------------------------------------------------------

/-- Whether a search comes to a search path: the candidates of those before it are no
directories. -/
def ComesTo (d : Discovery) (name : String) (searchPaths : List Path) (p : Path) : Prop :=
  ∃ before after, searchPaths = before ++ p :: after ∧
    ∀ q ∈ before, d.isDirectory (candidate name q) = .ok false

/-- Whether the first candidate that is a directory is the one of a search path, and leads to a
place. -/
structure FirstMatch (d : Discovery) (name : String) (searchPaths : List Path) (p : Path)
    (place : Place) : Prop where
  comes : d.ComesTo name searchPaths p
  directory : d.tree.arrive d.cwd (candidate name p) = .directory place

theorem comesTo_head (d : Discovery) (name : String) (p : Path) (rest : List Path) :
    d.ComesTo name (p :: rest) p :=
  ⟨[], rest, rfl, fun _ hMem => absurd hMem List.not_mem_nil⟩

theorem ComesTo.cons {q : Path} (h : d.ComesTo name searchPaths q)
    (hPassed : d.isDirectory (candidate name p) = .ok false) :
    d.ComesTo name (p :: searchPaths) q := by
  obtain ⟨before, after, rfl, hBefore⟩ := h
  exact ⟨p :: before, after, rfl, List.forall_mem_cons.mpr ⟨hPassed, hBefore⟩⟩

theorem isDirectory_cases (d : Discovery) (p : Path) :
    d.isDirectory p = .ok false ∨ d.isDirectory p = .error (.nameTooLong p) ∨
      ∃ place, d.tree.arrive d.cwd p = .directory place := by
  rw [isDirectory]
  cases d.tree.arrive d.cwd p <;> simp

/-- How a search can go: no candidate is a directory, or there is a first match, or the search comes
to a candidate that cannot be asked for. -/
theorem search_cases (d : Discovery) (name : String) (searchPaths : List Path) :
    (∀ p ∈ searchPaths, d.isDirectory (candidate name p) = .ok false) ∨
      (∃ p place, d.FirstMatch name searchPaths p place) ∨
      ∃ p, d.ComesTo name searchPaths p ∧
        d.isDirectory (candidate name p) = .error (.nameTooLong (candidate name p)) := by
  induction searchPaths with
  | nil => exact .inl fun p hMem => absurd hMem List.not_mem_nil
  | cons p rest ih =>
    rcases isDirectory_cases d (candidate name p) with hPassed | hRefused | ⟨place, hPlace⟩
    · rcases ih with hNone | ⟨q, place, hComes, hPlace⟩ | ⟨q, hComes, hRefused⟩
      · exact .inl (List.forall_mem_cons.mpr ⟨hPassed, hNone⟩)
      · exact .inr (.inl ⟨q, place, hComes.cons hPassed, hPlace⟩)
      · exact .inr (.inr ⟨q, hComes.cons hPassed, hRefused⟩)
    · exact .inr (.inr ⟨p, comesTo_head d name p rest, hRefused⟩)
    · exact .inr (.inl ⟨p, place, comesTo_head d name p rest, hPlace⟩)

/-- The first match is loaded, by its anchored form. -/
theorem FirstMatch.result (h : d.FirstMatch name searchPaths p place) :
    (d.discover name searchPaths).result = (d.load name (candidate name p)).result := by
  obtain ⟨⟨before, after, rfl, hBefore⟩, hPlace⟩ := h
  refine discover_of_directory hBefore ?_
  rw [isDirectory, hPlace]

/-- A candidate that cannot be asked for ends the search. -/
theorem ComesTo.refused {fault : Fault} (h : d.ComesTo name searchPaths p)
    (hRefused : d.isDirectory (candidate name p) = .error fault) :
    (d.discover name searchPaths).result = .error fault := by
  obtain ⟨before, after, rfl, hBefore⟩ := h
  exact discover_of_error hBefore hRefused

/--
**What a search comes to.** Without a candidate that is a directory it fails with all the search
paths. If the first candidate that could not be passed by is a directory, it decides, and the search
goes no further: what it comes to is the pantry in the directory that the anchored form of the
candidate leads to, or a failure that names the anchored form if that leads to none. If the candidate
leads through directories alone up to its last `..`, that is the pantry in the directory which was
found. So if the first match is of this kind, where there is one, a search fails for want of the
pantry exactly if no candidate is a directory, and it then reports all the search paths.
-/
theorem discover_first_match (hAnchored : d.Anchored) (name : String) (searchPaths : List Path) :
    ((∀ p ∈ searchPaths, d.isDirectory (candidate name p) = .ok false) →
      (d.discover name searchPaths).result = .error (.pantryNotFound name searchPaths)) ∧
    (∀ p place, d.FirstMatch name searchPaths p place →
      let root := d.cwd.absolute (candidate name p)
      ((d.discover name searchPaths).result = match d.tree.arrive d.cwd root with
        | .directory there => .ok ⟨some name, some root, d.published root there⟩
        | .tooLong => .error (.nameTooLong root)
        | _ => .error (.pantryNotFound name [root])) ∧
      (d.Direct (candidate name p) → (d.discover name searchPaths).result =
        .ok ⟨some name, some root, d.published root place⟩)) ∧
    ((∀ p place, d.FirstMatch name searchPaths p place → d.Direct (candidate name p)) → ∀ searched,
      ((d.discover name searchPaths).result = .error (.pantryNotFound name searched) ↔
        searched = searchPaths ∧
          ∀ p ∈ searchPaths, d.isDirectory (candidate name p) = .ok false)) := by
  have hNone : (∀ p ∈ searchPaths, d.isDirectory (candidate name p) = .ok false) →
      (d.discover name searchPaths).result = .error (.pantryNotFound name searchPaths) :=
    discover_of_none
  have hDirect : ∀ {p place}, d.FirstMatch name searchPaths p place →
      d.Direct (candidate name p) → (d.discover name searchPaths).result =
        .ok ⟨some name, some (d.cwd.absolute (candidate name p)),
          d.published (d.cwd.absolute (candidate name p)) place⟩ := by
    intro p place hFirst hPath
    rw [hFirst.result]
    exact load_of_directory (arrive_absolute_of_direct hAnchored hPath hFirst.directory)
  refine ⟨hNone, fun p place hFirst => ⟨?_, hDirect hFirst⟩, fun hPaths searched => ⟨?_, ?_⟩⟩
  · rw [hFirst.result]
    simp only [load]
    cases d.tree.arrive d.cwd (d.cwd.absolute (candidate name p)) <;> rfl
  · intro hFailed
    rcases search_cases d name searchPaths with
      hLacks | ⟨p, place, hFirst⟩ | ⟨p, hComes, hRefused⟩
    · rw [hNone hLacks] at hFailed
      obtain ⟨-, hSearched⟩ := Fault.pantryNotFound.inj (Except.error.inj hFailed)
      exact ⟨hSearched.symm, hLacks⟩
    · rw [hDirect hFirst (hPaths p place hFirst)] at hFailed
      cases hFailed
    · rw [hComes.refused hRefused] at hFailed
      cases hFailed
  · rintro ⟨rfl, hLacks⟩
    exact hNone hLacks

/-- A tree in which a link stands before a `..`: `/l/..` leads to `/a`, and there is the pantry. -/
def crossing : Discovery where
  tree := Tree.ofPaths [Path.ofString "/a/b"] [Path.ofString "/a/p/i/ingredient.md"]
    [(Path.ofString "/l", Path.ofString "/a/b")]
  cwd := Path.ofString "/"
  fileNames := defaultFileNames

/-- The pantry is found behind the link, and the search fails. By a direct way it is found in the
same directory and loaded from there. -/
theorem discover_crossing :
    (crossing.FirstMatch "p" [Path.ofString "/l/.."] (Path.ofString "/l/..")
        (Path.ofString "a/p").parts ∧
      (crossing.discover "p" [Path.ofString "/l/.."]).result =
        .error (.pantryNotFound "p" [Path.ofString "/p"])) ∧
    crossing.FirstMatch "p" [Path.ofString "/a/b/.."] (Path.ofString "/a/b/..")
        (Path.ofString "a/p").parts ∧
      (crossing.discover "p" [Path.ofString "/a/b/.."]).result =
        .ok ⟨some "p", some (Path.ofString "/a/p"),
          crossing.published (Path.ofString "/a/p") (Path.ofString "a/p").parts⟩ := by
  have hAnchored : crossing.Anchored := ⟨rfl, by decide +kernel, by decide +kernel⟩
  have hFirst : ∀ path : Path, crossing.tree.arrive crossing.cwd (candidate "p" path) =
      .directory (Path.ofString "a/p").parts →
      crossing.FirstMatch "p" [path] path (Path.ofString "a/p").parts :=
    fun path hPlace => ⟨comesTo_head crossing "p" path [], hPlace⟩
  have hLinked := hFirst (Path.ofString "/l/..") (by decide +kernel)
  have hStraight := hFirst (Path.ofString "/a/b/..") (by decide +kernel)
  have hDirect : crossing.Direct (candidate "p" (Path.ofString "/a/b/..")) :=
    ⟨(Path.ofString "/a/b/..").parts, (Path.ofString "p").parts, by decide +kernel,
      by decide +kernel, by decide +kernel⟩
  refine ⟨⟨hLinked, ?_⟩, hStraight, ?_⟩
  · have hGone : crossing.tree.arrive crossing.cwd
        (crossing.cwd.absolute (candidate "p" (Path.ofString "/l/.."))) = .absent := by
      decide +kernel
    have hComes := ((discover_first_match hAnchored _ _).2.1 _ _ hLinked).1
    rw [hGone] at hComes
    refine hComes.trans ?_
    rw [show crossing.cwd.absolute (candidate "p" (Path.ofString "/l/..")) = Path.ofString "/p" by
      decide +kernel]
  · have hComes := ((discover_first_match hAnchored _ _).2.1 _ _ hStraight).2 hDirect
    rw [show crossing.cwd.absolute (candidate "p" (Path.ofString "/a/b/..")) =
      Path.ofString "/a/p" by decide +kernel] at hComes
    exact hComes

end Discovery

end Larder
