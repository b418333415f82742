import Larder.Proofs.Importer.Routing
import Mathlib.Data.List.Count

/-!
# Larder — a cache is one small machine for each name

The cache keeps its pantries, slots, locations and discoveries in four containers that all names
share, and it numbers the discoveries through. Seen from a single name this does not matter. What
the cache keeps for the name is its *part*: the pantry, the place, the discoveries of the name in
their order, and which of them holds the slot. Whatever happens to a name, the answer and the part
afterwards can be told from the part before, and the parts of all other names stay as they are.

What happens is said in such terms too: a discovery is referred to by its number among those of its
name.

## Results

* `happen?_cases`: the changes that anything can make to a cache.
* `part_happen?`: what happens to a name happens to its part, as the part alone says.
* `part_of_ne`: nothing happens to the other names.
-/

namespace Larder

-- ---------------------------------------------------------------------------
-- Elements of one key
-- ---------------------------------------------------------------------------

section Keyed

variable {α : Type} {key : α → String}

/-- The elements of one key are found among all of them. -/
theorem getElem?_idxOfNth_map (key : α → String) (l : List α) (name : String) (k : Nat) :
    l[(l.map key).idxOfNth name k]? = (l.filter fun a => key a = name)[k]? := by
  induction l generalizing k with
  | nil => rfl
  | cons a l ih =>
    by_cases hKey : key a = name
    · cases k with
      | zero => simp [hKey]
      | succ k => simp [hKey, ih]
    · have hNot : (key a == name) = false := by simpa using hKey
      rw [List.map_cons, List.idxOfNth_cons_of_not_beq hNot, List.getElem?_cons_succ, ih,
        List.filter_cons_of_neg (by simpa using hKey)]

/-- Changing one of them among all is changing it among those of its key. -/
theorem filter_modify_idxOfNth {change : α → α} (hChange : ∀ a, key (change a) = key a)
    (l : List α) (name : String) (k : Nat) :
    (l.modify ((l.map key).idxOfNth name k) change).filter (fun a => key a = name) =
      (l.filter fun a => key a = name).modify k change := by
  induction l generalizing k with
  | nil => simp
  | cons a l ih =>
    by_cases hKey : key a = name
    · cases k with
      | zero => simp [hKey, hChange]
      | succ k => simp [hKey, ih]
    · have hNot : (key a == name) = false := by simpa using hKey
      rw [List.map_cons, List.idxOfNth_cons_of_not_beq hNot, List.modify_succ_cons,
        List.filter_cons_of_neg (by simpa using hKey), ih,
        List.filter_cons_of_neg (by simpa using hKey)]

/-- It does not change the elements of another key. -/
theorem filter_modify_of_ne {change : α → α} (hChange : ∀ a, key (change a) = key a) {l : List α}
    {i : Nat} {a : α} (hGet : l[i]? = some a) {name : String} (hKey : key a ≠ name) :
    (l.modify i change).filter (fun a => key a = name) = l.filter fun a => key a = name := by
  induction l generalizing i with
  | nil => simp at hGet
  | cons b l ih =>
    cases i with
    | zero =>
      obtain rfl : b = a := by simpa using hGet
      simp [hKey, hChange]
    | succ i =>
      rw [List.modify_succ_cons, List.filter_cons, List.filter_cons, ih hGet]

theorem map_modify_of_key (key : α → String) {change : α → α}
    (hChange : ∀ a, key (change a) = key a) (l : List α) (i : Nat) :
    (l.modify i change).map key = l.map key := by
  refine List.ext_getElem? fun j => ?_
  rw [List.getElem?_map, List.getElem?_map, List.getElem?_modify, Option.map_eq_map,
    Option.map_map]
  congr 1
  funext a
  rw [Function.comp]
  split
  · exact hChange a
  · rfl

end Keyed

-- ---------------------------------------------------------------------------
-- Vocabulary
-- ---------------------------------------------------------------------------

/-- Something that happens to a name in a cache. The discoveries are numbered by name. -/
inductive Deed where
  /-- The pantry is asked for. -/
  | ask
  /-- Someone waits for the promise of a discovery. -/
  | wait (number : Nat) (w : Waiter)
  /-- The promise of a discovery is cancelled. -/
  | cancel (number : Nat)
  /-- The call of a discovery is made. -/
  | call (number : Nat)
  /-- The call of a discovery comes back. -/
  | comeBack (number : Nat) (landing : Landing)
  /-- What the call of a discovery came back with takes effect. -/
  | land (number : Nat) (returned : Returned)

/-- Something that happens, and the name it happens to. -/
structure Incident where
  name : String
  deed : Deed

/-- What is seen of an incident from outside. -/
inductive Effect where
  /-- Whoever asks is answered. -/
  | answered (requested : Requested)
  /-- Those who wait are told. -/
  | told (settlement : Settlement) (waiters : List Waiter)
  /-- A call is made. -/
  | called (call : Call)
  /-- Nothing. -/
  | unseen

/-- The answer to a request with its discovery numbered in another way. -/
def Requested.renumber (number : FlightId → Nat) : Requested → Requested
  | .ready pantry => .ready pantry
  | .joined i => .joined (number i)
  | .started i => .started (number i)

/-- Whether the end of a discovery can take effect with what came back: at once when its call is
answered, or later with what it came back with. -/
def Flight.canLand (f : Flight) (returned : Returned) : Bool :=
  match f.stage with
  | .flying => true
  | .landing landing => landing.returned = returned
  | _ => false

/-- Those who wait for the promise of a discovery. -/
def Flight.waiters (f : Flight) : List Waiter :=
  match f.promise with
  | .waiting ws => ws
  | .settled _ => []

/-- The name that a discovery is for. -/
def Flight.name (f : Flight) : String := f.call.name

namespace Cache

/-- The names of all discoveries, in the order of their starts. -/
def names (c : Cache) : List String := c.flights.map Flight.name

/-- How many discoveries of a name were started before one. -/
def ordinal (c : Cache) (name : String) (i : FlightId) : Nat := c.names.countBefore name i

/-- The discovery of a name before which so many were started. -/
def numbered (c : Cache) (name : String) (k : Nat) : FlightId := c.names.idxOfNth name k

/-- What an incident makes of a cache, and what is seen of it; nothing, if it cannot happen. -/
def happen? (searchPaths : List Path) (c : Cache) (x : Incident) : Option (Effect × Cache) :=
  match x.deed with
  | .ask =>
    let r := c.request searchPaths x.name
    some (.answered (r.2.renumber (c.ordinal x.name)), r.1)
  | .wait k w =>
    let i := c.numbered x.name k
    match c.promise? i with
    | some (.waiting ws) => some (.unseen, c.setPromise i (.waiting (ws ++ [w])))
    | some (.settled settlement) => some (.told settlement [w], c)
    | none => none
  | .cancel k =>
    let i := c.numbered x.name k
    match c.promise? i with
    | some _ => some (.told .cancelled (c.waiters i), c.settle i .cancelled)
    | none => none
  | .call k =>
    let i := c.numbered x.name k
    match c.flights[i]? with
    | some ⟨call, .scheduled, _⟩ => some (.called call, c.setStage i .flying)
    | _ => none
  | .comeBack k landing =>
    let i := c.numbered x.name k
    match c.flights[i]? with
    | some ⟨_, .flying, _⟩ => some (.unseen, c.setStage i (.landing landing))
    | _ => none
  | .land k returned =>
    let i := c.numbered x.name k
    match c.flights[i]? with
    | some f =>
      if f.canLand returned then
        some (.told (.ofResult (Larder.conclude x.name returned)) (c.waiters i),
          c.land i x.name returned)
      else none
    | none => none

end Cache

/-- What a cache keeps for one name. -/
@[ext]
structure Part where
  /-- The resolved pantry. -/
  pantry : Option Pantry
  /-- Where the pantry is to be loaded from, if that is known. -/
  place : Option Path
  /-- The number of the discovery in the slot. -/
  slot : Option Nat
  /-- The discoveries, in the order of their starts. -/
  discoveries : List Flight

/-- The part of a name. -/
def Cache.part (c : Cache) (name : String) : Part where
  pantry := c.get? name
  place := c.locations.get? name
  slot := (c.pending.get? name).map (c.ordinal name)
  discoveries := c.flights.filter fun f => f.name = name

namespace Part

/-- The part with one discovery changed. -/
def change (p : Part) (k : Nat) (change : Flight → Flight) : Part :=
  { p with discoveries := p.discoveries.modify k change }

/-- The discovery in the slot, if its promise was not cancelled. -/
def joinable? (p : Part) : Option Nat :=
  p.slot.filter fun k => !(p.discoveries[k]?).any Flight.cancelled

/-- The part with a new discovery in the slot. -/
def start (searchPaths : List Path) (name : String) (p : Part) : Part :=
  { p with
    slot := some p.discoveries.length
    discoveries := p.discoveries ++ [⟨⟨name, (p.place.map Target.location).getD (.search searchPaths)⟩,
      .scheduled, .waiting []⟩] }

/-- The part after the end of a discovery. -/
def land (name : String) (p : Part) (k : Nat) (returned : Returned) : Part where
  pantry := (conclude name returned).toOption.or p.pantry
  place := if (conclude name returned).toOption.isSome then none else p.place
  slot := if p.slot = some k then none else p.slot
  discoveries := p.discoveries.modify k fun f =>
    ({ f with stage := .landed returned } : Flight).settledWith
      (.ofResult (conclude name returned))

/-- What a deed makes of the part of a name, and what is seen of it; nothing, if it cannot
happen. -/
def happen? (searchPaths : List Path) (name : String) (p : Part) : Deed → Option (Effect × Part)
  | .ask =>
    match p.pantry, p.joinable? with
    | some pantry, _ => some (.answered (.ready pantry), p)
    | none, some k => some (.answered (.joined k), p)
    | none, none => some (.answered (.started p.discoveries.length), p.start searchPaths name)
  | .wait k w =>
    match p.discoveries[k]? with
    | some ⟨_, _, .waiting ws⟩ =>
      some (.unseen, p.change k fun f => { f with promise := .waiting (ws ++ [w]) })
    | some ⟨_, _, .settled settlement⟩ => some (.told settlement [w], p)
    | none => none
  | .cancel k =>
    match p.discoveries[k]? with
    | some f => some (.told .cancelled f.waiters, p.change k (·.settledWith .cancelled))
    | none => none
  | .call k =>
    match p.discoveries[k]? with
    | some ⟨call, .scheduled, _⟩ =>
      some (.called call, p.change k fun f => { f with stage := .flying })
    | _ => none
  | .comeBack k landing =>
    match p.discoveries[k]? with
    | some ⟨_, .flying, _⟩ =>
      some (.unseen, p.change k fun f => { f with stage := .landing landing })
    | _ => none
  | .land k returned =>
    match p.discoveries[k]? with
    | some f =>
      if f.canLand returned then
        some (.told (.ofResult (conclude name returned)) f.waiters, p.land name k returned)
      else none
    | none => none

end Part

namespace Cache

variable {searchPaths : List Path} {c c' : Cache} {x : Incident} {e : Effect} {name other : String}
  {i j : FlightId} {k : Nat} {f : Flight} {change : Flight → Flight} {returned : Returned}

/-- Whether every slot holds a discovery of its name. -/
def Slotted (c : Cache) : Prop :=
  ∀ {name i}, c.pending.get? name = some i → ∃ f, c.Serves name i f

-- ---------------------------------------------------------------------------
-- Numbers
-- ---------------------------------------------------------------------------

theorem name_eq_of_call {f g : Flight} (h : g.call = f.call) : g.name = f.name :=
  congrArg Call.name h

/-- Its end does not change the name of a discovery. -/
theorem name_landed (f : Flight) (returned : Returned) (settlement : Settlement) :
    (({ f with stage := .landed returned } : Flight).settledWith settlement).name = f.name :=
  name_eq_of_call (Flight.call_settledWith { f with stage := .landed returned } settlement)

/-- The numbers stay, where a discovery is changed or ends. -/
theorem ordinal_modifyFlight (hChange : ∀ f, (change f).call = f.call) (c : Cache)
    (i : FlightId) : (c.modifyFlight i change).ordinal = c.ordinal := by
  have hNames : (c.modifyFlight i change).names = c.names :=
    map_modify_of_key Flight.name (fun f => name_eq_of_call (hChange f)) c.flights i
  funext name j
  rw [ordinal, hNames, ordinal]

theorem ordinal_land (c : Cache) (i : FlightId) (name : String) (returned : Returned) :
    (c.land i name returned).ordinal = c.ordinal := by
  have hNames : (c.land i name returned).names = c.names := by
    rw [names, flights_land]
    exact map_modify_of_key Flight.name (fun f => name_landed f returned _) c.flights i
  funext other j
  rw [ordinal, hNames, ordinal]

theorem names_start (c : Cache) (searchPaths : List Path) (name : String) :
    (c.start searchPaths name).names = c.names ++ [name] :=
  List.map_append

/-- The discoveries of a name are found by their numbers. -/
theorem getElem?_numbered (c : Cache) (name : String) (k : Nat) :
    c.flights[c.numbered name k]? = (c.part name).discoveries[k]? :=
  getElem?_idxOfNth_map _ _ _ _

theorem promise?_numbered (c : Cache) (name : String) (k : Nat) :
    c.promise? (c.numbered name k) = ((c.part name).discoveries[k]?).map Flight.promise := by
  rw [promise?, getElem?_numbered]

theorem serves_numbered (h : (c.part name).discoveries[k]? = some f) :
    c.Serves name (c.numbered name k) f := by
  refine ⟨(c.getElem?_numbered name k).trans h, ?_⟩
  have hMem : f ∈ c.flights.filter fun f => f.name = name := List.mem_of_getElem? h
  exact of_decide_eq_true (List.mem_filter.mp hMem).2

theorem numbered_ordinal (h : c.Serves name i f) : c.numbered name (c.ordinal name i) = i := by
  have hName : c.names[i]? = some name := by
    rw [names, List.getElem?_map, h.1, Option.map_some]
    exact congrArg some h.2
  obtain ⟨hLt, hGet⟩ := List.getElem?_eq_some_iff.mp hName
  exact List.idxOfNth_countBefore_of_lt_length_of_beq (h := hLt) (by simp [hGet])

theorem getElem?_ordinal (h : c.Serves name i f) :
    (c.part name).discoveries[c.ordinal name i]? = some f := by
  rw [← getElem?_numbered, numbered_ordinal h, h.1]

theorem count_names (c : Cache) (name : String) :
    c.names.count name = (c.part name).discoveries.length := by
  show (c.flights.map Flight.name).count name = (c.flights.filter _).length
  rw [List.count, List.countP_map, List.countP_eq_length_filter]
  congr 2

theorem ordinal_numbered (h : (c.part name).discoveries[k]? = some f) :
    c.ordinal name (c.numbered name k) = k := by
  refine List.countBefore_idxOfNth_of_lt_count ?_
  rw [count_names]
  exact (List.getElem?_eq_some_iff.mp h).1

-- ---------------------------------------------------------------------------
-- The three kinds of changes
-- ---------------------------------------------------------------------------

/-- A change of a discovery changes the part of its name. -/
theorem part_modifyFlight (hChange : ∀ f, (change f).call = f.call) (c : Cache) (name : String)
    (k : Nat) :
    (c.modifyFlight (c.numbered name k) change).part name = (c.part name).change k change := by
  have hSlot : (c.modifyFlight (c.numbered name k) change).ordinal name = c.ordinal name := by
    rw [ordinal_modifyFlight hChange]
  exact Part.ext rfl rfl (congrArg (Option.map · _) hSlot)
    (filter_modify_idxOfNth (fun f => name_eq_of_call (hChange f)) c.flights name k)

theorem part_setStage (c : Cache) (name : String) (k : Nat) (stage : Stage) :
    (c.setStage (c.numbered name k) stage).part name =
      (c.part name).change k fun f => { f with stage := stage } := by
  refine part_modifyFlight ?_ c name k
  exact fun _ => rfl

theorem part_setPromise (c : Cache) (name : String) (k : Nat) (promise : Promise) :
    (c.setPromise (c.numbered name k) promise).part name =
      (c.part name).change k fun f => { f with promise := promise } := by
  refine part_modifyFlight ?_ c name k
  exact fun _ => rfl

theorem part_settle (c : Cache) (name : String) (k : Nat) (settlement : Settlement) :
    (c.settle (c.numbered name k) settlement).part name =
      (c.part name).change k (·.settledWith settlement) := by
  rw [settle_eq]
  exact part_modifyFlight (fun f => Flight.call_settledWith f _) c name k

/-- It leaves the other parts alone. -/
theorem part_modifyFlight_of_ne (hChange : ∀ f, (change f).call = f.call)
    (h : c.Serves name i f) (hOther : other ≠ name) :
    (c.modifyFlight i change).part other = c.part other := by
  have hSlot : (c.modifyFlight i change).ordinal other = c.ordinal other := by
    rw [ordinal_modifyFlight hChange]
  have hName : f.name ≠ other := fun hEq => hOther (hEq.symm.trans h.2)
  exact Part.ext rfl rfl (congrArg (Option.map · _) hSlot)
    (filter_modify_of_ne (fun f => name_eq_of_call (hChange f)) h.1 hName)

theorem length_names (c : Cache) : c.names.length = c.flights.length := List.length_map _

theorem ordinal_start (hLe : i ≤ c.flights.length) (other : String) :
    (c.start searchPaths name).ordinal other i = c.ordinal other i := by
  rw [ordinal, ordinal, names_start, List.countBefore_eq_count_take, List.countBefore_eq_count_take,
    List.take_append_of_le_length (by rwa [length_names])]

theorem ordinal_length (c : Cache) (name : String) :
    c.ordinal name c.flights.length = (c.part name).discoveries.length := by
  rw [← count_names]
  exact List.countBefore_of_ge_length (Nat.le_of_eq c.length_names)

theorem targetOf_eq (c : Cache) (searchPaths : List Path) (name : String) :
    c.targetOf searchPaths name =
      ((c.locations.get? name).map Target.location).getD (.search searchPaths) := by
  unfold targetOf
  cases c.locations.get? name <;> rfl

/-- The start of a discovery is a start in the part of its name. -/
theorem part_start (c : Cache) (searchPaths : List Path) (name : String) :
    (c.start searchPaths name).part name = (c.part name).start searchPaths name := by
  refine Part.ext rfl rfl ?_ ?_
  · show ((c.start searchPaths name).pending.get? name).map _ = some _
    rw [pending_start, Option.map_some, ordinal_start (Nat.le_refl _), ordinal_length]
  · have hNew : (c.newFlight searchPaths name).name = name := rfl
    show (c.flights ++ [c.newFlight searchPaths name]).filter _ = _
    rw [List.filter_append, List.filter_cons_of_pos (by simpa using hNew), newFlight, targetOf_eq]
    rfl

/-- It leaves the other parts alone. -/
theorem part_start_of_ne (hSlotted : c.Slotted) (hOther : other ≠ name) :
    (c.start searchPaths name).part other = c.part other := by
  refine Part.ext rfl rfl ?_ ?_
  · have hSlot : (c.start searchPaths name).pending.get? other = c.pending.get? other :=
      Registry.get?_insert_of_ne _ _ hOther
    show ((c.start searchPaths name).pending.get? other).map _ = (c.pending.get? other).map _
    rw [hSlot]
    refine Option.map_congr fun i hi => ?_
    obtain ⟨f, hServes⟩ := hSlotted hi
    exact ordinal_start (Nat.le_of_lt (index_lt hServes)) other
  · have hNew : (c.newFlight searchPaths name).name ≠ other := Ne.symm hOther
    show (c.flights ++ [c.newFlight searchPaths name]).filter _ = c.flights.filter _
    rw [List.filter_append, List.filter_cons_of_neg (by simpa using hNew), List.filter_nil,
      List.append_nil]

/-- Which discovery holds the slot is seen from its number. -/
theorem slot_eq_some_iff (hSlotted : c.Slotted) (h : (c.part name).discoveries[k]? = some f) :
    (c.part name).slot = some k ↔ c.pending.get? name = some (c.numbered name k) := by
  show (c.pending.get? name).map (c.ordinal name) = some k ↔ _
  rw [Option.map_eq_some_iff]
  constructor
  · rintro ⟨i, hSlot, rfl⟩
    obtain ⟨g, hServes⟩ := hSlotted hSlot
    rw [numbered_ordinal hServes, hSlot]
  · intro hSlot
    exact ⟨_, hSlot, ordinal_numbered h⟩

/-- The end of a discovery is an end in the part of its name. -/
theorem part_land (hSlotted : c.Slotted) (h : (c.part name).discoveries[k]? = some f)
    (returned : Returned) :
    (c.land (c.numbered name k) name returned).part name = (c.part name).land name k returned := by
  refine Part.ext ?_ ?_ ?_ ?_
  · show (c.land (c.numbered name k) name returned).get? name = _
    rw [get?_land, Part.land]
    cases Larder.conclude name returned with
    | ok pantry => simp [Except.toOption]
    | error fault => rfl
  · show (c.land (c.numbered name k) name returned).locations.get? name = _
    rw [Fleet.locations_land, Part.land]
    cases Larder.conclude name returned with
    | ok pantry => exact Registry.get?_erase_self _ _
    | error fault => rfl
  · show ((c.land (c.numbered name k) name returned).pending.get? name).map _ =
      if (c.part name).slot = some k then none else (c.part name).slot
    rw [ordinal_land, pending_land]
    by_cases hSlot : c.pending.get? name = some (c.numbered name k)
    · rw [if_pos hSlot, if_pos ((slot_eq_some_iff hSlotted h).mpr hSlot), Registry.get?_erase_self,
        Option.map_none]
    · rw [if_neg hSlot, if_neg (mt (slot_eq_some_iff hSlotted h).mp hSlot)]
      rfl
  · show (c.land (c.numbered name k) name returned).flights.filter _ = _
    rw [flights_land]
    exact filter_modify_idxOfNth (fun f => name_landed f returned _) c.flights name k

/-- It leaves the other parts alone. -/
theorem part_land_of_ne (h : c.Serves name i f) (hOther : other ≠ name) (returned : Returned) :
    (c.land i name returned).part other = c.part other := by
  refine Part.ext ?_ ?_ ?_ ?_
  · show (c.land i name returned).get? other = c.get? other
    rw [get?_land]
    cases Larder.conclude name returned with
    | ok pantry => exact if_neg hOther
    | error fault => rfl
  · show (c.land i name returned).locations.get? other = c.locations.get? other
    rw [Fleet.locations_land]
    cases Larder.conclude name returned with
    | ok pantry => exact Registry.get?_erase_of_ne _ hOther
    | error fault => rfl
  · show ((c.land i name returned).pending.get? other).map _ = (c.pending.get? other).map _
    rw [ordinal_land, pending_land]
    split
    · rw [Registry.get?_erase_of_ne _ hOther]
    · rfl
  · show (c.land i name returned).flights.filter _ = c.flights.filter _
    have hName : f.name ≠ other := fun hEq => hOther (hEq.symm.trans h.2)
    rw [flights_land]
    exact filter_modify_of_ne (fun f => name_landed f returned _) h.1 hName

-- ---------------------------------------------------------------------------
-- Incidents
-- ---------------------------------------------------------------------------

theorem discovery_of_promise {promise : Promise}
    (h : c.promise? (c.numbered name k) = some promise) :
    ∃ f, (c.part name).discoveries[k]? = some f ∧ f.promise = promise := by
  rw [promise?_numbered] at h
  exact Option.map_eq_some_iff.mp h

/-- What happens to a name leaves the cache as it is, starts a discovery, or changes or ends one of
the name. -/
theorem happen?_cases (h : c.happen? searchPaths x = some (e, c')) :
    c' = c ∨ c' = c.start searchPaths x.name ∨
    (∃ k f change, (c.part x.name).discoveries[k]? = some f ∧
      (∀ g : Flight, (change g).call = g.call) ∧
      c' = c.modifyFlight (c.numbered x.name k) change) ∨
    ∃ k f returned, (c.part x.name).discoveries[k]? = some f ∧
      c' = c.land (c.numbered x.name k) x.name returned := by
  obtain ⟨name, deed⟩ := x
  cases deed with
  | ask =>
    obtain ⟨_, rfl⟩ := Prod.mk.inj (Option.some.inj h)
    simp only [request]
    cases c.get? name with
    | some pantry => exact Or.inl rfl
    | none =>
      cases c.joinable? name with
      | some i => exact Or.inl rfl
      | none => exact Or.inr (Or.inl rfl)
  | wait k w =>
    simp only [happen?] at h
    split at h
    · rename_i ws hPromise
      obtain ⟨f, hGet, _⟩ := discovery_of_promise hPromise
      obtain ⟨_, rfl⟩ := Prod.mk.inj (Option.some.inj h)
      exact Or.inr (Or.inr (Or.inl ⟨k, f, fun g => { g with promise := .waiting (ws ++ [w]) }, hGet,
        fun _ => rfl, rfl⟩))
    · exact Or.inl (Prod.mk.inj (Option.some.inj h)).2.symm
    · exact absurd h (by simp)
  | cancel k =>
    simp only [happen?] at h
    split at h
    · rename_i hPromise
      obtain ⟨f, hGet, _⟩ := discovery_of_promise hPromise
      obtain ⟨_, rfl⟩ := Prod.mk.inj (Option.some.inj h)
      exact Or.inr (Or.inr (Or.inl ⟨k, f, (·.settledWith .cancelled), hGet,
        fun g => Flight.call_settledWith g _, settle_eq _ _ _⟩))
    · exact absurd h (by simp)
  | call k =>
    simp only [happen?] at h
    split at h
    · rename_i call promise hFlight
      rw [getElem?_numbered] at hFlight
      obtain ⟨_, rfl⟩ := Prod.mk.inj (Option.some.inj h)
      exact Or.inr (Or.inr (Or.inl ⟨k, _, fun g => { g with stage := .flying }, hFlight,
        fun _ => rfl, rfl⟩))
    · exact absurd h (by simp)
  | comeBack k landing =>
    simp only [happen?] at h
    split at h
    · rename_i call promise hFlight
      rw [getElem?_numbered] at hFlight
      obtain ⟨_, rfl⟩ := Prod.mk.inj (Option.some.inj h)
      exact Or.inr (Or.inr (Or.inl ⟨k, _, fun g => { g with stage := .landing landing }, hFlight,
        fun _ => rfl, rfl⟩))
    · exact absurd h (by simp)
  | land k returned =>
    simp only [happen?] at h
    split at h
    · rename_i f hFlight
      rw [getElem?_numbered] at hFlight
      split at h
      · obtain ⟨_, rfl⟩ := Prod.mk.inj (Option.some.inj h)
        exact Or.inr (Or.inr (Or.inr ⟨k, f, returned, hFlight, rfl⟩))
      · exact absurd h (by simp)
    · exact absurd h (by simp)

/-- Nothing happens to the other names. -/
theorem part_of_ne (hSlotted : c.Slotted) (h : c.happen? searchPaths x = some (e, c'))
    (hOther : other ≠ x.name) : c'.part other = c.part other := by
  rcases happen?_cases h with rfl | rfl | ⟨k, f, change, hGet, hChange, rfl⟩ |
    ⟨k, f, returned, hGet, rfl⟩
  · rfl
  · exact part_start_of_ne hSlotted hOther
  · exact part_modifyFlight_of_ne hChange (serves_numbered hGet) hOther
  · exact part_land_of_ne (serves_numbered hGet) hOther returned

theorem Slotted.modifyFlight (h : c.Slotted) (hChange : ∀ f, (change f).call = f.call)
    (i : FlightId) : (c.modifyFlight i change).Slotted := by
  intro name j hSlot
  obtain ⟨f, hFlight, hName⟩ := h hSlot
  refine ⟨if i = j then change f else f, ?_, ?_⟩
  · rw [getElem?_modifyFlight, hFlight, Option.map_some]
  · split
    · exact (name_eq_of_call (hChange f)).trans hName
    · exact hName

theorem Slotted.start (h : c.Slotted) (searchPaths : List Path) (name : String) :
    (c.start searchPaths name).Slotted := by
  intro other j hSlot
  by_cases hOther : other = name
  · subst hOther
    obtain rfl := Option.some.inj ((pending_start c searchPaths other).symm.trans hSlot)
    exact ⟨_, serves_start_iff.mpr (Or.inr ⟨rfl, rfl, rfl⟩)⟩
  · have hOld : c.pending.get? other = some j :=
      (Registry.get?_insert_of_ne _ _ hOther).symm.trans hSlot
    obtain ⟨f, hServes⟩ := h hOld
    exact ⟨f, serves_start_iff.mpr (Or.inl hServes)⟩

theorem Slotted.land (h : c.Slotted) (hServes : c.Serves name i f) (returned : Returned) :
    (c.land i name returned).Slotted := by
  intro other j hSlot
  have hOld : c.pending.get? other = some j := by
    rw [pending_land] at hSlot
    split at hSlot
    · rw [Registry.get?_erase] at hSlot
      split at hSlot
      · exact absurd hSlot (by simp)
      · exact hSlot
    · exact hSlot
  obtain ⟨g, hOther⟩ := h hOld
  exact ⟨_, serves_land hServes hOther⟩

/-- Whatever happens, every slot holds a discovery of its name. -/
theorem Slotted.happen (hSlotted : c.Slotted) (h : c.happen? searchPaths x = some (e, c')) :
    c'.Slotted := by
  rcases happen?_cases h with rfl | rfl | ⟨k, f, change, hGet, hChange, rfl⟩ |
    ⟨k, f, returned, hGet, rfl⟩
  · exact hSlotted
  · exact hSlotted.start _ _
  · exact hSlotted.modifyFlight hChange _
  · exact hSlotted.land (serves_numbered hGet) returned

theorem Coherent.slotted (h : c.Coherent) : c.Slotted := fun hSlot => by
  obtain ⟨f, hServes, _⟩ := h.slot hSlot
  exact ⟨f, hServes⟩

-- ---------------------------------------------------------------------------
-- The part of a name
-- ---------------------------------------------------------------------------

/-- Which discovery can be joined is seen from the part of the name. -/
theorem joinable?_part (hSlotted : c.Slotted) (name : String) :
    (c.part name).joinable? = (c.joinable? name).map (c.ordinal name) := by
  unfold joinable? Part.joinable?
  show ((c.pending.get? name).map (c.ordinal name)).filter _ = _
  cases hSlot : c.pending.get? name with
  | none => rfl
  | some i =>
    obtain ⟨f, hServes⟩ := hSlotted hSlot
    have hPromise : c.promise? i = some f.promise := by rw [promise?, hServes.1, Option.map_some]
    simp only [Option.map_some, Option.filter_some, getElem?_ordinal hServes, Option.any_some,
      hPromise]
    cases hCancelled : f.cancelled with
    | true => simp [Flight.cancelled_iff.mp hCancelled]
    | false =>
      have hNot : f.promise ≠ .settled .cancelled := fun hSettled => by
        simp [Flight.cancelled_iff.mpr hSettled] at hCancelled
      simp only [Bool.not_false, if_true]
      split
      · rename_i hSettled
        exact absurd (Option.some.inj hSettled) hNot
      · rfl

theorem waiters_numbered (h : (c.part name).discoveries[k]? = some f) :
    c.waiters (c.numbered name k) = f.waiters := by
  unfold waiters
  rw [promise?_numbered, h, Option.map_some, Flight.waiters]
  cases f.promise <;> rfl

/-- **What happens to a name happens to its part**, and the part alone says what it is. -/
theorem part_happen? (hSlotted : c.Slotted) (name : String) (deed : Deed) :
    (c.happen? searchPaths ⟨name, deed⟩).map (Prod.map id (·.part name)) =
      (c.part name).happen? searchPaths name deed := by
  cases deed with
  | ask =>
    have hPantry : (c.part name).pantry = c.get? name := rfl
    simp only [happen?, Part.happen?, request, hPantry, joinable?_part hSlotted]
    cases c.get? name with
    | some pantry => rfl
    | none =>
      cases c.joinable? name with
      | some i => rfl
      | none =>
        simp only [Option.map_none, Option.map_some, Prod.map, id, Requested.renumber,
          ordinal_length, part_start]
  | wait k w =>
    simp only [happen?, Part.happen?, promise?_numbered]
    cases hGet : (c.part name).discoveries[k]? with
    | none => rfl
    | some f =>
      obtain ⟨call, stage, promise⟩ := f
      cases promise with
      | settled x => rfl
      | waiting ws =>
        simp only [Option.map_some, Prod.map, id, part_setPromise]
  | cancel k =>
    simp only [happen?, Part.happen?, promise?_numbered]
    cases hGet : (c.part name).discoveries[k]? with
    | none => rfl
    | some f =>
      simp only [Option.map_some, Prod.map, id, part_settle, waiters_numbered hGet]
  | call k =>
    simp only [happen?, Part.happen?, getElem?_numbered]
    cases hGet : (c.part name).discoveries[k]? with
    | none => rfl
    | some f =>
      obtain ⟨call, stage, promise⟩ := f
      cases stage with
      | scheduled =>
        simp only [Option.map_some, Prod.map, id, part_setStage]
      | flying => rfl
      | landing landing => rfl
      | landed returned => rfl
  | comeBack k landing =>
    simp only [happen?, Part.happen?, getElem?_numbered]
    cases hGet : (c.part name).discoveries[k]? with
    | none => rfl
    | some f =>
      obtain ⟨call, stage, promise⟩ := f
      cases stage with
      | scheduled => rfl
      | flying =>
        simp only [Option.map_some, Prod.map, id, part_setStage]
      | landing landing => rfl
      | landed returned => rfl
  | land k returned =>
    simp only [happen?, Part.happen?, getElem?_numbered]
    cases hGet : (c.part name).discoveries[k]? with
    | none => rfl
    | some f =>
      simp only
      split
      · simp only [Option.map_some, Prod.map, id, waiters_numbered hGet,
          part_land hSlotted hGet]
      · rfl

end Cache

end Larder
