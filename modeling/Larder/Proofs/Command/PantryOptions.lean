import Larder.Command.Resolve
import Larder.Proofs.Config.Written
import Mathlib.Data.List.Forall2
import Mathlib.Data.List.TakeWhile

/-!
# Larder — pantry options

An option gives a name and a location, with the first `=` between them; a location may hold more of
these. Blanks around the two do not count, and neither may consist of blanks alone. Options are read
one after another up to the first that is not of this form. Names that differ only in the blanks
around them are one name, whose location is the one that is given last, and whose place among the
names is that of the first.

A configuration refuses blank names on its own account. It never has to, for an option with a blank
name is not read in the first place. So when all options are of the form, the command goes on to its
imports, whatever the search paths are, and its status is no longer 2.

## Results

* `parse?_eq_some_iff`: an option that is read gives a name and a location.
* `readAll_of_gives`, `readAll_of_malformed`: what options come to, one way or the other.
* `configOf_of_readAll`: options that are read come to a configuration.
* `refused_iff_malformed`: which options are refused, and what the others come to.
-/

namespace Larder

namespace PantryOption

-- ---------------------------------------------------------------------------
-- One option
-- ---------------------------------------------------------------------------

/-- Whether an option gives a location for a name: these are what stands before and after its first
`=`, without the blanks around them, and neither of them is empty. -/
def Gives (value name location : String) : Prop :=
  ∃ before after, value.toList = before ++ '=' :: after ∧ '=' ∉ before ∧
    name = String.ofList (Text.trim before) ∧ location = String.ofList (Text.trim after) ∧
    name ≠ "" ∧ location ≠ ""

/-- Whether an option gives a location for some name. -/
def WellFormed (value : String) : Prop := ∃ name location, Gives value name location

/-- What options give, each a name and a location. -/
def GiveAll (values : List String) (given : List (String × String)) : Prop :=
  List.Forall₂ (fun value g => Gives value g.1 g.2) values given

/-- The registry of the names and locations that were given. -/
def collected (given : List (String × String)) : Registry String Path :=
  .ofList (given.map fun g => (g.1, Path.ofString g.2))

/-- A text with a separator is cut at the first one. -/
theorem takeWhile_append_dropWhile_tail {cs : List Char} (h : '=' ∈ cs) :
    cs = cs.takeWhile (· ≠ '=') ++ '=' :: (cs.dropWhile (· ≠ '=')).tail := by
  induction cs with
  | nil => cases h
  | cons c rest ih =>
    by_cases hCut : c = '='
    · subst hCut
      simp
    · rw [List.takeWhile_cons_of_pos (by simpa using hCut),
        List.dropWhile_cons_of_pos (by simpa using hCut), List.cons_append,
        ← ih ((List.mem_cons.mp h).resolve_left (Ne.symm hCut))]

theorem not_mem_takeWhile (cs : List Char) : '=' ∉ cs.takeWhile (· ≠ '=') := fun hMem => by
  simpa using List.mem_takeWhile_imp hMem

/-- There is one place to cut at. -/
theorem cut_of_append {before : List Char} (h : '=' ∉ before) (after : List Char) :
    (before ++ '=' :: after).takeWhile (· ≠ '=') = before ∧
      (before ++ '=' :: after).dropWhile (· ≠ '=') = '=' :: after := by
  have hBefore : ∀ c ∈ before, decide (c ≠ '=') = true := fun c hMem =>
    decide_eq_true fun hCut => h (hCut ▸ hMem)
  constructor
  · rw [List.takeWhile_append_of_pos hBefore, List.takeWhile_cons_of_neg (by decide),
      List.append_nil]
  · rw [List.dropWhile_append_of_pos hBefore, List.dropWhile_cons_of_neg (by decide)]

/-- An option that is read gives a name and a location. -/
theorem parse?_eq_some_iff {value name : String} {path : Path} :
    parse? value = some (name, path) ↔
      ∃ location, Gives value name location ∧ path = Path.ofString location := by
  have hEmpty : ∀ cs : List Char, String.ofList cs = "" ↔ cs = [] := fun cs => by
    rw [← String.toList_inj, String.toList_ofList]
    rfl
  unfold parse?
  dsimp only
  constructor
  · intro h
    split at h
    · rename_i hForm
      obtain ⟨hCut, hName, hLocation⟩ := hForm
      obtain ⟨rfl, rfl⟩ := Prod.mk.inj (Option.some.inj h)
      refine ⟨_, ⟨_, _, takeWhile_append_dropWhile_tail hCut, not_mem_takeWhile _, rfl, rfl,
        mt (hEmpty _).mp hName, mt (hEmpty _).mp hLocation⟩, ?_⟩
      rw [Path.ofString, String.toList_ofList]
    · cases h
  · rintro ⟨_, ⟨before, after, hValue, hFirst, rfl, rfl, hName, hLocation⟩, rfl⟩
    obtain ⟨hTake, hDrop⟩ := cut_of_append hFirst after
    rw [hValue, hTake, hDrop, List.tail_cons, if_pos ⟨by simp, mt (hEmpty _).mpr hName,
      mt (hEmpty _).mpr hLocation⟩, Path.ofString, String.toList_ofList]

theorem parse?_eq_none_iff {value : String} : parse? value = none ↔ ¬ WellFormed value := by
  constructor
  · rintro hNone ⟨name, location, hGives⟩
    have hSome := parse?_eq_some_iff.mpr ⟨location, hGives, rfl⟩
    rw [hNone] at hSome
    cases hSome
  · intro hNot
    cases hRead : parse? value with
    | none => rfl
    | some found =>
      obtain ⟨location, hGives, -⟩ := parse?_eq_some_iff.mp (Prod.eta found ▸ hRead)
      exact absurd ⟨_, location, hGives⟩ hNot

instance : DecidablePred WellFormed := fun value =>
  decidable_of_iff (parse? value ≠ none) ((not_congr parse?_eq_none_iff).trans Classical.not_not)

/-- The name that an option gives is not blank. -/
theorem Gives.not_isBlankText {value name location : String} (h : Gives value name location) :
    Text.isBlankText name = false := by
  obtain ⟨before, after, -, -, rfl, -, hName, -⟩ := h
  refine Bool.eq_false_iff.mpr fun hBlank => hName ?_
  rw [Text.isBlankText, String.toList_ofList, List.all_eq_true] at hBlank
  rw [Text.trim_eq_nil_of_isBlank hBlank]

-- ---------------------------------------------------------------------------
-- All options
-- ---------------------------------------------------------------------------

variable {values before after : List String} {value : String} {given : List (String × String)}

/-- Either all options are of the form, or there is a first one that is not. -/
theorem giveAll_or_first_malformed (values : List String) :
    (∃ given, GiveAll values given) ∨
      ∃ before value after, values = before ++ value :: after ∧
        (∀ other ∈ before, WellFormed other) ∧ ¬ WellFormed value := by
  induction values with
  | nil => exact .inl ⟨[], .nil⟩
  | cons value rest ih =>
    by_cases hForm : WellFormed value
    · obtain ⟨name, location, hGives⟩ := hForm
      rcases ih with ⟨given, hRest⟩ | ⟨before, first, after, rfl, hBefore, hFirst⟩
      · exact .inl ⟨(name, location) :: given, .cons hGives hRest⟩
      · exact .inr ⟨value :: before, first, after, rfl,
          List.forall_mem_cons.mpr ⟨⟨name, location, hGives⟩, hBefore⟩, hFirst⟩
    · exact .inr ⟨[], value, rest, rfl, nofun, hForm⟩

/-- What options come to that are all of the form. -/
theorem readAll_of_giveAll (h : GiveAll values given) : readAll values = .ok (collected given) := by
  have hInto : ∀ found, readInto found values = .ok ((given.map fun g => (g.1,
      Path.ofString g.2)).foldl (fun r p => r.insert p.1 p.2) found) := by
    induction h with
    | nil => exact fun _ => rfl
    | cons hGives _ ih =>
      intro found
      rw [readInto, parse?_eq_some_iff.mpr ⟨_, hGives, rfl⟩]
      exact ih _
  exact hInto .empty

/-- The first option that is not of the form is refused, whatever comes after it. -/
theorem readAll_of_malformed (hBefore : ∀ other ∈ before, WellFormed other)
    (h : ¬ WellFormed value) :
    readAll (before ++ value :: after) = .error (.badPantryOption value) := by
  have hInto : ∀ found, readInto found (before ++ value :: after) =
      .error (.badPantryOption value) := by
    induction before with
    | nil =>
      intro found
      rw [List.nil_append, readInto, parse?_eq_none_iff.mpr h]
    | cons other rest ih =>
      rw [List.forall_mem_cons] at hBefore
      obtain ⟨⟨name, location, hGives⟩, hRest⟩ := hBefore
      intro found
      rw [List.cons_append, readInto, parse?_eq_some_iff.mpr ⟨_, hGives, rfl⟩]
      exact ih hRest _
  exact hInto .empty

/-- Options that are read are all of the form. -/
theorem giveAll_of_readAll {pantries : Registry String Path} (h : readAll values = .ok pantries) :
    ∃ given, GiveAll values given ∧ pantries = collected given := by
  rcases giveAll_or_first_malformed values with
    ⟨given, hGiven⟩ | ⟨before, value, after, rfl, hBefore, hFirst⟩
  · exact ⟨given, hGiven, Except.ok.inj (h.symm.trans (readAll_of_giveAll hGiven))⟩
  · rw [readAll_of_malformed hBefore hFirst] at h
    cases h

/-- Each of the options gave something, and each that was given comes from an option. -/
theorem GiveAll.each (h : GiveAll values given) :
    (∀ value ∈ values, WellFormed value) ∧ ∀ g ∈ given, Text.isBlankText g.1 = false := by
  induction h with
  | nil => exact ⟨nofun, nofun⟩
  | cons hGives _ ih =>
    exact ⟨List.forall_mem_cons.mpr ⟨⟨_, _, hGives⟩, ih.1⟩,
      List.forall_mem_cons.mpr ⟨hGives.not_isBlankText, ih.2⟩⟩

/-- Options are read exactly if they are all of the form. -/
theorem readAll_isOk_iff :
    (∃ pantries, readAll values = .ok pantries) ↔ ∀ value ∈ values, WellFormed value := by
  constructor
  · rintro ⟨_, hRead⟩
    obtain ⟨_, hGiven, -⟩ := giveAll_of_readAll hRead
    exact hGiven.each.1
  · intro hAll
    rcases giveAll_or_first_malformed values with ⟨given, hGiven⟩ | ⟨_, value, _, rfl, -, hFirst⟩
    · exact ⟨_, readAll_of_giveAll hGiven⟩
    · exact absurd (hAll value (List.mem_append_right _ List.mem_cons_self)) hFirst

theorem keys_collected (given : List (String × String)) :
    (collected given).keys = (given.map Prod.fst).eraseDups := by
  rw [collected, Registry.keys_ofList, List.map_map]
  rfl

/-- The location that is given last for a name is the one that counts. -/
theorem get?_collected {earlier later : List (String × String)} {name location : String}
    (hLast : name ∉ later.map Prod.fst) :
    (collected (earlier ++ (name, location) :: later)).get? name =
      some (Path.ofString location) := by
  have hNone : name ∉ (later.map fun g => (g.1, Path.ofString g.2)).reverse.map Prod.fst := by
    rw [List.map_reverse, List.map_map, List.mem_reverse]
    exact hLast
  rw [collected, Registry.get?_ofList, List.map_append, List.reverse_append, List.map_cons,
    List.reverse_cons, List.append_assoc, lookupPair_append, lookupPair_of_not_mem hNone,
    Option.none_or, List.singleton_append, lookupPair, if_pos rfl]

end PantryOption

-- ---------------------------------------------------------------------------
-- The configuration
-- ---------------------------------------------------------------------------

variable {values : List String} {pantries : Registry String Path}

/-- Locations under names that are not blank are read as seeds, also if there are none. -/
theorem seeds_of_locations (h : ∀ name ∈ pantries.keys, Text.isBlankText name = false) :
    (if pantries.entries = [] then none else
        some (Value.object (pantries.entries.map fun e => (e.1, .str e.2.toString)))).elim
      (.ok Registry.empty) (fun v => Checked.under (.key "pantries") (seedsOf v)) =
      .ok (.ofList (pantries.entries.map fun e => (e.1, Seed.location e.2))) := by
  split
  · rename_i hNone
    rw [hNone]
    rfl
  · have hEach : ∀ p : Path, seedOf (.str p.toString) = .ok (.location p) := fun p => by
      rw [seedOf_str, Path.ofString_toString]
    have hRead := seedsOf_of_mapping (mapping_map hEach pantries.entries) (by
      rw [List.map_map]
      exact h)
    rw [Option.elim_some, hRead]
    rfl

/-- Search paths are anchored; without any the default holds. -/
theorem searchPaths_of_paths (cwd : Path) (searchPaths : List Path) :
    (if searchPaths = [] then none else
        some (Value.list (searchPaths.map fun p => .str p.toString))).elim
      (.ok (Config.defaultSearchPaths cwd))
      (fun v => Checked.under (.key "search_paths") (searchPathsOf cwd v)) =
      .ok (if searchPaths = [] then Config.defaultSearchPaths cwd
        else searchPaths.map cwd.anchor) := by
  split
  · rfl
  · have hRead : searchPathsOf cwd (.list (searchPaths.map fun p => .str p.toString)) =
        .ok (searchPaths.map cwd.anchor) := by
      refine searchPathsOf_eq_ok_iff.mpr ⟨searchPaths.map Path.toString, ?_, ?_⟩
      · rw [List.map_map]
        rfl
      · rw [List.map_map]
        exact List.map_congr_left fun p _ => congrArg cwd.anchor p.ofString_toString.symm
    rw [Option.elim_some, hRead]
    rfl

/-- Locations under names that are not blank, and any search paths, make a configuration. -/
theorem load_configValue (cwd : Path) (searchPaths : List Path)
    (h : ∀ name ∈ pantries.keys, Text.isBlankText name = false) :
    ∃ config, Config.load cwd (configValue searchPaths pantries) = .ok config ∧
      config.pantries.entries = pantries.entries.map (fun e => (e.1, Seed.location e.2)) ∧
      config.searchPaths =
        if searchPaths = [] then Config.defaultSearchPaths cwd else searchPaths.map cwd.anchor := by
  have hAll := Config.ofMembers_of_parts cwd
    (if pantries.entries = [] then none else
      some (.object (pantries.entries.map fun e => (e.1, .str e.2.toString))))
    (if searchPaths = [] then none else some (.list (searchPaths.map fun p => .str p.toString)))
  rw [seeds_of_locations h, searchPaths_of_paths] at hAll
  refine ⟨_, (congrArg (Config.load cwd) ?_).trans (Config.load_object hAll), ?_, rfl⟩
  · rw [configValue]
    split <;> split <;> rfl
  · have hNodup :
        ((pantries.entries.map fun e => (e.1, Seed.location e.2)).map Prod.fst).Nodup := by
      rw [List.map_map]
      exact pantries.nodup
    exact Registry.entries_ofList hNodup

/-- Options that are read make a configuration, whatever the search paths are. -/
theorem configOf_of_readAll (cwd : Path) (searchPaths : List Path)
    (h : PantryOption.readAll values = .ok pantries) :
    ∃ config, configOf cwd searchPaths values = .ok config ∧
      config.pantries.entries = pantries.entries.map (fun e => (e.1, Seed.location e.2)) ∧
      config.searchPaths =
        if searchPaths = [] then Config.defaultSearchPaths cwd else searchPaths.map cwd.anchor := by
  obtain ⟨given, hGiven, rfl⟩ := PantryOption.giveAll_of_readAll h
  have hNames : ∀ name ∈ (PantryOption.collected given).keys, Text.isBlankText name = false := by
    intro name hMem
    rw [PantryOption.keys_collected, List.mem_eraseDups] at hMem
    obtain ⟨g, hG, rfl⟩ := List.mem_map.mp hMem
    exact hGiven.each.2 g hG
  obtain ⟨config, hLoad, hConfig⟩ := load_configValue cwd searchPaths hNames
  exact ⟨config, by rw [configOf, h]; exact hLoad, hConfig⟩

-- ---------------------------------------------------------------------------
-- The command
-- ---------------------------------------------------------------------------

namespace Resolve

open PantryOption

/-- The status for rows says whether one is an error, and nothing of the options. -/
theorem status_ne_two (rs : List Row) : status rs ≠ 2 := by
  unfold status
  split <;> decide

/-- A command whose options make a configuration ends with the status of its rows, if it does. -/
theorem status_run_ne_two {w : World} {o : ResolveOptions} {config : Config}
    (h : configOf w.cwd o.searchPaths o.pantries = .ok config) : (run w o).status ≠ some 2 := by
  rw [run, h]
  simp only [Console.conclude]
  split
  · exact fun hStatus => status_ne_two _ (Option.some.inj hStatus)
  · simp

/--
**Which pantry options are refused.** Options are read exactly if each has an `=`, with other than
blank characters on both sides of the first. If some are not of this form, the first of these is
quoted, and that is all that the command says before it ends with status 2. If all are, the names
that are read are those that were given, without blanks around them and in the order in which each
is given first, and the location of each is the one that is given last. With whatever search paths
they make a configuration. So the status is 2 exactly if some option is not of the form.
-/
theorem refused_iff_malformed (values : List String) :
    ((∃ pantries, readAll values = .ok pantries) ↔ ∀ value ∈ values, WellFormed value) ∧
    -- options that are refused
    (∀ before value after, values = before ++ value :: after →
      (∀ other ∈ before, WellFormed other) → ¬ WellFormed value →
      readAll values = .error (.badPantryOption value) ∧
      ∀ w o, o.pantries = values → run w o = ⟨some 2, [.message .fail
        ("invalid --pantry value " ++ Text.quote value ++ "; expected NAME=DIR")], []⟩) ∧
    -- options that are read
    (∀ pantries, readAll values = .ok pantries → ∃ given, GiveAll values given ∧
      pantries.keys = (given.map Prod.fst).eraseDups ∧
      (∀ earlier name location later, given = earlier ++ (name, location) :: later →
        name ∉ later.map Prod.fst → pantries.get? name = some (Path.ofString location)) ∧
      ∀ cwd searchPaths, ∃ config, configOf cwd searchPaths values = .ok config ∧
        config.pantries.entries = pantries.entries.map (fun e => (e.1, Seed.location e.2)) ∧
        config.searchPaths = if searchPaths = [] then Config.defaultSearchPaths cwd
          else searchPaths.map cwd.anchor) ∧
    -- the status of the command
    ∀ w o, o.pantries = values →
      ((run w o).status = some 2 ↔ ∃ value ∈ values, ¬ WellFormed value) := by
  have hRefused : ∀ before value after, values = before ++ value :: after →
      (∀ other ∈ before, WellFormed other) → ¬ WellFormed value →
      readAll values = .error (.badPantryOption value) ∧
      ∀ w o, o.pantries = values → run w o = ⟨some 2, [.message .fail
        ("invalid --pantry value " ++ Text.quote value ++ "; expected NAME=DIR")], []⟩ := by
    intro before value after hValues hBefore hFirst
    have hRead : readAll values = .error (.badPantryOption value) :=
      hValues ▸ readAll_of_malformed hBefore hFirst
    refine ⟨hRead, fun w o hPantries => ?_⟩
    rw [run, configOf, hPantries, hRead]
    rfl
  refine ⟨readAll_isOk_iff, hRefused, fun pantries hRead => ?_, fun w o hPantries => ?_⟩
  · obtain ⟨given, hGiven, rfl⟩ := giveAll_of_readAll hRead
    refine ⟨given, hGiven, keys_collected given, ?_, fun cwd searchPaths =>
      configOf_of_readAll cwd searchPaths hRead⟩
    rintro earlier name location later rfl hLast
    exact get?_collected hLast
  · rcases giveAll_or_first_malformed values with
      ⟨given, hGiven⟩ | ⟨before, value, after, hValues, hBefore, hFirst⟩
    · obtain ⟨config, hConfig, -⟩ :=
        configOf_of_readAll w.cwd o.searchPaths (readAll_of_giveAll hGiven)
      rw [← hPantries] at hConfig
      refine iff_of_false (status_run_ne_two hConfig) ?_
      rintro ⟨value, hMem, hNot⟩
      exact hNot (hGiven.each.1 value hMem)
    · refine iff_of_true ?_ ⟨value, hValues ▸ List.mem_append_right _ List.mem_cons_self, hFirst⟩
      rw [(hRefused before value after hValues hBefore hFirst).2 w o hPantries]

/-- Two options for one name, the second with a location that has an `=`; and a blank name, which is
refused before a text without `=` is. -/
theorem refused_iff_malformed_twice :
    (∃ pantries, readAll [" a = /x", "b=/y", "a\t=c=d "] = .ok pantries ∧
      pantries.keys = ["a", "b"] ∧ pantries.get? "a" = some (.ofString "c=d")) ∧
    ∀ w o, o.pantries = ["a=/x", " = /y", "z"] → (run w o).status = some 2 := by
  obtain ⟨hRead, -⟩ := refused_iff_malformed [" a = /x", "b=/y", "a\t=c=d "]
  obtain ⟨-, -, -, hStatus⟩ := refused_iff_malformed ["a=/x", " = /y", "z"]
  have hFound : (readAll [" a = /x", "b=/y", "a\t=c=d "]).toOption.map
      (fun pantries => (pantries.keys, pantries.get? "a")) =
      some (["a", "b"], some (.ofString "c=d")) := by decide +kernel
  obtain ⟨pantries, hOk⟩ := hRead.mpr (by decide +kernel)
  rw [hOk] at hFound
  exact ⟨⟨pantries, hOk, Prod.mk.inj (Option.some.inj hFound)⟩,
    fun w o hPantries => (hStatus w o hPantries).mpr ⟨" = /y", by decide, by decide +kernel⟩⟩

end Resolve

end Larder
