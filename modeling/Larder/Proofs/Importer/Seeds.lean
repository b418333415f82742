import Larder.Proofs.Importer.Move
import Larder.Proofs.Registry

/-!
# Larder — what is known beforehand

A cache begins with its seeds: a descriptor is at hand under its name from the first, a location is
kept until the pantry is loaded from it. The seeds hold each name once, so no seed undoes another,
and the locations are kept in the order of the seeds.

## Results

* `get?_ofSeeds`: what is at hand at the beginning is what the seeds describe.
* `locations_ofSeeds`: the places known at the beginning are the locations among the seeds.
-/

namespace Larder

/-- The place that a seed gives. -/
def Seed.location? : Seed → Option Path
  | .location path => some path
  | .descriptor _ => none

/-- The names that are known by location, with their places, in the order of the seeds. -/
def Config.locations (config : Config) : List (String × Path) :=
  config.pantries.entries.filterMap fun entry => entry.2.location?.map fun path => (entry.1, path)

theorem Config.mem_locations {config : Config} {name : String} {path : Path} :
    (name, path) ∈ config.locations ↔ config.pantries.get? name = some (.location path) := by
  rw [Registry.get?_eq_some_iff, locations, List.mem_filterMap]
  constructor
  · rintro ⟨⟨key, seed⟩, hMem, hPlace⟩
    cases seed with
    | descriptor P => simp [Seed.location?] at hPlace
    | location place =>
      obtain ⟨rfl, rfl⟩ : key = name ∧ place = path := by simpa [Seed.location?] using hPlace
      exact hMem
  · exact fun hMem => ⟨_, hMem, rfl⟩

namespace State

/-- One seed more in a cache. -/
def sow (c : Cache) (entry : String × Seed) : Cache :=
  match entry.2 with
  | .descriptor P => { c with resolved := c.resolved.insert entry.1 (P.named entry.1) }
  | .location path => { c with locations := c.locations.insert entry.1 path }

theorem get?_sown {entries : List (String × Seed)} (hNodup : (entries.map Prod.fst).Nodup)
    (name : String) (c : Cache) :
    (entries.foldl sow c).get? name =
      match lookupPair name entries with
      | some (.descriptor P) => some (P.named name)
      | _ => c.get? name := by
  induction entries generalizing c with
  | nil => rfl
  | cons entry rest ih =>
    obtain ⟨key, seed⟩ := entry
    obtain ⟨hNew, hRest⟩ := List.nodup_cons.mp hNodup
    rw [List.foldl_cons, ih hRest, lookupPair]
    by_cases hKey : key = name
    · subst hKey
      have hOnce : lookupPair key rest = none := lookupPair_of_not_mem hNew
      rw [hOnce, if_pos rfl]
      cases seed with
      | descriptor P => simp [sow, Cache.get?]
      | location path => rfl
    · rw [if_neg hKey]
      cases seed with
      | descriptor P => simp [sow, Cache.get?, Registry.get?_insert_of_ne _ _ (Ne.symm hKey)]
      | location path => rfl

/-- What is at hand at the beginning is what the seeds describe. -/
theorem get?_ofSeeds (seeds : Registry String Seed) (name : String) :
    (Cache.ofSeeds seeds).get? name =
      match seeds.get? name with
      | some (.descriptor P) => some (P.named name)
      | _ => none :=
  get?_sown seeds.nodup name {}

theorem locations_sown {entries : List (String × Seed)} (hNodup : (entries.map Prod.fst).Nodup)
    (c : Cache) (hFree : ∀ name ∈ entries.map Prod.fst, name ∉ c.locations.keys) :
    (entries.foldl sow c).locations.entries = c.locations.entries ++
      entries.filterMap fun entry => entry.2.location?.map fun path => (entry.1, path) := by
  induction entries generalizing c with
  | nil => simp
  | cons entry rest ih =>
    obtain ⟨key, seed⟩ := entry
    obtain ⟨hNew, hRest⟩ := List.nodup_cons.mp hNodup
    have hKey : key ∉ c.locations.keys := hFree key List.mem_cons_self
    have hOthers : ∀ name ∈ rest.map Prod.fst, name ∉ c.locations.keys :=
      fun name hMem => hFree name (List.mem_cons_of_mem _ hMem)
    rw [List.foldl_cons]
    cases seed with
    | descriptor P => exact ih hRest _ hOthers
    | location path =>
      have hEntered : (sow c (key, .location path)).locations.entries =
          c.locations.entries ++ [(key, path)] := insertPair_of_not_mem hKey
      rw [ih hRest, hEntered]
      · simp [Seed.location?]
      · intro name hMem hKnown
        rw [Registry.keys, hEntered, List.map_append, List.mem_append] at hKnown
        rcases hKnown with hOld | hNow
        · exact hOthers name hMem hOld
        · exact hNew (List.mem_singleton.mp hNow ▸ hMem)

/-- The places known at the beginning are the locations among the seeds, in their order. -/
theorem locations_ofSeeds (config : Config) :
    (Cache.ofSeeds config.pantries).locations.entries = config.locations := by
  have hSown := locations_sown config.pantries.nodup {} fun _ _ => List.not_mem_nil
  exact hSown.trans (List.nil_append _)

end State

end Larder
