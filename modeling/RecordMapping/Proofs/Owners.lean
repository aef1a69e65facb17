import RecordMapping.Session

namespace RecordMapping

variable {κ : Type}

/-- Handles that own neither a mapper nor a registry. -/
def Handle.plain : Handle κ → Bool
  | .mapper _ | .erasedMapper _ | .registry _ => false
  | _ => true

theorem OrderedMap.mem_of_get? {α β : Type} [DecidableEq α] {map : OrderedMap α β} {key : α}
    {value : β} (found : map.get? key = some value) : (key, value) ∈ map.entries := by
  obtain ⟨entries⟩ := map
  change lookup key entries = some value at found
  induction entries with
  | nil => simp [lookup] at found
  | cons entry rest ih =>
    by_cases same : entry.1 = key
    · obtain rfl : entry.2 = value := by simpa [lookup, same] using found
      exact same ▸ List.mem_cons_self
    · exact List.mem_cons_of_mem _ (ih (by simpa [lookup, same] using found))

namespace World

variable {world : World κ} {held held' : List Hold}

/-- A registry has an owner: a handle names it, or an operation under way holds it. -/
inductive Kept (world : World κ) (held : List Hold) (registry : Nat) : Prop where
  | handle {name : String} (named : (name, .registry registry) ∈ world.handles.entries)
  | running (holds : .registry registry ∈ held)

/-- A mapper has an owner: a handle names it or its erased form, a registry that is kept has it, or
an operation under way runs it. -/
inductive Owned (world : World κ) (held : List Hold) (id : MapperId) : Prop where
  | handle {name : String} (named : (name, .mapper id) ∈ world.handles.entries)
  | erased {name : String} (named : (name, .erasedMapper id) ∈ world.handles.entries)
  | entry {registry : Nat} {pair : ValueType × ValueType} {source dest : Slot}
    (kept : world.Kept held registry)
    (listed : (pair, .mapper id source dest) ∈ (world.registry registry).entries.entries)
  | running (holds : .mapper id ∈ held)

theorem registryAlive_iff {registry : Nat} :
    world.registryAlive held registry = true ↔ world.Kept held registry := by
  simp only [registryAlive, Bool.or_eq_true, List.contains_iff_mem, List.any_eq_true,
    OrderedMap.values, List.mem_map]
  constructor
  · rintro (holds | ⟨_, ⟨⟨name, handle⟩, mem, rfl⟩, names⟩)
    · exact .running holds
    · cases handle with
      | registry other =>
        obtain rfl : other = registry := by simpa [Handle.isRegistry] using names
        exact .handle mem
      | _ => simp [Handle.isRegistry] at names
  · rintro (@⟨name, named⟩ | holds)
    · exact .inr ⟨_, ⟨_, named, rfl⟩, by simp [Handle.isRegistry]⟩
    · exact .inl holds

theorem registered_iff {registry : Nat} {id : MapperId} :
    world.registered registry id = true ↔ ∃ pair source dest,
      (pair, .mapper id source dest) ∈ (world.registry registry).entries.entries := by
  simp only [registered, World.registry, List.any_eq_true, OrderedMap.values, List.mem_map]
  constructor
  · rintro ⟨_, ⟨⟨pair, entry⟩, mem, rfl⟩, owns⟩
    cases entry with
    | mapper other source dest =>
      obtain rfl : other = id := by simpa [Entry.owns] using owns
      exact ⟨pair, source, dest, mem⟩
    | standIn | custom => simp [Entry.owns] at owns
  · rintro ⟨pair, source, dest, mem⟩
    exact ⟨_, ⟨_, mem, rfl⟩, by simp [Entry.owns]⟩

/-- The session counts exactly the owners. -/
theorem alive_iff {id : MapperId} : world.alive held id = true ↔ world.Owned held id := by
  simp only [alive, Bool.or_eq_true, List.contains_iff_mem, List.any_eq_true, Bool.and_eq_true,
    registryAlive_iff, registered_iff, OrderedMap.values, List.mem_map, List.mem_range]
  constructor
  · rintro ((holds | ⟨_, ⟨⟨name, handle⟩, mem, rfl⟩, owns⟩) |
      ⟨registry, _, kept, pair, source, dest, listed⟩)
    · exact .running holds
    · cases handle with
      | mapper other =>
        obtain rfl : other = id := by simpa [Handle.owns] using owns
        exact .handle mem
      | erasedMapper other =>
        obtain rfl : other = id := by simpa [Handle.owns] using owns
        exact .erased mem
      | _ => simp [Handle.owns] at owns
    · exact .entry kept listed
  · rintro (named | named | ⟨kept, listed⟩ | holds)
    · exact .inl (.inr ⟨_, ⟨_, named, rfl⟩, by simp [Handle.owns]⟩)
    · exact .inl (.inr ⟨_, ⟨_, named, rfl⟩, by simp [Handle.owns]⟩)
    · refine .inr ⟨_, Nat.lt_of_not_le fun beyond => ?_, kept, _, _, _, listed⟩
      -- A registry that was never made has no entries.
      rw [registry, List.getD_eq_getElem?_getD, List.getElem?_eq_none beyond] at listed
      exact List.not_mem_nil listed
    · exact .inl (.inl holds)

instance (world : World κ) (held : List Hold) (id : MapperId) :
    Decidable (world.Owned held id) :=
  decidable_of_iff _ alive_iff

theorem alive_eq_false_iff {id : MapperId} :
    world.alive held id = false ↔ ¬ world.Owned held id := by
  rw [← alive_iff, Bool.not_eq_true]

theorem Kept.mono {registry : Nat} (kept : world.Kept held registry) (subset : held ⊆ held') :
    world.Kept held' registry := by
  cases kept with
  | handle named => exact .handle named
  | running holds => exact .running (subset holds)

theorem Owned.mono {id : MapperId} (owned : world.Owned held id) (subset : held ⊆ held') :
    world.Owned held' id := by
  cases owned with
  | handle named => exact .handle named
  | erased named => exact .erased named
  | entry kept listed => exact .entry (kept.mono subset) listed
  | running holds => exact .running (subset holds)

/-- Nobody but handles of mappers and registries, the entries of registries and what is held makes
an owner. -/
theorem Owned.of_handles {other : World κ} {id : MapperId}
    (handles : ∀ name handle, handle.plain = false → (name, handle) ∈ world.handles.entries →
      (name, handle) ∈ other.handles.entries)
    (registries : other.registries = world.registries) (owned : world.Owned held id) :
    other.Owned held id := by
  cases owned with
  | handle named => exact .handle (handles _ _ rfl named)
  | erased named => exact .erased (handles _ _ rfl named)
  | @entry registry pair source dest kept listed =>
    have same : other.registry registry = world.registry registry := by
      rw [World.registry, registries, World.registry]
    refine .entry ?_ (same ▸ listed)
    cases kept with
    | handle named => exact .handle (handles _ _ rfl named)
    | running holds => exact .running holds
  | running holds => exact .running holds

inductive Holds (world : World κ) (held : List Hold) : Hold → Prop where
  | mapper {id : MapperId} (owned : world.Owned held id) : Holds world held (.mapper id)
  | registry {id : Nat} (kept : world.Kept held id) : Holds world held (.registry id)

end World

/-- The request asks for no mapper or registry but by a handle, by a converter, or because it is
held already. -/
def Request.Grounded (held : List Hold) : Request κ → Prop
  | .mapper id _ => .mapper id ∈ held
  | .registry id _ => .registry id ∈ held
  | _ => True

theorem Request.Grounded.mono {held held' : List Hold} {request : Request κ}
    (grounded : request.Grounded held) (subset : held ⊆ held') : request.Grounded held' := by
  cases request with
  | mapper | registry => exact subset grounded
  | _ => trivial

end RecordMapping
