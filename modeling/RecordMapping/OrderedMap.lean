namespace RecordMapping

/-- Entries in the order of their first insertion. -/
structure OrderedMap (α β : Type) where
  entries : List (α × β)
  deriving Repr, DecidableEq

namespace OrderedMap

variable {α β : Type} [DecidableEq α]

instance : EmptyCollection (OrderedMap α β) := ⟨⟨[]⟩⟩
instance : Inhabited (OrderedMap α β) := ⟨∅⟩

/-- The value stored under `key` in a list of entries. -/
def lookup (key : α) : List (α × β) → Option β
  | [] => none
  | (k, v) :: rest => if k = key then some v else lookup key rest

/-- The entries with `value` under `key`, in place when the key is present and last otherwise. -/
def store (key : α) (value : β) : List (α × β) → List (α × β)
  | [] => [(key, value)]
  | (k, v) :: rest => if k = key then (k, value) :: rest else (k, v) :: store key value rest

def get? (map : OrderedMap α β) (key : α) : Option β := lookup key map.entries

def contains (map : OrderedMap α β) (key : α) : Bool := (map.get? key).isSome

def insert (map : OrderedMap α β) (key : α) (value : β) : OrderedMap α β :=
  ⟨store key value map.entries⟩

def erase (map : OrderedMap α β) (key : α) : OrderedMap α β :=
  ⟨map.entries.filter fun entry => entry.1 ≠ key⟩

def keys (map : OrderedMap α β) : List α := map.entries.map (·.1)

def values (map : OrderedMap α β) : List β := map.entries.map (·.2)

def size (map : OrderedMap α β) : Nat := map.entries.length

@[simp] theorem get?_empty (key : α) : (∅ : OrderedMap α β).get? key = none := rfl

theorem lookup_store (key other : α) (value : β) (entries : List (α × β)) :
    lookup other (store key value entries) =
      if key = other then some value else lookup other entries := by
  induction entries with
  | nil => simp [store, lookup]
  | cons entry rest ih =>
    obtain ⟨k, v⟩ := entry
    by_cases hk : k = key
    · subst hk
      by_cases ho : k = other <;> simp [store, lookup, ho]
    · by_cases ho : k = other
      · subst ho
        simp [store, lookup, hk, Ne.symm hk]
      · simp [store, lookup, hk, ho, ih]

@[simp] theorem get?_insert (map : OrderedMap α β) (key other : α) (value : β) :
    (map.insert key value).get? other = if key = other then some value else map.get? other :=
  lookup_store key other value map.entries

theorem lookup_filter (key other : α) (entries : List (α × β)) :
    lookup other (entries.filter fun entry => entry.1 ≠ key) =
      if key = other then none else lookup other entries := by
  induction entries with
  | nil => simp [lookup]
  | cons entry rest ih =>
    obtain ⟨k, v⟩ := entry
    by_cases hk : k = key
    · subst hk
      by_cases ho : k = other <;> simpa [lookup, ho] using ih
    · by_cases ho : k = other
      · subst ho
        simp [lookup, hk, Ne.symm hk]
      · by_cases hko : key = other <;> simpa [lookup, hk, ho, hko] using ih

@[simp] theorem get?_erase (map : OrderedMap α β) (key other : α) :
    (map.erase key).get? other = if key = other then none else map.get? other :=
  lookup_filter key other map.entries

end OrderedMap

end RecordMapping
