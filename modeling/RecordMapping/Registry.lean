import RecordMapping.Mapper

namespace RecordMapping

inductive Entry (κ : Type) where
  | mapper (id : MapperId) (source dest : Slot)
  | standIn (double : StandIn)
  | custom (mapper : CustomMapper κ)

namespace Entry

variable {κ : Type}

/-- The types an entry reports. -/
def types : Entry κ → ValueType × ValueType
  | .mapper _ source dest => (.record source, .record dest)
  | .standIn double => (double.source, double.dest)
  | .custom made => (made.source, made.dest)

/-- Whether asking the entry for its types panics, once it is registered. -/
def panics : Entry κ → Bool
  | .mapper .. => false
  | .standIn double => double.brittle
  | .custom made => made.brittle

end Entry

/-- A panic of an entry while the registry asks it for its types poisons the registry for good. -/
structure Registry (κ : Type) where
  entries : OrderedMap (ValueType × ValueType) (Entry κ)
  poisoned : Bool
  deriving Inhabited

namespace Registry

variable {κ : Type}

/-- The result of an action that needs the registry unpoisoned. -/
def guarded {α : Type} (registry : Registry κ) (action : Registry κ → Outcome α × Registry κ) :
    Outcome α × Registry κ :=
  if registry.poisoned then (.error .lockPoisoned, registry) else action registry

def register (entry : Entry κ) (registry : Registry κ) : Outcome Unit × Registry κ :=
  registry.guarded fun registry =>
    (.ok (), { registry with entries := registry.entries.insert entry.types entry })

def remove (pair : ValueType × ValueType) (registry : Registry κ) : Outcome Bool × Registry κ :=
  registry.guarded fun registry =>
    (.ok (registry.entries.contains pair), { registry with entries := registry.entries.erase pair })

def contains (pair : ValueType × ValueType) (registry : Registry κ) : Outcome Bool × Registry κ :=
  registry.guarded fun registry => (.ok (registry.entries.contains pair), registry)

def size (registry : Registry κ) : Outcome Nat × Registry κ :=
  registry.guarded fun registry => (.ok registry.entries.size, registry)

def lookup (pair : ValueType × ValueType) (registry : Registry κ) :
    Outcome (Entry κ) × Registry κ :=
  registry.guarded fun registry =>
    match registry.entries.get? pair with
    | some entry => (.ok entry, registry)
    | none => (.error (.noMapper pair.1.name pair.2.name), registry)

/-- The types every entry reports, or the panic of an entry that will not. -/
def reported (registry : Registry κ) : Outcome (List (ValueType × ValueType)) × Registry κ :=
  if registry.entries.values.any Entry.panics then
    (.panic StandIn.panicText, { registry with poisoned := true })
  else (.ok (registry.entries.values.map Entry.types), registry)

/-- Whether one pair comes before another or is the same, by the names of their types. -/
def inOrder (a b : ValueType × ValueType) : Bool :=
  a.1.name < b.1.name ∨ (a.1.name = b.1.name ∧ a.2.name ≤ b.2.name)

/-- The registered pairs by name. -/
def pairs (registry : Registry κ) : Outcome (List (ValueType × ValueType)) × Registry κ :=
  let (outcome, registry) := registry.guarded reported
  (outcome.map (·.mergeSort inOrder), registry)

/-- The debugging form; a poisoned registry shows no entries. -/
def shown (registry : Registry κ) : Outcome String × Registry κ :=
  if registry.poisoned then (.ok (Text.shownList []), registry)
  else
    let (outcome, registry) := registry.reported
    let arrows (pairs : List (ValueType × ValueType)) :=
      pairs.map fun pair => pair.1.name ++ " -> " ++ pair.2.name
    (outcome.map fun pairs => Text.shownList ((arrows pairs).mergeSort fun a b => a ≤ b), registry)

end Registry

end RecordMapping
