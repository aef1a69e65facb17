import RecordMapping.Registry

namespace RecordMapping

inductive Handle (κ : Type) where
  | table (id : Nat)
  | service (id : ServiceId)
  | mapper (id : MapperId)
  | erasedMapper (id : MapperId)
  | plan (plan : Plan κ)
  | source (source : Source κ)
  | registry (id : Nat)
  | erased (erased : Erased)

/-- What a running operation keeps alive until it ends. -/
inductive Hold where
  | mapper (id : MapperId)
  | registry (id : Nat)
  deriving Repr, DecidableEq

/-- Everything that the operations of a session have made, and the handles that name it. -/
structure World (κ : Type) where
  schema : Schema
  surroundings : Surroundings κ
  mappers : List (Mapper κ)
  registries : List (Registry κ)
  handles : OrderedMap String (Handle κ)

namespace Handle

variable {κ : Type}

/-- Handles of the mapper itself or of its erased form. -/
def owns (mapper : MapperId) : Handle κ → Bool
  | .mapper id | .erasedMapper id => id = mapper
  | _ => false

def isRegistry (registry : Nat) : Handle κ → Bool
  | .registry id => id = registry
  | _ => false

end Handle

def Entry.owns {κ : Type} (mapper : MapperId) : Entry κ → Bool
  | .mapper id _ _ => id = mapper
  | .standIn _ | .custom _ => false

namespace World

variable {κ : Type}

/-- A session of the given types in which nothing has happened yet. -/
def initial (schema : Schema) (tracing : Bool) : World κ where
  schema := schema
  surroundings := ⟨[], [], [], tracing⟩
  mappers := []
  registries := []
  handles := ∅

def write (world : World κ) (entry : LogEntry) : World κ :=
  { world with surroundings := world.surroundings.write entry }

def report (world : World κ) (event : Event) : World κ :=
  { world with surroundings := world.surroundings.report event }

/-- The session with an empty log. -/
def clearLog (world : World κ) : World κ :=
  { world with surroundings := { world.surroundings with log := [] } }

/-- Gives a handle a name; whatever had the name before is dropped. -/
def keep (world : World κ) (name : String) (handle : Handle κ) : World κ :=
  { world with handles := world.handles.insert name handle }

def drop (world : World κ) (name : String) : World κ :=
  { world with handles := world.handles.erase name }

/-- A registry lives while a handle names it or a running operation holds it. -/
def registryAlive (world : World κ) (held : List Hold) (registry : Nat) : Bool :=
  held.contains (.registry registry) || world.handles.values.any (·.isRegistry registry)

def registered (world : World κ) (registry : Nat) (mapper : MapperId) : Bool :=
  (world.registries.getD registry default).entries.values.any (·.owns mapper)

/-- A mapper lives while a handle, an entry of a living registry or a running operation owns it. -/
def alive (world : World κ) (held : List Hold) (mapper : MapperId) : Bool :=
  held.contains (.mapper mapper) || world.handles.values.any (·.owns mapper) ||
    (List.range world.registries.length).any fun registry =>
      world.registryAlive held registry && world.registered registry mapper

end World

end RecordMapping
