import RecordMapping.World

namespace RecordMapping

/-- What an operation sets going, and what it keeps alive meanwhile. -/
structure Launch (κ α : Type) where
  holds : List Hold
  script : ExceptT MappingError (Script κ) α

namespace Launch

variable {κ α β : Type}

def ofOutcome : Outcome α → ExceptT MappingError (Script κ) α
  | .ok result => return result
  | .error cause => throw cause
  | .panic text => ExceptT.mk (.panic text)

/-- An operation that is over at once. -/
def now (outcome : Outcome α) : Launch κ α := ⟨[], ofOutcome outcome⟩

/-- An operation on a handle that is not there, or not of the right kind. -/
def missing (name : String) : Launch κ α := now (.panic ("no such handle: " ++ name))

def map (f : α → β) (launch : Launch κ α) : Launch κ β := ⟨launch.holds, f <$> launch.script⟩

/-- Checks the result of the script once it is there. -/
def check (f : α → Except MappingError β) (launch : Launch κ α) : Launch κ β :=
  ⟨launch.holds, launch.script >>= fun result => liftM (f result)⟩

def holding (hold : Hold) (launch : Launch κ α) : Launch κ α :=
  ⟨hold :: launch.holds, launch.script⟩

end Launch

end RecordMapping
