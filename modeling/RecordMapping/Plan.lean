import RecordMapping.Assignment
import RecordMapping.Binding

namespace RecordMapping

/-- A compiled mapping between two slots. Plans are told apart by the mapper that built them and the
number of the build. -/
structure Plan (κ : Type) where
  mapper : MapperId
  build : Nat
  source : Slot
  dest : Slot
  constructor : Option κ
  before : Option κ
  assignments : List (Assignment κ)
  after : Option κ
  bindings : List Binding

namespace Plan

variable {κ : Type}

/-- A new destination: what the constructor makes of the source, or the slot's default. -/
def create [Closures κ] (schema : Schema) (plan : Plan κ) (source : Record) : Script κ Record :=
  match plan.constructor with
  | some constructor => do
    let value ← Closures.compute constructor (.record source)
    return schema.record plan.dest value
  | none => return schema.default plan.dest

/-- Runs a hook if there is one. -/
def amend [Closures κ] (hook : Option κ) (source dest : Record) : Script κ Record :=
  match hook with
  | some hook => Closures.amend hook source dest
  | none => return dest

/-- Maps a source onto `dest`, or onto a new destination when none is given. -/
def run [Closures κ] (schema : Schema) (plan : Plan κ) (source : Record) (dest : Option Record) :
    ExceptT MappingError (Script κ) Record := do
  let dest ← ExceptT.lift (dest.elim (plan.create schema source) pure)
  let dest ← ExceptT.lift (amend plan.before source dest)
  let dest ← Assignment.runAll schema source plan.assignments dest
  ExceptT.lift (amend plan.after source dest)

/-- Whether two plans are one and the same. -/
def is (plan other : Plan κ) : Bool := plan.mapper = other.mapper ∧ plan.build = other.build

def shown (plan : Plan κ) : String :=
  Text.shown "MapPlan"
    [("source", Text.quoted (Slot.typeName plan.source)),
      ("destination", Text.quoted (Slot.typeName plan.dest)),
      ("custom_constructor", Text.shownBool plan.constructor.isSome),
      ("bindings", Text.shownList (plan.bindings.map Binding.shown))] true

end Plan

end RecordMapping
