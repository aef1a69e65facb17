import RecordMapping.Converter
import RecordMapping.Source

namespace RecordMapping

/-- Stores an erased value in a member of `dest`, if it is of the member's type. -/
def Property.store {κ : Type} (property : Property Record) (value : Erased) (dest : Record) :
    ExceptT MappingError (Script κ) Record := do
  let value ← value.valueAs property.valueType
  if property.logged then ExceptT.lift (.note (.written property.name value))
  return (property.set?.map fun set => set dest value).getD dest

structure Assignment (κ : Type) where
  source : Source κ
  converter : Converter κ
  dest : Property Record

namespace Assignment

variable {κ : Type} [Closures κ]

/-- The destination after the assignment. -/
def run (schema : Schema) (source dest : Record) (assignment : Assignment κ) :
    ExceptT MappingError (Script κ) Record := do
  let value ← ExceptT.lift (assignment.source.evaluate schema source)
  let value ← assignment.converter.apply schema value
  assignment.dest.store value dest

/-- Carries out assignments in order, up to the first that fails. -/
def runAll (schema : Schema) (source : Record) :
    List (Assignment κ) → Record → ExceptT MappingError (Script κ) Record
  | [], dest => return dest
  | assignment :: rest, dest => do
    let dest ← assignment.run schema source dest
    runAll schema source rest dest

end Assignment

end RecordMapping
