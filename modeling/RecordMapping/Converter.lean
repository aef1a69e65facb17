import RecordMapping.OrderedMap
import RecordMapping.Script

namespace RecordMapping

inductive Converter (κ : Type) where
  | identity
  | function (source dest : ValueType) (convert : κ)
  | nested (mapper : MapperId)
  | constant (output : Erased)
  | fail (error : MappingError)
  deriving Repr, DecidableEq

namespace Converter

variable {κ : Type} [Closures κ]

/-- The result of a nested mapping. A request to convert is only ever answered with an erased value,
so the second case never arises. -/
def received : Reply → Script κ (Except MappingError Erased)
  | .ok (.erased erased) => return .ok erased
  | .ok _ => return .error .lockPoisoned
  | .error cause => return .error cause
  | .panic text => .panic text

/-- Converts a value. A function converter looks at the type of its input before it runs. -/
def apply (schema : Schema) (input : Erased) : Converter κ → ExceptT MappingError (Script κ) Erased
  | .identity => return input
  | .function source dest convert => do
    let value ← input.valueAs source
    let result ← ExceptT.lift (Closures.compute convert value)
    return schema.erase dest result
  | .nested mapper => ExceptT.mk ((Script.ask (.convert mapper input)).bind received)
  | .constant output => return output
  | .fail error => throw error

end Converter

/-- Converters by the pair of types they serve. -/
structure Conversions (κ : Type) where
  converters : OrderedMap (ValueType × ValueType) (Converter κ)
  deriving Inhabited

namespace Conversions

variable {κ : Type}

def register (table : Conversions κ) (source dest : ValueType) (converter : Converter κ) :
    Conversions κ :=
  ⟨table.converters.insert (source, dest) converter⟩

/-- Every type converts to itself. -/
def contains (table : Conversions κ) (source dest : ValueType) : Bool :=
  source = dest || table.converters.contains (source, dest)

/-- The converter for an assignment: none is needed between equal types, whatever is registered. -/
def bridge (table : Conversions κ) (question : Question) : Except MappingError (Converter κ) :=
  let source := question.source.valueType
  let dest := question.dest.valueType
  if source = dest then .ok .identity
  else match table.converters.get? (source, dest) with
    | some converter => .ok converter
    | none => .error (.unbridgeable question.dest.name source.name dest.name)

end Conversions

end RecordMapping
