import RecordMapping.MappingError
import RecordMapping.ValueType
import RecordMapping.Text.Shown

namespace RecordMapping

/-- A value that carries its type with it. -/
structure Erased where
  type : ValueType
  value : Value
  deriving Repr, DecidableEq, Inhabited

namespace Erased

/-- The value, when it is of the expected type. -/
def valueAs (erased : Erased) (expected : ValueType) : Except MappingError Value :=
  if erased.type = expected then .ok erased.value
  else .error (.typeMismatch expected.name erased.type.name)

def isType (erased : Erased) (type : ValueType) : Bool := erased.type = type

def shown (erased : Erased) : String :=
  Text.shown "AnyValue" [("type", Text.quoted erased.type.name)] false

theorem valueAs_eq_ok_iff {erased : Erased} {expected : ValueType} {value : Value} :
    erased.valueAs expected = .ok value ↔ erased = ⟨expected, value⟩ := by
  obtain ⟨type, held⟩ := erased
  by_cases h : type = expected <;> simp [valueAs, h]

end Erased

end RecordMapping
