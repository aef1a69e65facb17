import RecordMapping.Script

namespace RecordMapping

/-- A readable member of the source record, or a labelled closure over it. -/
inductive Source (κ : Type) where
  | member (property : Property Record)
  | computed (label : String) (valueType : ValueType) (compute : κ)

namespace Source

variable {κ : Type}

def label : Source κ → String
  | .member property => property.name
  | .computed label _ _ => label

def valueType : Source κ → ValueType
  | .member property => property.valueType
  | .computed _ valueType _ => valueType

/-- What a mapping service is told about the source. -/
def signature (source : Source κ) : Signature := ⟨source.label, source.valueType⟩

/-- The value of the source on a record. What a closure computes is fitted to the source's type. -/
def evaluate [Closures κ] (schema : Schema) (record : Record) : Source κ → Script κ Erased
  | .member property => do
    let value := (property.get?.map fun get => get record).getD .null
    if property.logged then .note (.read property.name value)
    return ⟨property.valueType, value⟩
  | .computed _ valueType compute => do
    let value ← Closures.compute compute (.record record)
    return schema.erase valueType value

def shown (source : Source κ) : String :=
  Text.shown "SourceExpr"
    [("label", Text.quoted source.label), ("value_type", Text.quoted source.valueType.name)] false

@[simp] theorem signature_member (property : Property Record) :
    (member property : Source κ).signature = property.signature := rfl

end Source

end RecordMapping
