import RecordMapping.Property

namespace RecordMapping

inductive Access where
  | readWrite
  | readOnly
  | writeOnly
  deriving Repr, DecidableEq

namespace Access

def reads : Access → Bool
  | .writeOnly => false
  | _ => true

def writes : Access → Bool
  | .readOnly => false
  | _ => true

end Access

/-- A member kept in a record under a key of its own. -/
structure Field where
  name : String
  valueType : ValueType
  access : Access
  key : String
  logged : Bool
  deriving Repr, DecidableEq

/-- Reading fits what the key holds to the member's type; writing stores the value as it is. -/
def Field.property (field : Field) (defaults : Slot → Record) : Property Record where
  name := field.name
  valueType := field.valueType
  get? := if field.access.reads then
    some fun record => (record.get field.key).fit defaults field.valueType else none
  set? := if field.access.writes then
    some fun record value => record.insert field.key value else none
  logged := field.logged

/-- A member of the type's own, or all members of the record embedded under a key. -/
inductive Member where
  | field (field : Field)
  | embedded (slot : Slot) (key : String)
  deriving Repr, DecidableEq

structure Layout where
  members : List Member
  default : Record
  deriving Repr, DecidableEq

namespace Record

/-- The record kept under `key`; without one, the empty record. -/
def part (key : String) (record : Record) : Record := (record.get key).fields

/-- Changes the record kept under `key`, starting from the empty record when there is none. -/
def updatePart (key : String) (change : Record → Record) (record : Record) : Record :=
  record.insert key (.record (change (record.part key)))

end Record

/-- The four record types of a session. -/
structure Schema where
  layout : Slot → Layout

namespace Schema

def default (schema : Schema) (slot : Slot) : Record := (schema.layout slot).default

def fit (schema : Schema) (type : ValueType) (value : Value) : Value :=
  value.fit schema.default type

def erase (schema : Schema) (type : ValueType) (value : Value) : Erased :=
  ⟨type, schema.fit type value⟩

/-- A record of the slot made from any value. -/
def record (schema : Schema) (slot : Slot) (value : Value) : Record :=
  value.fieldsOr (schema.default slot)

/-- The members of a slot with embedded records opened to a limited depth. -/
def propertiesWithin (schema : Schema) : Nat → Slot → List (Property Record)
  | 0, _ => []
  | depth + 1, slot => (schema.layout slot).members.flatMap fun
    | .field field => [field.property schema.default]
    | .embedded inner key => (schema.propertiesWithin depth inner).map fun property =>
      property.lift (Record.part key) (Record.updatePart key)

/-- The members of a slot in declaration order. Four slots nest at most four deep. -/
def properties (schema : Schema) (slot : Slot) : List (Property Record) :=
  schema.propertiesWithin 4 slot

end Schema

/-- The type name of a slot's records. -/
def Slot.typeName (slot : Slot) : String := (ValueType.record slot).name

end RecordMapping
