import RecordMapping.Binding
import RecordMapping.Event

namespace RecordMapping

/-- How a computation ended: with a result, with a mapping error, or cut short by a panic. -/
inductive Outcome (α : Type) where
  | ok (result : α)
  | error (cause : MappingError)
  | panic (text : String)
  deriving Repr, DecidableEq, Inhabited

namespace Outcome

variable {α β : Type}

def ofExcept : Except MappingError α → Outcome α
  | .ok result => .ok result
  | .error cause => .error cause

def map (f : α → β) : Outcome α → Outcome β
  | .ok result => .ok (f result)
  | .error cause => .error cause
  | .panic text => .panic text

end Outcome

/-- What is told about a member: its description, whether its parts agree, its debugging form. -/
structure MemberReport where
  name : String
  valueType : ValueType
  readable : Bool
  writable : Bool
  agrees : Bool
  shown : String
  deriving Repr, DecidableEq

def Property.report {α : Type} (property : Property α) : MemberReport where
  name := property.name
  valueType := property.valueType
  readable := property.isReadable
  writable := property.isWritable
  agrees := property.signature = ⟨property.name, property.valueType⟩
  shown := property.shown

inductive Answer where
  | unit
  | flag (flag : Bool)
  | count (count : Nat)
  | text (text : String)
  | value (value : Value)
  | optional (value : Option Value)
  | erased (erased : Erased)
  | bindings (bindings : List Binding)
  | summary (build assignments : Nat) (bindings : List Binding)
  | outputs (outputs : List (Outcome Value)) (onePlan : Bool)
  | types (types : List ValueType)
  | pairs (pairs : List (ValueType × ValueType))
  | source (label : String) (valueType : ValueType) (agrees : Bool)
  | members (members : List MemberReport)
  | size (size : Nat) (empty : Bool)
  | identity (sameType samePair : Bool) (left right : ValueType)
  | failure (error : MappingError) (equal copied : Bool)
  deriving Repr, DecidableEq, Inhabited

abbrev Reply := Outcome Answer

/-- A question to a mapping service: may the source be bridged into the destination? The source is
a member, or a value computed by a closure. -/
inductive Question where
  | member (dest source : Signature)
  | computed (source dest : Signature)
  deriving Repr, DecidableEq

namespace Question

def dest : Question → Signature
  | .member dest _ => dest
  | .computed _ dest => dest

def source : Question → Signature
  | .member _ source => source
  | .computed source _ => source

end Question

inductive LogEntry where
  | asked (question : Question)
  | read (member : String) (value : Value)
  | written (member : String) (value : Value)
  | computed (value : Value)
  | hooked (value : Value)
  | standIn (erased : Erased)
  | performed (reply : Reply)
  | event (event : Event)
  deriving Repr, DecidableEq, Inhabited

end RecordMapping
