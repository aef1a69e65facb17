import RecordMapping.Reply

namespace RecordMapping

/-- What a rule of a mapping service does with a question. A converter that it brings need not be of
the types in question. -/
inductive Verdict (κ : Type) where
  | refuse (error : MappingError)
  | panic
  | supply (type : ValueType) (value : Value)
  | fail (error : MappingError)
  | convert (source dest : ValueType) (convert : κ)

/-- Decides questions about destinations of one name, a limited number of times or always. -/
structure RuledService.Rule (κ : Type) where
  member : String
  verdict : Verdict κ
  uses : Option Nat

/-- Stands in for a mapper: it claims a pair of types, logs what it is given, and always answers the
same. A brittle one panics when it is asked for its types again. -/
structure StandIn where
  source : ValueType
  dest : ValueType
  type : ValueType
  value : Value
  failure : Option MappingError
  brittle : Bool
  deriving Repr, DecidableEq

def StandIn.panicText : String := "fake mapper panic"

/-- A mapper of another make: it claims a pair of types, and runs a closure on what it is given.
What it makes of the outcome may be an error, or a value of a type that it has not claimed. A
brittle one panics when it is asked for its types again. -/
structure CustomMapper (κ : Type) where
  source : ValueType
  dest : ValueType
  compute : κ
  judge : Value → Except MappingError Erased
  brittle : Bool

inductive MapperCall (κ : Type) where
  | ignore (dest : String)
  | assignMember (dest source : String)
  | assignSource (dest expression : String)
  | assignComputed (dest : String) (type : ValueType) (compute : κ)
  | runBefore (hook : κ)
  | runAfter (hook : κ)
  | construct (constructor : κ)
  | compile (keep : Option String)
  | recompile (keep : Option String)
  | isCompiled
  | compileCount
  | bindings
  | map (source : Value) (dest : Option Value)
  | mapConcurrently (clients : Nat) (source : Value)
  | mapErased (type : ValueType) (source : Value)
  | keepErased (keep : String)
  | keepService (keep : String)
  | types

inductive Registry.Call (κ : Type) where
  | register (mapper : String)
  | registerStandIn (double : StandIn)
  | registerCustom (mapper : CustomMapper κ)
  | map (source dest : ValueType) (value : Value)
  | mapErased (source dest : ValueType) (value : Value)
  | contains (source dest : ValueType)
  | remove (source dest : ValueType)
  | size
  | isEmpty
  | pairs

inductive TableCall (κ : Type) where
  | register (source dest : ValueType) (convert : κ)
  | registerMapper (mapper : String)
  | contains (source dest : ValueType)

inductive ErasedCall (κ : Type) where
  | isType (type : ValueType)
  | hasType (type : ValueType)
  | get (type : ValueType)
  | modify (type : ValueType) (change : κ)
  | take (type : ValueType)

/-- Everything an operation works on is named by a handle; `κ` is the type of the closures that
operations may carry. -/
inductive Operation (κ : Type) where
  | newTable (keep : String)
  | table (handle : String) (call : TableCall κ)
  | newService (keep table : String) (rules : List (RuledService.Rule κ))
  | resolve (service : String) (question : Question) (type : ValueType) (value : Value)
  | newMapper (keep : String) (source dest : Slot) (service : Option String)
  | mapper (handle : String) (call : MapperCall κ)
  | callErased (handle : String) (type : ValueType) (value : Value)
  | planInfo (handle : String)
  | planRun (handle : String) (source : Value) (dest : Option Value)
  | memberSource (keep : String) (slot : Slot) (name : String)
  | computedSource (keep : String) (slot : Slot) (type : ValueType) (label : String) (compute : κ)
  | members (slot : Slot)
  | newRegistry (keep : String)
  | registry (handle : String) (call : Registry.Call κ)
  | newErased (keep : String) (type : ValueType) (value : Value)
  | erased (handle : String) (call : ErasedCall κ)
  | compareTypes (left right : ValueType) (other : ValueType × ValueType)
  | examine (error other : MappingError)
  | copy (keep handle : String)
  | drop (handle : String)
  | same (left right : String)
  | inspect (handle : String)

end RecordMapping
