import RecordMapping.Record

namespace RecordMapping

/-- One of the four record types of a session. -/
abbrev Slot := Fin 4

inductive ValueType where
  | bool
  | u8
  | i32
  | u32
  | i64
  | u64
  | f64
  | text
  | optionalText
  | integers
  | record (slot : Slot)
  | records (slot : Slot)
  deriving Repr, DecidableEq, Inhabited

namespace ValueType

def name : ValueType → String
  | .bool => "bool"
  | .u8 => "u8"
  | .i32 => "i32"
  | .u32 => "u32"
  | .i64 => "i64"
  | .u64 => "u64"
  | .f64 => "f64"
  | .text => "alloc::string::String"
  | .optionalText => "core::option::Option<alloc::string::String>"
  | .integers => "alloc::vec::Vec<i64>"
  | .record slot => "driver::types::Rec<" ++ toString slot.val ++ ">"
  | .records slot => "alloc::vec::Vec<driver::types::Rec<" ++ toString slot.val ++ ">>"

end ValueType

namespace Value

/-- An integer brought into a closed range; any other value counts as zero. -/
def clamped (low high : Int) : Value → Value
  | .int number => .int (max low (min high number))
  | _ => .int 0

/-- The items of a list value; any other value has none. -/
def items : Value → List Value
  | .list items => items
  | _ => []

/-- The fields of a record value, and those of `default` for any other value. -/
def fieldsOr (default : Record) : Value → Record
  | .record fields => fields
  | _ => default

/-- A value of type `type` made from any value, given the default record of each slot. -/
def fit (defaults : Slot → Record) : ValueType → Value → Value
  | .bool, .bool flag => .bool flag
  | .bool, _ => .bool false
  | .u8, value => value.clamped 0 0xFF
  | .i32, value => value.clamped (-0x80000000) 0x7FFFFFFF
  | .u32, value => value.clamped 0 0xFFFFFFFF
  | .i64, value => value.clamped (-0x8000000000000000) 0x7FFFFFFFFFFFFFFF
  | .u64, value => value.clamped 0 0xFFFFFFFFFFFFFFFF
  | .f64, .float bits => .float bits
  | .f64, .int number => .float (Binary64.ofInt number)
  | .f64, _ => .float 0
  | .text, .str text => .str text
  | .text, _ => .str ""
  | .optionalText, .str text => .str text
  | .optionalText, _ => .null
  | .integers, value => .list (value.items.map (clamped (-0x8000000000000000) 0x7FFFFFFFFFFFFFFF))
  | .record slot, value => .record (value.fieldsOr (defaults slot))
  | .records slot, value =>
    .list (value.items.map fun item => .record (item.fieldsOr (defaults slot)))

end Value

end RecordMapping
