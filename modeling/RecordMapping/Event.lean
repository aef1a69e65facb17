import RecordMapping.Schema

namespace RecordMapping

inductive Level where
  | trace
  | debug
  | warn
  deriving Repr, DecidableEq

def Level.name : Level → String
  | .trace => "TRACE"
  | .debug => "DEBUG"
  | .warn => "WARN"

/-- The parts of a configuration that a call can change. -/
inductive Setting where
  | ignored
  | custom
  | before
  | after
  | constructor
  deriving Repr, DecidableEq

def Setting.name : Setting → String
  | .ignored => "ignore"
  | .custom => "map_member"
  | .before => "before_map"
  | .after => "after_map"
  | .constructor => "instantiate"

inductive Event where
  | conversionRegistered (source dest : ValueType)
  | planCompiled (source dest : Slot) (assignments compilations : Nat)
  | recompileForced (source dest : Slot)
  | changedAfterCompile (setting : Setting) (source dest : Slot)
  | customRegistered (dest source : String)
  | mapperRegistered (source dest : ValueType)
  | unmatched (member : String) (readOnly : Bool)
  | notBridged (member : String) (error : MappingError)
  deriving Repr, DecidableEq

namespace Event

def level : Event → Level
  | .changedAfterCompile .. => .warn
  | .unmatched .. | .notBridged .. => .trace
  | _ => .debug

def message : Event → String
  | .conversionRegistered .. => "conversion table: registered"
  | .planCompiled .. => "type mapper: compiled plan"
  | .recompileForced .. => "type mapper: forced recompile"
  | .changedAfterCompile .. =>
    "type mapper: configured after compile; change applies on force_recompile"
  | .customRegistered .. => "type mapper: custom member registered"
  | .mapperRegistered .. => "mapper registry: registered"
  | .unmatched .. => "resolver: no writable destination member, ignoring"
  | .notBridged .. => "plan: auto member not bridged, ignoring"

def fields : Event → List (String × String)
  | .conversionRegistered source dest => [("from", source.name), ("to", dest.name)]
  | .planCompiled source dest assignments compilations =>
    [("source", Slot.typeName source), ("destination", Slot.typeName dest),
      ("assignments", toString assignments), ("compilations", toString compilations)]
  | .recompileForced source dest =>
    [("source", Slot.typeName source), ("destination", Slot.typeName dest)]
  | .changedAfterCompile setting source dest =>
    [("operation", setting.name), ("source", Slot.typeName source),
      ("destination", Slot.typeName dest)]
  | .customRegistered dest source => [("dest", dest), ("source", source)]
  | .mapperRegistered source dest => [("source", source.name), ("destination", dest.name)]
  | .unmatched member readOnly =>
    [("member", member), ("read_only", Text.shownBool readOnly)]
  | .notBridged member error => [("member", member), ("error", error.message)]

end Event

end RecordMapping
