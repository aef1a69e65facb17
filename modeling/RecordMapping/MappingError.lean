import RecordMapping.Text.Shown

namespace RecordMapping

inductive MappingError where
  | lockPoisoned
  | unknownMember (type member : String)
  | notReadable (type member : String)
  | notWritable (type member : String)
  | unbridgeable (member source dest : String)
  | typeMismatch (expected found : String)
  | noMapper (source dest : String)
  | mapperDropped (source dest : String)
  deriving Repr, DecidableEq, Inhabited

namespace MappingError

/-- Errors of registering a mapping, as opposed to errors of carrying one out. -/
def isConfiguration : MappingError → Bool
  | .unknownMember .. | .notReadable .. | .notWritable .. | .unbridgeable .. => true
  | _ => false

def name : MappingError → String
  | .lockPoisoned => "LockError"
  | .unknownMember .. => "UnknownMember"
  | .notReadable .. => "NotReadable"
  | .notWritable .. => "NotWritable"
  | .unbridgeable .. => "Unbridgeable"
  | .typeMismatch .. => "TypeMismatch"
  | .noMapper .. => "NoMapper"
  | .mapperDropped .. => "MapperDropped"

def message : MappingError → String
  | .lockPoisoned => "Failed to acquire lock"
  | .unknownMember type member => "`" ++ type ++ "` has no member named `" ++ member ++ "`"
  | .notReadable type member => "Member `" ++ type ++ "::" ++ member ++ "` is not readable"
  | .notWritable type member => "Member `" ++ type ++ "::" ++ member ++ "` is not writable"
  | .unbridgeable member source dest =>
    "Cannot map `" ++ source ++ "` into member `" ++ member ++ "` of type `" ++ dest ++ "`"
  | .typeMismatch expected found =>
    "Type mismatch: expected `" ++ expected ++ "`, found `" ++ found ++ "`"
  | .noMapper source dest => "No mapper registered for `" ++ source ++ "` -> `" ++ dest ++ "`"
  | .mapperDropped source dest => "Mapper for `" ++ source ++ "` -> `" ++ dest ++ "` was dropped"

/-- The named texts that an error carries. -/
def details : MappingError → List (String × String)
  | .lockPoisoned => []
  | .unknownMember type member | .notReadable type member | .notWritable type member =>
    [("type_name", type), ("member", member)]
  | .unbridgeable member source dest => [("member", member), ("from", source), ("to", dest)]
  | .typeMismatch expected found => [("expected", expected), ("found", found)]
  | .noMapper source dest | .mapperDropped source dest =>
    [("source", source), ("destination", dest)]

def shown (error : MappingError) : String :=
  Text.shown error.name (error.details.map fun detail => (detail.1, Text.quoted detail.2)) true

end MappingError

end RecordMapping
