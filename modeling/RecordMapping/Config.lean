import RecordMapping.Plan

namespace RecordMapping

inductive Omission where
  | explicit
  | unmatched
  | unbridged
  deriving Repr, DecidableEq

abbrev Ignored := OrderedMap String Omission

/-- An assignment registered for one destination member, with the member's declared name. -/
structure CustomMember (κ : Type) where
  dest : String
  label : String
  assignment : Assignment κ

/-- What a mapper has been told. Members are keyed by their folded names. -/
structure Config (κ : Type) where
  ignored : Ignored
  custom : OrderedMap String (CustomMember κ)
  before : Option κ
  after : Option κ
  constructor : Option κ
  deriving Inhabited

namespace Config

variable {κ : Type}

def ignore (config : Config κ) (dest : String) : Config κ :=
  { config with ignored := config.ignored.insert (Text.fold dest) .explicit }

def register (config : Config κ) (custom : CustomMember κ) : Config κ :=
  { config with custom := config.custom.insert (Text.fold custom.dest) custom }

end Config

end RecordMapping
