import RecordMapping.Text.Shown

namespace RecordMapping

inductive Binding.Kind where
  | auto
  | custom
  | ignored
  deriving Repr, DecidableEq

def Binding.Kind.name : Binding.Kind → String
  | .auto => "Auto"
  | .custom => "Custom"
  | .ignored => "Ignored"

/-- A destination member and the label of its source; an ignored member has no source. -/
structure Binding where
  name : String
  kind : Binding.Kind
  source : Option String
  deriving Repr, DecidableEq

namespace Binding

def ignored (name : String) : Binding := ⟨name, .ignored, none⟩

def shown (binding : Binding) : String :=
  let source := match binding.source with
    | some label => "Some(" ++ Text.quoted label ++ ")"
    | none => "None"
  Text.shown "MemberBinding"
    [("name", Text.quoted binding.name), ("kind", binding.kind.name), ("source", source)] true

end Binding

end RecordMapping
