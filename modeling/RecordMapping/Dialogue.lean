import RecordMapping.Converter

namespace RecordMapping

/-- A service's answer to one question. -/
inductive Resolution (κ : Type) where
  | convert (converter : Converter κ)
  | refuse (error : MappingError)
  | panic (text : String)
  deriving Repr, DecidableEq

def Resolution.ofExcept {κ : Type} : Except MappingError (Converter κ) → Resolution κ
  | .ok converter => .convert converter
  | .error error => .refuse error

/-- A mapper's way to its surroundings, whose state is an `σ`: questions go to a service that may
remember them, and events to whoever listens. -/
structure Dialogue (σ κ : Type) where
  ask : Question → σ → Resolution κ × σ
  report : Event → σ → σ

end RecordMapping
