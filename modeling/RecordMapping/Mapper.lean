import RecordMapping.Plan.Build
import RecordMapping.Surroundings

namespace RecordMapping

/-- A panic while the plan is being built poisons a mapper for good. -/
structure Mapper (κ : Type) where
  source : Slot
  dest : Slot
  service : ServiceId
  config : Config κ
  compiled : Option (Plan κ)
  builds : Nat
  poisoned : Bool

namespace Mapper

variable {σ κ : Type}

def new (source dest : Slot) (service : ServiceId) : Mapper κ :=
  ⟨source, dest, service, default, none, 0, false⟩

def shown (mapper : Mapper κ) : String :=
  Text.shown "TypeMapper"
    [("source", Text.quoted (Slot.typeName mapper.source)),
      ("destination", Text.quoted (Slot.typeName mapper.dest)),
      ("compilations", toString mapper.builds)] false

/-- Builds a plan from the current configuration and puts it in place of the cached one. -/
def rebuild (schema : Schema) (dialogue : Dialogue σ κ) (id : MapperId) (mapper : Mapper κ)
    (state : σ) : Outcome (Plan κ) × Mapper κ × σ :=
  match Plan.compose dialogue (schema.properties mapper.source) (schema.properties mapper.dest)
      mapper.config state with
  | (.error text, config, state) =>
    (.panic text, { mapper with config := config, poisoned := true }, state)
  | (.ok composition, config, state) =>
    let builds := mapper.builds + 1
    let plan : Plan κ :=
      { mapper := id, build := builds, source := mapper.source, dest := mapper.dest,
        constructor := config.constructor, before := config.before,
        assignments := composition.assignments, after := config.after,
        bindings := composition.bindings }
    let event :=
      .planCompiled mapper.source mapper.dest composition.assignments.length builds
    (.ok plan, { mapper with config := config, compiled := some plan, builds := builds },
      dialogue.report event state)

/-- The cached plan; without one, a new build. -/
def compile (schema : Schema) (dialogue : Dialogue σ κ) (id : MapperId) (mapper : Mapper κ)
    (state : σ) : Outcome (Plan κ) × Mapper κ × σ :=
  if mapper.poisoned then (.error .lockPoisoned, mapper, state)
  else match mapper.compiled with
    | some plan => (.ok plan, mapper, state)
    | none => mapper.rebuild schema dialogue id state

def recompile (schema : Schema) (dialogue : Dialogue σ κ) (id : MapperId) (mapper : Mapper κ)
    (state : σ) : Outcome (Plan κ) × Mapper κ × σ :=
  if mapper.poisoned then (.error .lockPoisoned, mapper, state)
  else mapper.rebuild schema dialogue id
    (dialogue.report (.recompileForced mapper.source mapper.dest) state)

/-- Changes the configuration; the cached plan stays as it is. -/
def configure (dialogue : Dialogue σ κ) (setting : Setting) (change : Config κ → Config κ)
    (mapper : Mapper κ) (state : σ) : Outcome Unit × Mapper κ × σ :=
  if mapper.poisoned then (.error .lockPoisoned, mapper, state)
  else
    let state := if mapper.compiled.isSome then
      dialogue.report (.changedAfterCompile setting mapper.source mapper.dest) state else state
    (.ok (), { mapper with config := change mapper.config }, state)

/-- Leaves a destination member out of every later plan. -/
def ignore (schema : Schema) (dialogue : Dialogue σ κ) (dest : String) (mapper : Mapper κ)
    (state : σ) : Outcome Unit × Mapper κ × σ :=
  match Property.member (Slot.typeName mapper.dest) (schema.properties mapper.dest) dest with
  | .error error => (.error error, mapper, state)
  | .ok member => mapper.configure dialogue .ignored (·.ignore member.name) state

/-- Registers an assignment for a destination member. -/
def registerCustom (dialogue : Dialogue σ κ) (assignment : Assignment κ) (mapper : Mapper κ)
    (state : σ) : Outcome Unit × Mapper κ × σ :=
  let custom : CustomMember κ := ⟨assignment.dest.name, assignment.source.label, assignment⟩
  mapper.configure dialogue .custom (·.register custom)
    (dialogue.report (.customRegistered custom.dest custom.label) state)

/-- Asks a question and registers the assignment that its answer allows. -/
def negotiate (dialogue : Dialogue σ κ) (question : Question) (source : Source κ)
    (dest : Property Record) (mapper : Mapper κ) (state : σ) : Outcome Unit × Mapper κ × σ :=
  match dialogue.ask question state with
  | (.convert converter, state) => mapper.registerCustom dialogue ⟨source, converter, dest⟩ state
  | (.refuse error, state) => (.error error, mapper, state)
  | (.panic text, state) => (.panic text, mapper, state)

/-- Assigns a source expression to a destination member. -/
def assignSource (schema : Schema) (dialogue : Dialogue σ κ) (dest : String) (source : Source κ)
    (mapper : Mapper κ) (state : σ) : Outcome Unit × Mapper κ × σ :=
  match Property.writableMember (Slot.typeName mapper.dest) (schema.properties mapper.dest)
      dest with
  | .error error => (.error error, mapper, state)
  | .ok member =>
    mapper.negotiate dialogue (.member member.signature source.signature) source member state

/-- Assigns a source member to a destination member. -/
def assignMember (schema : Schema) (dialogue : Dialogue σ κ) (dest source : String)
    (mapper : Mapper κ) (state : σ) : Outcome Unit × Mapper κ × σ :=
  match Property.readableMember (Slot.typeName mapper.source) (schema.properties mapper.source)
      source with
  | .error error => (.error error, mapper, state)
  | .ok property => mapper.assignSource schema dialogue dest (.member property) state

/-- Assigns a computed value to a destination member; the service is asked only when the types
differ. -/
def assignComputed (schema : Schema) (dialogue : Dialogue σ κ) (dest : String) (type : ValueType)
    (compute : κ) (mapper : Mapper κ) (state : σ) : Outcome Unit × Mapper κ × σ :=
  match Property.writableMember (Slot.typeName mapper.dest) (schema.properties mapper.dest)
      dest with
  | .error error => (.error error, mapper, state)
  | .ok member =>
    let source : Source κ := .computed ("fn -> " ++ type.name) type compute
    if type = member.valueType then
      mapper.registerCustom dialogue ⟨source, .identity, member⟩ state
    else mapper.negotiate dialogue (.computed source.signature member.signature) source member state

end Mapper

end RecordMapping
