import RecordMapping.Proofs.CompileOnce

namespace RecordMapping

variable {σ κ : Type}

inductive Failure where
  | error (cause : MappingError)
  | panic (text : String)
  deriving Repr, DecidableEq

def Failure.outcome {α : Type} : Failure → Outcome α
  | .error cause => .error cause
  | .panic text => .panic text

theorem Failure.outcome_ne_ok {α : Type} (failure : Failure) (result : α) :
    failure.outcome ≠ .ok result := by
  cases failure <;> simp [Failure.outcome]

namespace Mapper

def assembled (id : MapperId) (mapper : Mapper κ) (composition : Composition κ) : Plan κ where
  mapper := id
  build := mapper.builds + 1
  source := mapper.source
  dest := mapper.dest
  constructor := mapper.config.constructor
  before := mapper.config.before
  assignments := composition.assignments
  after := mapper.config.after
  bindings := composition.bindings

namespace Action

def assigns? : Action κ → Option String
  | .assignMember dest _ | .assignSource dest _ | .assignComputed dest _ _ => some dest
  | _ => none

/-- Why a configuring action fails before it comes to the lock: a member that is not there or of the
wrong mode, or the service's own failure. -/
def objection? (schema : Schema) (dialogue : Dialogue σ κ) (mapper : Mapper κ) (state : σ) :
    Action κ → Option Failure
  | .ignore dest =>
    match Property.member (Slot.typeName mapper.dest) (schema.properties mapper.dest) dest with
    | .error error => some (.error error)
    | .ok _ => none
  | .assignMember dest source =>
    match Property.readableMember (Slot.typeName mapper.source) (schema.properties mapper.source)
        source with
    | .error error => some (.error error)
    | .ok property => sourced dest (.member property)
  | .assignSource dest source => sourced dest source
  | .assignComputed dest type compute =>
    match Property.writableMember (Slot.typeName mapper.dest) (schema.properties mapper.dest)
        dest with
    | .error error => some (.error error)
    | .ok member =>
      let source : Source κ := .computed ("fn -> " ++ type.name) type compute
      if type = member.valueType then none
      else answered (.computed source.signature member.signature)
  | _ => none
where
  answered (question : Question) : Option Failure :=
    match (dialogue.ask question state).1 with
    | .convert _ => none
    | .refuse error => some (.error error)
    | .panic text => some (.panic text)
  sourced (dest : String) (source : Source κ) : Option Failure :=
    match Property.writableMember (Slot.typeName mapper.dest) (schema.properties mapper.dest)
        dest with
    | .error error => some (.error error)
    | .ok member => answered (.member member.signature source.signature)

inductive Sets : Action κ → (Config κ → Config κ) → Prop where
  | ignore {dest name : String} (same : Text.fold name = Text.fold dest) :
    Sets (.ignore dest) (·.ignore name)
  | register {action : Action κ} {dest : String} {assignment : Assignment κ}
    (assigns : action.assigns? = some dest)
    (same : Text.fold assignment.dest.name = Text.fold dest) :
    Sets action (·.register ⟨assignment.dest.name, assignment.source.label, assignment⟩)
  | before (hook : κ) : Sets (.runBefore hook) fun config => { config with before := some hook }
  | after (hook : κ) : Sets (.runAfter hook) fun config => { config with after := some hook }
  | constructor (made : κ) :
    Sets (.construct made) fun config => { config with constructor := some made }

/-- What the service is asked and answers during the build that an action carries out. -/
def heard (schema : Schema) (dialogue : Dialogue σ κ) (action : Action κ) (mapper : Mapper κ)
    (state : σ) : List (Exchange κ) :=
  if mapper.poisoned then []
  else match action with
    | .compile => if mapper.compiled.isSome then [] else exchanges state
    | .recompile =>
      exchanges (dialogue.report (.recompileForced mapper.source mapper.dest) state)
    | _ => []
where
  exchanges (state : σ) : List (Exchange κ) :=
    Plan.heard dialogue (schema.properties mapper.source) (schema.properties mapper.dest)
      mapper.config state

section Effect

variable (schema : Schema) (dialogue : Dialogue σ κ) (id : MapperId) (mapper : Mapper κ) (state : σ)
  (action : Action κ)

structure Builds (composed : Except String (Composition κ)) (config : Config κ) : Prop where
  building : action.composition? schema dialogue mapper state = some composed
  built : Plan.Built dialogue (schema.properties mapper.source) (schema.properties mapper.dest)
    mapper.config (action.heard schema dialogue mapper state) composed config

/-- The ways an action can end: its outcome, and the mapper afterwards. -/
inductive Effect : Outcome (Option (Plan κ)) → Mapper κ → Prop where
  | objected {failure : Failure} (configures : action.configures = true)
    (told : action.objection? schema dialogue mapper state = some failure) :
    Effect failure.outcome mapper
  | locked (told : action.objection? schema dialogue mapper state = none)
    (poisoned : mapper.poisoned = true) : Effect (.error .lockPoisoned) mapper
  | set {change : Config κ → Config κ}
    (told : action.objection? schema dialogue mapper state = none)
    (healthy : mapper.poisoned = false) (sets : action.Sets change) :
    Effect (.ok none) { mapper with config := change mapper.config }
  | reused {plan : Plan κ} (uses : action = .compile) (healthy : mapper.poisoned = false)
    (cached : mapper.compiled = some plan) : Effect (.ok (some plan)) mapper
  | built {composition : Composition κ} {config : Config κ}
    (builds : action.Builds schema dialogue mapper state (.ok composition) config) :
    Effect (.ok (some (mapper.assembled id composition)))
      { mapper with
        config := config
        compiled := some (mapper.assembled id composition)
        builds := mapper.builds + 1 }
  | aborted {text : String} {config : Config κ}
    (builds : action.Builds schema dialogue mapper state (.error text) config) :
    Effect (.panic text) { mapper with config := config, poisoned := true }

end Effect

variable {schema : Schema} {dialogue : Dialogue σ κ} {id : MapperId} {mapper : Mapper κ} {state : σ}
  {action : Action κ}

theorem configure_effect {setting : Setting} {change : Config κ → Config κ} (start : σ)
    (told : action.objection? schema dialogue mapper state = none) (sets : action.Sets change) :
    let done := perform.plain (mapper.configure dialogue setting change start)
    action.Effect schema dialogue id mapper state done.1 done.2.1 := by
  intro done
  cases poisoned : mapper.poisoned with
  | true =>
    have same : done = (.error .lockPoisoned, mapper, start) := by
      simp [done, perform.plain, Mapper.configure, poisoned, Outcome.map]
    rw [same]
    exact .locked told poisoned
  | false =>
    have outcome : done.1 = .ok none := by
      simp [done, perform.plain, Mapper.configure, poisoned, Outcome.map]
    have later : done.2.1 = { mapper with config := change mapper.config } := by
      simp [done, perform.plain, Mapper.configure, poisoned]
    rw [outcome, later]
    exact .set told poisoned sets

theorem negotiate_effect {question : Question} {source : Source κ} {member : Property Record}
    {dest : String} (configures : action.configures = true)
    (told : action.objection? schema dialogue mapper state =
      objection?.answered dialogue state question)
    (assigns : action.assigns? = some dest) (same : Text.fold member.name = Text.fold dest) :
    let done := perform.plain (mapper.negotiate dialogue question source member state)
    action.Effect schema dialogue id mapper state done.1 done.2.1 := by
  obtain ⟨answer, next, heard⟩ : ∃ answer next, dialogue.ask question state = (answer, next) :=
    ⟨_, _, rfl⟩
  simp only [Mapper.negotiate, heard]
  simp only [objection?.answered, heard] at told
  cases answer with
  | convert converter => exact configure_effect _ told (.register assigns same)
  | refuse error | panic text => exact .objected configures told

theorem fold_of_member {type name : String} {properties : List (Property Record)}
    {property : Property Record} (found : Property.member type properties name = .ok property) :
    Text.fold property.name = Text.fold name :=
  Property.fold_of_named? (Property.member_eq_ok_iff.mp found)

theorem fold_of_writableMember {type name : String} {properties : List (Property Record)}
    {property : Property Record}
    (found : Property.writableMember type properties name = .ok property) :
    Text.fold property.name = Text.fold name :=
  Property.fold_of_named? (Property.writableMember_eq_ok_iff.mp found).1

theorem assignSource_effect {dest : String} {source : Source κ}
    (configures : action.configures = true)
    (told : action.objection? schema dialogue mapper state =
      objection?.sourced schema dialogue mapper state dest source)
    (assigns : action.assigns? = some dest) :
    let done := perform.plain (mapper.assignSource schema dialogue dest source state)
    action.Effect schema dialogue id mapper state done.1 done.2.1 := by
  simp only [Mapper.assignSource]
  simp only [objection?.sourced] at told
  cases named : Property.writableMember (Slot.typeName mapper.dest) (schema.properties mapper.dest)
      dest with
  | error error =>
    rw [named] at told
    exact .objected configures told
  | ok member =>
    rw [named] at told
    exact negotiate_effect configures told assigns (fold_of_writableMember named)

/-- A build goes by the transcript of what it asks, and a use that carries one out is that build. -/
theorem heard_built (id : MapperId) {composed : Except String (Composition κ)}
    (building : action.composition? schema dialogue mapper state = some composed) :
    ∃ start, Plan.heard dialogue (schema.properties mapper.source) (schema.properties mapper.dest)
        mapper.config start = action.heard schema dialogue mapper state ∧
      composition?.composed schema dialogue mapper start = composed ∧
      action.perform schema dialogue id mapper state =
        perform.given (mapper.rebuild schema dialogue id start) := by
  unfold composition? at building
  split at building
  next => simp at building
  next healthy =>
    have healthy : mapper.poisoned = false := by simpa using healthy
    cases action with
    | compile =>
      simp only at building
      split at building
      next => simp at building
      next uncached =>
        have uncached : mapper.compiled = none := by simpa using uncached
        refine ⟨state, ?_, Option.some.inj building, ?_⟩
        · simp [heard, heard.exchanges, healthy, uncached]
        · simp [perform, Mapper.compile, healthy, uncached]
    | recompile =>
      refine ⟨_, ?_, Option.some.inj building, ?_⟩
      · simp [heard, heard.exchanges, healthy]
      · simp [perform, Mapper.recompile, healthy]
    | _ => simp at building

/-- A build carries out what its transcript says, and its outcome is what it has composed. -/
theorem perform_builds (id : MapperId) {composed : Except String (Composition κ)}
    (building : action.composition? schema dialogue mapper state = some composed) :
    ∃ config next, action.Builds schema dialogue mapper state composed config ∧
      action.perform schema dialogue id mapper state =
        match composed with
        | .ok composition =>
          (.ok (some (mapper.assembled id composition)),
            { mapper with
              config := config
              compiled := some (mapper.assembled id composition)
              builds := mapper.builds + 1 }, next)
        | .error text =>
          (.panic text, { mapper with config := config, poisoned := true }, next) := by
  obtain ⟨start, transcript, same, performed⟩ := heard_built id building
  have built := Plan.compose_built dialogue (schema.properties mapper.source)
    (schema.properties mapper.dest) mapper.config start
  rw [transcript] at built
  obtain ⟨outcome, config, next, composed'⟩ : ∃ outcome config next,
      Plan.compose dialogue (schema.properties mapper.source) (schema.properties mapper.dest)
        mapper.config start = (outcome, config, next) := ⟨_, _, _, rfl⟩
  rw [composed'] at built
  obtain rfl : outcome = composed := by rw [← same, composition?.composed, composed']
  -- A build changes nothing but what is ignored, so the plan has the closures configured before it.
  have others : config = { mapper.config with ignored := config.ignored } := built.others
  simp only [performed, perform.given, rebuild, composed']
  cases outcome with
  | error text => exact ⟨config, next, ⟨building, built⟩, rfl⟩
  | ok composition =>
    have constructor : config.constructor = mapper.config.constructor := by rw [others]
    have before : config.before = mapper.config.before := by rw [others]
    have after : config.after = mapper.config.after := by rw [others]
    dsimp only
    rw [constructor, before, after]
    exact ⟨config, _, ⟨building, built⟩, rfl⟩

theorem rebuild_effect {composed : Except String (Composition κ)}
    (building : action.composition? schema dialogue mapper state = some composed) :
    let done := action.perform schema dialogue id mapper state
    action.Effect schema dialogue id mapper state done.1 done.2.1 := by
  intro done
  obtain ⟨config, next, builds, performed⟩ := perform_builds id building
  simp only [done, performed]
  cases composed with
  | ok composition => exact .built builds
  | error text => exact .aborted builds

theorem objection?_of_uses (uses : action.configures = false) :
    action.objection? schema dialogue mapper state = none := by
  cases action <;> simp_all [objection?, Action.configures]

theorem use_effect (uses : action.configures = false) :
    let done := action.perform schema dialogue id mapper state
    action.Effect schema dialogue id mapper state done.1 done.2.1 := by
  have told : action.objection? schema dialogue mapper state = none := objection?_of_uses uses
  cases poisoned : mapper.poisoned with
  | true =>
    rw [perform_of_poisoned uses poisoned]
    exact .locked told poisoned
  | false =>
    cases building : action.composition? schema dialogue mapper state with
    | some composed => exact rebuild_effect building
    | none =>
      cases action with
      | compile =>
        cases cached : mapper.compiled with
        | some plan =>
          rw [perform_compile_of_compiled poisoned cached]
          exact .reused rfl poisoned cached
        | none => simp [composition?, poisoned, cached] at building
      | recompile => simp [composition?, poisoned] at building
      | _ => simp [Action.configures] at uses

theorem composition?_of_configures (configures : action.configures = true) :
    action.composition? schema dialogue mapper state = none := by
  unfold composition?
  split
  next => rfl
  next => cases action <;> simp_all [Action.configures]

theorem uses_of_composition {composed : Except String (Composition κ)}
    (building : action.composition? schema dialogue mapper state = some composed) :
    action.configures = false ∧ mapper.poisoned = false := by
  constructor
  · cases configures : action.configures with
    | false => rfl
    | true => simp [composition?_of_configures configures] at building
  · cases poisoned : mapper.poisoned with
    | false => rfl
    | true => simp [composition?, poisoned] at building

theorem Sets.configures {change : Config κ → Config κ} (sets : action.Sets change) :
    action.configures = true := by
  cases sets with
  | register assigns => cases action <;> simp_all [assigns?, Action.configures]
  | ignore | before | after | constructor => rfl

/-- Whatever an action does to its mapper is one of its effects. -/
theorem perform_effect (schema : Schema) (dialogue : Dialogue σ κ) (id : MapperId)
    (action : Action κ) (mapper : Mapper κ) (state : σ) :
    let done := action.perform schema dialogue id mapper state
    action.Effect schema dialogue id mapper state done.1 done.2.1 := by
  cases action with
  | ignore dest =>
    dsimp only [perform, Mapper.ignore]
    split
    next error named =>
      have told : objection? schema dialogue mapper state
          (.ignore dest) = some (.error error) := by
        simp only [objection?, named]
      exact .objected rfl told
    next member named =>
      exact configure_effect state (by simp [objection?, named]) (.ignore (fold_of_member named))
  | assignMember dest source =>
    dsimp only [perform, Mapper.assignMember]
    split
    next error named =>
      have told : objection? schema dialogue mapper state
          (.assignMember dest source) = some (.error error) := by
        simp only [objection?, named]
      exact .objected rfl told
    next property named => exact assignSource_effect rfl (by simp [objection?, named]) rfl
  | assignSource dest source => exact assignSource_effect rfl rfl rfl
  | assignComputed dest type compute =>
    dsimp only [perform, Mapper.assignComputed]
    split
    next error named =>
      have told : objection? schema dialogue mapper state
          (.assignComputed dest type compute) = some (.error error) := by
        simp only [objection?, named]
      exact .objected rfl told
    next member named =>
      have same := fold_of_writableMember named
      split
      next agree =>
        exact configure_effect _ (by simp [objection?, named, agree]) (.register rfl same)
      next differ => exact negotiate_effect rfl (by simp [objection?, named, differ]) rfl same
  | runBefore hook => exact configure_effect state rfl (.before hook)
  | runAfter hook => exact configure_effect state rfl (.after hook)
  | construct made => exact configure_effect state rfl (.constructor made)
  | compile | recompile => exact use_effect rfl

/-- An action that fails before it comes to the lock leaves the mapper as it is. -/
theorem perform_objected {failure : Failure}
    (told : action.objection? schema dialogue mapper state = some failure) :
    (action.perform schema dialogue id mapper state).1 = failure.outcome ∧
      (action.perform schema dialogue id mapper state).2.1 = mapper := by
  have effect := action.perform_effect schema dialogue id mapper state
  dsimp only at effect
  have stray {composed : Except String (Composition κ)} {config : Config κ}
      (builds : action.Builds schema dialogue mapper state composed config) : False := by
    have uses := (uses_of_composition builds.building).1
    exact absurd (told.symm.trans (objection?_of_uses uses)) (by simp)
  generalize (action.perform schema dialogue id mapper state).1 = outcome at effect ⊢
  generalize (action.perform schema dialogue id mapper state).2.1 = later at effect ⊢
  cases effect with
  | objected configures told' =>
    obtain rfl := Option.some.inj (told.symm.trans told')
    exact ⟨rfl, rfl⟩
  | locked told' | set told' => exact absurd (told.symm.trans told') (by simp)
  | reused uses =>
    subst uses
    simp [objection?] at told
  | built builds | aborted builds => exact (stray builds).elim

/-- An action that comes to the lock of a poisoned mapper is turned away there. -/
theorem perform_locked (told : action.objection? schema dialogue mapper state = none)
    (poisoned : mapper.poisoned = true) :
    (action.perform schema dialogue id mapper state).1 = .error .lockPoisoned ∧
      (action.perform schema dialogue id mapper state).2.1 = mapper := by
  have effect := action.perform_effect schema dialogue id mapper state
  dsimp only at effect
  have stray {composed : Except String (Composition κ)} {config : Config κ}
      (builds : action.Builds schema dialogue mapper state composed config) : False := by
    have healthy := (uses_of_composition builds.building).2
    exact absurd (poisoned.symm.trans healthy) (by simp)
  generalize (action.perform schema dialogue id mapper state).1 = outcome at effect ⊢
  generalize (action.perform schema dialogue id mapper state).2.1 = later at effect ⊢
  cases effect with
  | objected configures told' => exact absurd (told.symm.trans told') (by simp)
  | locked => exact ⟨rfl, rfl⟩
  | set told' healthy | reused uses healthy =>
    exact absurd (poisoned.symm.trans healthy) (by simp)
  | built builds | aborted builds => exact (stray builds).elim

end Action

end Mapper

end RecordMapping
