import RecordMapping.Expression
import RecordMapping.Proofs.Chronicle

namespace RecordMapping

variable {σ κ : Type}

def Dialogue.told (dialogue : Dialogue σ κ) (events : List Event) (state : σ) : σ :=
  events.foldl (fun state event => dialogue.report event state) state

namespace Property

def existence (type : String) (properties : List (Property Record)) (name : String) :
    Option MappingError :=
  match named? properties name with
  | some _ => none
  | none => some (.unknownMember type name)

/-- The first member of the name can be used in the way that is asked for. -/
def usability (able : Property Record → Bool) (error : String → MappingError)
    (properties : List (Property Record)) (name : String) : Option MappingError :=
  (named? properties name).bind fun property =>
    if able property then none else some (error property.name)

end Property

namespace Mapper.Action

section Checks

variable (schema : Schema) (dialogue : Dialogue σ κ) (mapper : Mapper κ) (state : σ)

def selections : Action κ → List (Option MappingError)
  | .ignore dest => [Property.existence destType dests dest]
  | .assignMember dest source =>
    [Property.existence sourceType sources source,
      Property.usability Property.isReadable (.notReadable sourceType) sources source,
      Property.existence destType dests dest,
      Property.usability Property.isWritable (.notWritable destType) dests dest]
  | .assignSource dest _ | .assignComputed dest _ _ =>
    [Property.existence destType dests dest,
      Property.usability Property.isWritable (.notWritable destType) dests dest]
  | _ => []
where
  sourceType : String := Slot.typeName mapper.source
  destType : String := Slot.typeName mapper.dest
  sources : List (Property Record) := schema.properties mapper.source
  dests : List (Property Record) := schema.properties mapper.dest

/-- What an action has to ask the service about the first members of the names. A computed value of
the member's own type needs no service. -/
def question? : Action κ → Option Question
  | .assignMember dest source => do
    let property ← Property.named? (schema.properties mapper.source) source
    let member ← Property.named? (schema.properties mapper.dest) dest
    return .member member.signature property.signature
  | .assignSource dest source => do
    let member ← Property.named? (schema.properties mapper.dest) dest
    return .member member.signature source.signature
  | .assignComputed dest type _ => do
    let member ← Property.named? (schema.properties mapper.dest) dest
    if type = member.valueType then none
    else return .computed ⟨"fn -> " ++ type.name, type⟩ member.signature
  | _ => none

def checks (action : Action κ) : List (Option Failure) :=
  (action.selections schema mapper).map (Option.map .error) ++
    [(action.question? schema mapper).bind (objection?.answered dialogue state),
      if mapper.poisoned then some (.error .lockPoisoned) else none]

/-- The questions that an action comes to ask: one at most, after the members have been checked. -/
def asks (action : Action κ) : List Question :=
  match (action.selections schema mapper).findSome? id with
  | none => (action.question? schema mapper).toList
  | some _ => []

def consulted (action : Action κ) : σ :=
  (action.asks schema mapper).foldl (fun state question => (dialogue.ask question state).2) state

end Checks

variable {schema : Schema} {dialogue : Dialogue σ κ} {mapper : Mapper κ} {state : σ}

theorem objection?_checked (action : Action κ) :
    action.objection? schema dialogue mapper state =
      ((action.selections schema mapper).map (Option.map Failure.error) ++
        [(action.question? schema mapper).bind
          (objection?.answered dialogue state)]).findSome? id := by
  cases action with
  | ignore dest =>
    simp only [objection?, selections, selections.dests, selections.destType, Property.member,
      Property.existence]
    cases Property.named? (schema.properties mapper.dest) dest <;> rfl
  | assignMember dest source =>
    simp only [objection?, objection?.sourced, selections, selections.dests, selections.destType,
      selections.sources, selections.sourceType, question?, Property.readableMember,
      Property.writableMember, Property.usableMember, Property.member, Property.existence,
      Property.usability]
    cases Property.named? (schema.properties mapper.source) source with
    | none => rfl
    | some property =>
      cases readable : property.isReadable with
      | false => simp [readable]
      | true =>
        cases Property.named? (schema.properties mapper.dest) dest with
        | none => simp [readable]
        | some member => cases writable : member.isWritable <;> simp [readable, writable]
  | assignSource dest source =>
    simp only [objection?, objection?.sourced, selections, selections.dests, selections.destType,
      question?, Property.writableMember, Property.usableMember, Property.member,
      Property.existence, Property.usability]
    cases Property.named? (schema.properties mapper.dest) dest with
    | none => rfl
    | some member => cases writable : member.isWritable <;> simp [writable]
  | assignComputed dest type compute =>
    simp only [objection?, selections, selections.dests, selections.destType, question?,
      Property.writableMember, Property.usableMember, Property.member, Property.existence,
      Property.usability]
    cases Property.named? (schema.properties mapper.dest) dest with
    | none => rfl
    | some member =>
      cases writable : member.isWritable with
      | false => simp [writable]
      | true =>
        by_cases agree : type = member.valueType
        · simp [writable, agree]
        · simp [writable, agree, Source.signature, Source.label, Source.valueType]
  | runBefore | runAfter | construct | compile | recompile => rfl

theorem consulted_of_no_question {action : Action κ}
    (unasked : action.question? schema mapper = none) :
    action.consulted schema dialogue mapper state = state := by
  have silent : action.asks schema mapper = [] := by
    unfold asks
    split
    next => rw [unasked]; rfl
    next => rfl
  rw [consulted, silent]
  rfl

theorem configure_told (mapper : Mapper κ) (dialogue : Dialogue σ κ) (setting : Setting)
    (change : Config κ → Config κ) (start : σ) :
    ∃ events,
      (mapper.configure dialogue setting change start).2.2 = dialogue.told events start := by
  unfold Mapper.configure
  split
  next => exact ⟨[], rfl⟩
  next =>
    by_cases cached : mapper.compiled.isSome = true
    · exact ⟨[.changedAfterCompile setting mapper.source mapper.dest],
        by simp [cached, Dialogue.told]⟩
    · exact ⟨[], by simp [cached, Dialogue.told]⟩

theorem registerCustom_told (assignment : Assignment κ) (start : σ) :
    ∃ events, (mapper.registerCustom dialogue assignment start).2.2 =
      dialogue.told events start := by
  let event : Event := .customRegistered assignment.dest.name assignment.source.label
  obtain ⟨events, told⟩ := configure_told mapper dialogue .custom
    (·.register ⟨assignment.dest.name, assignment.source.label, assignment⟩)
    (dialogue.report event start)
  exact ⟨event :: events, told⟩

theorem negotiate_told (question : Question) (source : Source κ) (dest : Property Record) :
    ∃ events, (mapper.negotiate dialogue question source dest state).2.2 =
      dialogue.told events (dialogue.ask question state).2 := by
  obtain ⟨answer, next, heard⟩ : ∃ answer next, dialogue.ask question state = (answer, next) :=
    ⟨_, _, rfl⟩
  simp only [Mapper.negotiate, heard]
  cases answer with
  | convert converter => exact registerCustom_told _ next
  | refuse error | panic text => exact ⟨[], rfl⟩

theorem assignSource_told (schema : Schema) (dialogue : Dialogue σ κ) (mapper : Mapper κ)
    (state : σ) (dest : String) (source : Source κ) :
    ∃ events, (mapper.assignSource schema dialogue dest source state).2.2 =
      dialogue.told events ((assignSource dest source).consulted schema dialogue mapper state) := by
  simp only [Mapper.assignSource, consulted, asks, selections, selections.dests,
    selections.destType, question?, Property.writableMember, Property.usableMember, Property.member,
    Property.existence, Property.usability]
  cases Property.named? (schema.properties mapper.dest) dest with
  | none => exact ⟨[], rfl⟩
  | some member =>
    cases writable : member.isWritable with
    | false => exact ⟨[], by simp [writable, Dialogue.told]⟩
    | true => simpa [writable] using negotiate_told _ source member

/-- Beyond its questions a configuring call does nothing to the surroundings but report. -/
theorem perform_told (schema : Schema) (dialogue : Dialogue σ κ) (mapper : Mapper κ) (state : σ)
    (id : MapperId) {action : Action κ} (configures : action.configures = true) :
    ∃ events, (action.perform schema dialogue id mapper state).2.2 =
      dialogue.told events (action.consulted schema dialogue mapper state) := by
  cases action with
  | ignore dest =>
    rw [consulted_of_no_question rfl]
    simp only [perform, perform.plain, Mapper.ignore]
    split
    next => exact ⟨[], rfl⟩
    next => exact configure_told _ _ _ _ state
  | assignMember dest source =>
    have sourced (property : Property Record) := assignSource_told schema dialogue mapper state dest
      (.member property)
    simp only [perform, perform.plain, Mapper.assignMember, Property.readableMember,
      Property.usableMember, Property.member, consulted, asks, selections, selections.dests,
      selections.destType, selections.sources, selections.sourceType, question?, Property.existence,
      Property.usability] at sourced ⊢
    cases Property.named? (schema.properties mapper.source) source with
    | none => exact ⟨[], rfl⟩
    | some property =>
      cases readable : property.isReadable with
      | false => exact ⟨[], by simp [readable, Dialogue.told]⟩
      | true => simpa [readable] using sourced property
  | assignSource dest source => exact assignSource_told _ _ _ _ dest source
  | assignComputed dest type compute =>
    simp only [perform, perform.plain, Mapper.assignComputed, consulted, asks, selections,
      selections.dests, selections.destType, question?, Property.writableMember,
      Property.usableMember, Property.member, Property.existence, Property.usability]
    cases Property.named? (schema.properties mapper.dest) dest with
    | none => exact ⟨[], rfl⟩
    | some member =>
      cases writable : member.isWritable with
      | false => exact ⟨[], by simp [writable, Dialogue.told]⟩
      | true =>
        by_cases agree : type = member.valueType
        · simpa [writable, agree] using registerCustom_told _ state
        · simpa [writable, agree, Source.signature, Source.label, Source.valueType] using
            negotiate_told (.computed ⟨"fn -> " ++ type.name, type⟩ member.signature)
              (.computed ("fn -> " ++ type.name) type compute) member
  | runBefore hook | runAfter hook | construct made => exact configure_told _ _ _ _ state
  | compile | recompile => simp [Action.configures] at configures

/-- The questions of a configuring call, by the transcript of what it asks. -/
theorem perform_asks (id : MapperId) {action : Action κ} (configures : action.configures = true) :
    (action.perform schema dialogue.transcribed id mapper (state, [])).2.2.2.map (·.question) =
      action.asks schema mapper := by
  have reported (events : List Event) (noted : σ × List (Exchange κ)) :
      (dialogue.transcribed.told events noted).2 = noted.2 := by
    induction events generalizing noted with
    | nil => rfl
    | cons event rest ih => exact ih (dialogue.report event noted.1, noted.2)
  have noted (questions : List Question) (noted : σ × List (Exchange κ)) :
      (questions.foldl (fun state question => (dialogue.transcribed.ask question state).2)
        noted).2.map (·.question) = noted.2.map (·.question) ++ questions := by
    induction questions generalizing noted with
    | nil => simp
    | cons question rest ih =>
      rw [List.foldl_cons, ih]
      simp [Dialogue.transcribed]
  obtain ⟨events, told⟩ := perform_told schema dialogue.transcribed mapper (state, []) id configures
  rw [told, reported, consulted, noted]
  rfl

/-- The failure of the first check that is not passed. -/
def failure? (checks : List (Option Failure)) : Option Failure := checks.findSome? id

def verdict (checks : List (Option Failure)) : Reply :=
  match failure? checks with
  | some failure => failure.outcome
  | none => .ok .unit

theorem failure?_eq_none {checks : List (Option Failure)} :
    failure? checks = none ↔ ∀ check ∈ checks, check = none := by
  simp [failure?]

theorem verdict_eq_ok_iff {checks : List (Option Failure)} :
    verdict checks = .ok .unit ↔ ∀ check ∈ checks, check = none := by
  rw [← failure?_eq_none]
  unfold verdict
  cases failure? checks with
  | some failure => simp [failure.outcome_ne_ok]
  | none => simp

theorem checks_eq (action : Action κ) : action.checks schema dialogue mapper state =
    ((action.selections schema mapper).map (Option.map Failure.error) ++
      [(action.question? schema mapper).bind (objection?.answered dialogue state)]) ++
      [if mapper.poisoned then some (.error .lockPoisoned) else none] := by
  simp [checks]

/-- The first check that is not passed decides, and if it is not passed nothing is changed. -/
theorem perform_of_failed {action : Action κ} {failure : Failure}
    (failed : failure? (action.checks schema dialogue mapper state) = some failure)
    (id : MapperId) :
    (action.perform schema dialogue id mapper state).1 = failure.outcome ∧
      (action.perform schema dialogue id mapper state).2.1 = mapper := by
  rw [failure?, checks_eq, List.findSome?_append, ← objection?_checked] at failed
  cases told : action.objection? schema dialogue mapper state with
  | some other =>
    rw [told] at failed
    obtain rfl : other = failure := by simpa using failed
    exact perform_objected told
  | none =>
    rw [told] at failed
    cases poisoned : mapper.poisoned with
    | false => simp [poisoned] at failed
    | true =>
      obtain rfl : Failure.error .lockPoisoned = failure := by simpa [poisoned] using failed
      exact perform_locked told poisoned

/-- When all checks are passed the configuration is changed, and nothing else is. -/
theorem perform_of_passed {action : Action κ} (configures : action.configures = true)
    (passed : failure? (action.checks schema dialogue mapper state) = none) (id : MapperId) :
    ∃ change, action.Sets change ∧
      (action.perform schema dialogue id mapper state).1 = .ok none ∧
      (action.perform schema dialogue id mapper state).2.1 =
        { mapper with config := change mapper.config } := by
  rw [failure?, checks_eq, List.findSome?_append, ← objection?_checked] at passed
  obtain ⟨told, unlocked⟩ := Option.or_eq_none_iff.mp passed
  have healthy : mapper.poisoned = false := by simpa using unlocked
  have effect := action.perform_effect schema dialogue id mapper state
  dsimp only at effect
  generalize (action.perform schema dialogue id mapper state).1 = outcome at effect ⊢
  generalize (action.perform schema dialogue id mapper state).2.1 = later at effect ⊢
  cases effect with
  | objected _ told' => exact absurd (told.symm.trans told') (by simp)
  | locked _ poisoned => exact absurd (healthy.symm.trans poisoned) (by simp)
  | @set change _ _ sets => exact ⟨change, sets, rfl, rfl⟩
  | reused uses =>
    subst uses
    simp [Action.configures] at configures
  | built builds | aborted builds =>
    have uses := (uses_of_composition builds.building).1
    exact absurd (configures.symm.trans uses) (by simp)

end Mapper.Action

namespace World

/-- Events are found in the log and nowhere else. -/
theorem clearLog_told (world : World κ) (service : ServiceId) (events : List Event)
    (surroundings : Surroundings κ) :
    { world with
      surroundings :=
        (Surroundings.dialogue world.schema service).told events surroundings }.clearLog =
      { world with surroundings := surroundings }.clearLog := by
  induction events generalizing surroundings with
  | nil => rfl
  | cons event rest ih =>
    refine (ih (surroundings.report event)).trans ?_
    unfold Surroundings.report
    split <;> rfl

def checks (world : World κ) (mapper : Mapper κ) (action : Mapper.Action κ) :
    List (Option Failure) :=
  action.checks world.schema (Surroundings.dialogue world.schema mapper.service) mapper
    world.surroundings

def consulted (world : World κ) (mapper : Mapper κ) (action : Mapper.Action κ) : World κ :=
  { world with
    surroundings := action.consulted world.schema
      (Surroundings.dialogue world.schema mapper.service) mapper world.surroundings }

theorem consulted_of_unasked {world : World κ} {mapper : Mapper κ} {action : Mapper.Action κ}
    (unasked : action.asks world.schema mapper = []) : world.consulted mapper action = world := by
  simp only [consulted, Mapper.Action.consulted, unasked, List.foldl_nil]

/-- A table answers without keeping anything of the question. -/
theorem consulted_of_table {world : World κ} {mapper : Mapper κ} {table : Nat}
    (tabular : mapper.service = .table table) (action : Mapper.Action κ) :
    world.consulted mapper action = world := by
  have same : action.consulted world.schema (Surroundings.dialogue world.schema mapper.service)
      mapper world.surroundings = world.surroundings := by
    rw [Mapper.Action.consulted, tabular]
    induction action.asks world.schema mapper with
    | nil => rfl
    | cons question rest ih => exact ih
  rw [consulted, same]

section Serve

variable [Closures κ] {world : World κ} {held : List Hold} {request : Request κ} {id : MapperId}
  {mapper : Mapper κ} {action : Mapper.Action κ}

/-- Operations begin with an empty log, so that they cannot tell what was in it before. -/
theorem replies_of_clearLog {other : World κ} (same : world.clearLog = other.clearLog)
    (depth : Nat) (operations : List (Operation κ)) :
    world.replies depth operations = other.replies depth operations := by
  cases operations with
  | nil => rfl
  | cons operation rest => simp only [replies, operate, same]

theorem serve_of_failed (found : world.mappers[id]? = some mapper)
    (aimed : world.action? held request = some (id, action))
    (configures : action.configures = true) {failure : Failure}
    (failed : Mapper.Action.failure? (world.checks mapper action) = some failure) :
    (∀ depth, world.answer (depth + 1) held request =
        some (failure.outcome, (world.serve held request).2)) ∧
      (world.serve held request).2.mappers = world.mappers ∧
      (world.serve held request).2.clearLog = (world.consulted mapper action).clearLog := by
  obtain ⟨outcome, kept⟩ := Mapper.Action.perform_of_failed failed id
  obtain ⟨events, told⟩ := Mapper.Action.perform_told world.schema
    (Surroundings.dialogue world.schema mapper.service) mapper world.surroundings id configures
  have comes := serve_comes found aimed
  have done : world.carryOut id mapper action = (failure.outcome,
      { world with surroundings := (world.performed id mapper action).2.2 }) := by
    obtain ⟨bound, same⟩ := List.getElem?_eq_some_iff.mp found
    have mappers : world.mappers.set id (world.performed id mapper action).2.1 = world.mappers := by
      rw [performed, kept, ← same]
      exact List.set_getElem_self bound
    rw [carryOut_eq, mappers]
    exact congrArg (·, _) outcome
  rw [done] at comes
  have later : (world.serve held request).2 =
      { world with surroundings := (world.performed id mapper action).2.2 } := by
    cases failure with
    | error | panic => exact comes.2
  rw [later]
  refine ⟨answer_of_failure comes, rfl, ?_⟩
  rw [performed, told]
  exact clearLog_told world mapper.service events _

theorem serve_of_passed (found : world.mappers[id]? = some mapper)
    (aimed : world.action? held request = some (id, action))
    (configures : action.configures = true)
    (passed : Mapper.Action.failure? (world.checks mapper action) = none) :
    (∀ depth, world.answer (depth + 1) held request =
        some (.ok .unit, (world.serve held request).2)) ∧
      ∃ change, action.Sets change ∧ (world.serve held request).2.mappers =
        world.mappers.set id { mapper with config := change mapper.config } := by
  obtain ⟨change, sets, outcome, later⟩ := Mapper.Action.perform_of_passed configures passed id
  have comes := serve_comes found aimed
  rw [carryOut_eq, performed, outcome, later] at comes
  generalize served : world.serve held request = launched at comes ⊢
  cases comes with
  | done =>
    refine ⟨fun depth => ?_, change, sets, rfl⟩
    rw [answer_succ_eq, served]
    exact Launch.outcome_now _ _ _ _

/-- A configuring call of a mapper: it takes effect as a whole or not at all. -/
structure Registration (world : World κ) (held : List Hold) (request : Request κ) (id : MapperId)
    (mapper : Mapper κ) (action : Mapper.Action κ) : Prop where
  /-- The first check that is not passed decides the answer, and the call is over at once. -/
  answers : ∀ depth, world.answer (depth + 1) held request =
    some (Mapper.Action.verdict (world.checks mapper action), (world.serve held request).2)
  succeeds : ∀ depth, (∃ later, world.answer (depth + 1) held request = some (.ok .unit, later)) ↔
    ∀ check ∈ world.checks mapper action, check = none
  asks : (action.perform world.schema
      (Surroundings.dialogue world.schema mapper.service).transcribed id mapper
      (world.surroundings, [])).2.2.2.map (·.question) = action.asks world.schema mapper
  effective : (∀ check ∈ world.checks mapper action, check = none) →
    ∃ change, action.Sets change ∧ (world.serve held request).2.mappers =
      world.mappers.set id { mapper with config := change mapper.config }
  /-- A call that fails changes no mapper, and all that is left of it is in the log and in the
  service that it has asked. -/
  unchanged : (∃ check ∈ world.checks mapper action, check ≠ none) →
    (world.serve held request).2.mappers = world.mappers ∧
      (world.serve held request).2.clearLog = (world.consulted mapper action).clearLog
  /-- So whatever is done afterwards comes out as if there had been nothing but the question. -/
  forgotten : (∃ check ∈ world.checks mapper action, check ≠ none) → ∀ depth operations,
    (world.serve held request).2.replies depth operations =
      (world.consulted mapper action).replies depth operations
  unnoticed : (∃ check ∈ world.checks mapper action, check ≠ none) →
    action.asks world.schema mapper = [] ∨ (∃ table, mapper.service = .table table) →
    ∀ depth operations,
      (world.serve held request).2.replies depth operations = world.replies depth operations

/-- Configuring calls check first and change the configuration then, whatever the types and whatever
state the mapper is in. -/
theorem registration_ordered_and_atomic (found : world.mappers[id]? = some mapper)
    (aimed : world.action? held request = some (id, action))
    (configures : action.configures = true) :
    Registration world held request id mapper action := by
  have answers (depth : Nat) : world.answer (depth + 1) held request =
      some (Mapper.Action.verdict (world.checks mapper action), (world.serve held request).2) := by
    unfold Mapper.Action.verdict
    cases first : Mapper.Action.failure? (world.checks mapper action) with
    | some failure => exact (serve_of_failed found aimed configures first).1 depth
    | none => exact (serve_of_passed found aimed configures first).1 depth
  have unchanged (unpassed : ∃ check ∈ world.checks mapper action, check ≠ none) :
      (world.serve held request).2.mappers = world.mappers ∧
        (world.serve held request).2.clearLog = (world.consulted mapper action).clearLog := by
    obtain ⟨check, mem, unpassed⟩ := unpassed
    cases first : Mapper.Action.failure? (world.checks mapper action) with
    | some failure => exact (serve_of_failed found aimed configures first).2
    | none => exact absurd (Mapper.Action.failure?_eq_none.mp first check mem) unpassed
  constructor
  · exact answers
  · intro depth
    rw [answers, ← Mapper.Action.verdict_eq_ok_iff]
    simp
  · exact Mapper.Action.perform_asks id configures
  · intro passed
    exact (serve_of_passed found aimed configures (Mapper.Action.failure?_eq_none.mpr passed)).2
  · exact unchanged
  · exact fun unpassed => replies_of_clearLog (unchanged unpassed).2
  · intro unpassed quiet
    have same : world.consulted mapper action = world := by
      rcases quiet with unasked | ⟨table, tabular⟩
      · exact consulted_of_unasked unasked
      · exact consulted_of_table tabular action
    refine replies_of_clearLog ?_
    rw [(unchanged unpassed).2, same]

end Serve

/-- The service refuses a member once. The call that asked is forgotten but for that. -/
theorem registration_ordered_and_atomic_of_refused :
    let error : MappingError := .unbridgeable "a" "text" "i32"
    let world := (initial Schema.twins false : World Closure).after
      [.newTable "table", .newService "service" "table" [⟨"a", .refuse error, some 1⟩],
        .newMapper "mapper" 1 1 (some "service")]
    let action : Mapper.Action Closure := .assignMember "A" "a"
    let request : Request Closure := .operation (.mapper "mapper" (.assignMember "A" "a"))
    ∃ mapper, world.mappers[0]? = some mapper ∧ world.action? [] request = some (0, action) ∧
      action.configures = true ∧ Registration world [] request 0 mapper action ∧
      Mapper.Action.verdict (world.checks mapper action) = .error error ∧
      ((world.serve [] request).2.mappers.map (·.config.custom.keys),
        ((world.serve [] request).2.serve [] request).2.mappers.map (·.config.custom.keys)) =
        ([[]], [["a"]]) := by
  intro error world action request
  have found : world.mappers[0]? = some _ := rfl
  have registration : Registration world [] request 0 _ action :=
    registration_ordered_and_atomic found rfl rfl
  exact ⟨_, found, rfl, rfl, registration, by decide +kernel, by decide +kernel⟩

end World

end RecordMapping
