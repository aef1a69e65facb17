import RecordMapping.Proofs.Registration

namespace RecordMapping

variable {σ κ : Type}

/-- What is asked is the agenda in order, to its end or to the first panic. -/
structure Exhausts (heard : List (Exchange κ)) (agenda : List Question) : Prop where
  asked : heard.map (·.question) <+: agenda
  complete : (∀ exchange ∈ heard, exchange.answer.panic? = none) →
    heard.map (·.question) = agenda
  /-- After a panic nothing more is asked. -/
  unbroken : heard.Pairwise fun exchange _ => exchange.answer.panic? = none

theorem Exhausts.nil : Exhausts ([] : List (Exchange κ)) [] where
  asked := List.prefix_rfl
  complete _ := rfl
  unbroken := .nil

/-- A single question is asked whatever the answer is. -/
theorem Exhausts.of_short {heard : List (Exchange κ)} {agenda : List Question}
    (same : heard.map (·.question) = agenda) (short : agenda.length ≤ 1) :
    Exhausts heard agenda where
  asked := same ▸ List.prefix_rfl
  complete _ := same
  unbroken := by
    subst same
    match heard with
    | [] => exact .nil
    | [exchange] => exact List.pairwise_singleton _ _
    | _ :: _ :: _ => simp at short

namespace Plan

/-- The question about a source member: whether the service bridges it to the first destination
member of its name. There is none if the member cannot be read, has a key with a source of its own,
is ignored, or has no counterpart that can be written. -/
def inquiry? (dests : List (Property Record)) (config : Config κ) (source : Property Record) :
    Option Question :=
  if source.isReadable && !config.custom.contains (Text.fold source.name) &&
      !config.ignored.contains (Text.fold source.name) then
    match Property.named? dests source.name with
    | some dest =>
      if dest.isWritable then some (.member dest.signature source.signature) else none
    | none => none
  else none

theorem inquiry?_eq_some {dests : List (Property Record)} {config : Config κ}
    {source : Property Record} {question : Question} :
    inquiry? dests config source = some question ↔
      source.isReadable = true ∧ config.custom.contains (Text.fold source.name) = false ∧
        config.ignored.contains (Text.fold source.name) = false ∧
        ∃ dest, Property.named? dests source.name = some dest ∧ dest.isWritable = true ∧
          question = .member dest.signature source.signature := by
  unfold inquiry?
  split
  next free =>
    simp only [Bool.and_eq_true, Bool.not_eq_true'] at free
    obtain ⟨⟨readable, unclaimed⟩, fresh⟩ := free
    cases Property.named? dests source.name with
    | none => simp
    | some dest =>
      cases writable : dest.isWritable with
      | false => simp [writable]
      | true =>
        simp only [writable, if_true, Option.some.injEq]
        constructor
        · rintro rfl
          exact ⟨readable, unclaimed, fresh, dest, rfl, writable, rfl⟩
        · rintro ⟨-, -, -, other, rfl, -, rfl⟩
          rfl
  next passed =>
    refine iff_of_false (Option.some_ne_none question).symm ?_
    rintro ⟨readable, unclaimed, fresh, -⟩
    exact passed (by simp [readable, unclaimed, fresh])

theorem questions_eq_inquiries (sources dests : List (Property Record)) (config : Config κ) :
    questions sources dests config = sources.filterMap (inquiry? dests config) := by
  simp only [questions, candidates, unclaimed, List.filterMap_map, List.filterMap_filter]
  refine congrArg (List.filterMap · sources) (funext fun source => ?_)
  simp only [Function.comp_apply, inquiry?, candidate, target?, counterpart?]
  cases source.isReadable && !config.custom.contains (Text.fold source.name) with
  | false => rfl
  | true =>
    cases config.ignored.contains (Text.fold source.name) with
    | true => rfl
    | false =>
      cases Property.named? dests source.name with
      | none => rfl
      | some dest => cases writable : dest.isWritable <;> simp [Option.filter, writable] <;> rfl

/-- A build asks about every member that is to be matched, in the order of the source members. -/
theorem heard_exhausts (dialogue : Dialogue σ κ) (sources dests : List (Property Record))
    (config : Config κ) (state : σ) :
    Exhausts (heard dialogue sources dests config state)
      (sources.filterMap (inquiry? dests config)) := by
  have built := compose_built dialogue sources dests config state
  rw [← questions_eq_inquiries]
  refine ⟨built.asked, fun calm => built.finished (List.findSome?_eq_none_iff.mpr calm), ?_⟩
  -- Matching asks nothing, so that all exchanges are those of the bridging.
  obtain ⟨found, ignored, after, matched⟩ : ∃ found ignored after,
      matchMembers dialogue.transcribed dests config.custom.contains sources config.ignored
        (state, []) = (found, ignored, after) := ⟨_, _, _, rfl⟩
  have silent := matchMembers_transcribed dialogue dests config.custom.contains sources
    config.ignored (state, [])
  rw [matched] at silent
  obtain ⟨asking, past⟩ := after
  obtain rfl : past = [] := silent
  obtain ⟨exchanges, transcript, bridged⟩ :=
    bridgeMembers_transcribed dialogue found ignored asking []
  have same : heard dialogue sources dests config state = exchanges := by
    simpa [heard, compose, matched] using transcript
  rw [same]
  exact bridged.unbroken

end Plan

namespace Mapper.Action

variable {schema : Schema} {dialogue : Dialogue σ κ} {id : MapperId} {mapper : Mapper κ} {state : σ}

/-- All that the service is asked and answers during an action. -/
def exchanges (schema : Schema) (dialogue : Dialogue σ κ) (id : MapperId) (action : Action κ)
    (mapper : Mapper κ) (state : σ) : List (Exchange κ) :=
  (action.perform schema dialogue.transcribed id mapper (state, [])).2.2.2

/-- What an action has to ask: an assignment about its two sides, if both can be used, and a build
about the members that it matches. -/
def agenda (schema : Schema) (mapper : Mapper κ) : Action κ → List Question
  | .assignMember dest source =>
    match Property.readableMember (Slot.typeName mapper.source) (schema.properties mapper.source)
        source with
    | .ok property => sourced dest property.signature
    | .error _ => []
  | .assignSource dest source => sourced dest source.signature
  | .assignComputed dest type _ =>
    match Property.writableMember (Slot.typeName mapper.dest) (schema.properties mapper.dest)
        dest with
    | .ok member =>
      if type = member.valueType then []
      else [.computed ⟨"fn -> " ++ type.name, type⟩ member.signature]
    | .error _ => []
  | .compile => if mapper.poisoned || mapper.compiled.isSome then [] else build
  | .recompile => if mapper.poisoned then [] else build
  | .ignore _ | .runBefore _ | .runAfter _ | .construct _ => []
where
  sourced (dest : String) (source : Signature) : List Question :=
    match Property.writableMember (Slot.typeName mapper.dest) (schema.properties mapper.dest)
        dest with
    | .ok member => [.member member.signature source]
    | .error _ => []
  build : List Question :=
    (schema.properties mapper.source).filterMap
      (Plan.inquiry? (schema.properties mapper.dest) mapper.config)

theorem asks_eq_agenda {action : Action κ} (configures : action.configures = true) :
    action.asks schema mapper = action.agenda schema mapper := by
  cases action with
  | ignore dest =>
    simp only [asks, selections, question?, agenda]
    split <;> rfl
  | assignMember dest source =>
    simp only [asks, selections, selections.dests, selections.destType, selections.sources,
      selections.sourceType, question?, agenda, agenda.sourced, Property.readableMember,
      Property.writableMember, Property.usableMember, Property.member, Property.existence,
      Property.usability]
    cases Property.named? (schema.properties mapper.source) source with
    | none => rfl
    | some property =>
      cases readable : property.isReadable with
      | false => simp [readable]
      | true =>
        cases Property.named? (schema.properties mapper.dest) dest with
        | none => simp [readable]
        | some member => cases writable : member.isWritable <;> simp [readable, writable]
  | assignSource dest source =>
    simp only [asks, selections, selections.dests, selections.destType, question?, agenda,
      agenda.sourced, Property.writableMember, Property.usableMember, Property.member,
      Property.existence, Property.usability]
    cases Property.named? (schema.properties mapper.dest) dest with
    | none => rfl
    | some member => cases writable : member.isWritable <;> simp [writable]
  | assignComputed dest type compute =>
    simp only [asks, selections, selections.dests, selections.destType, question?, agenda,
      Property.writableMember, Property.usableMember, Property.member, Property.existence,
      Property.usability]
    cases Property.named? (schema.properties mapper.dest) dest with
    | none => rfl
    | some member =>
      cases writable : member.isWritable with
      | false => simp [writable]
      | true => by_cases agree : type = member.valueType <;> simp [writable, agree]
  | runBefore | runAfter | construct => rfl
  | compile | recompile => simp [Action.configures] at configures

theorem length_asks_le (schema : Schema) (mapper : Mapper κ) (action : Action κ) :
    (action.asks schema mapper).length ≤ 1 := by
  unfold asks
  split
  next => cases action.question? schema mapper <;> simp
  next => simp

/-- The transcript of a build is that of the use that carries it out. -/
theorem exchanges_rebuild (start : σ) :
    (perform.given (mapper.rebuild schema dialogue.transcribed id (start, []))).2.2.2 =
      Plan.heard dialogue (schema.properties mapper.source) (schema.properties mapper.dest)
        mapper.config start := by
  obtain ⟨outcome, config, noted, composed⟩ : ∃ outcome config noted,
      Plan.compose dialogue.transcribed (schema.properties mapper.source)
        (schema.properties mapper.dest) mapper.config (start, []) = (outcome, config, noted) :=
    ⟨_, _, _, rfl⟩
  simp only [perform.given, Mapper.rebuild, Plan.heard, composed]
  cases outcome <;> rfl

theorem exchanges_eq_heard {action : Action κ} (uses : action.configures = false) :
    action.exchanges schema dialogue id mapper state =
      action.heard schema dialogue mapper state := by
  cases action with
  | compile =>
    cases poisoned : mapper.poisoned with
    | true => simp [exchanges, heard, perform, perform.given, Mapper.compile, poisoned]
    | false =>
      cases cached : mapper.compiled with
      | some plan =>
        simp [exchanges, heard, perform, perform.given, Mapper.compile, poisoned, cached]
      | none =>
        simp only [exchanges, heard, heard.exchanges, perform, Mapper.compile, poisoned, cached]
        exact exchanges_rebuild state
  | recompile =>
    cases poisoned : mapper.poisoned with
    | true => simp [exchanges, heard, perform, perform.given, Mapper.recompile, poisoned]
    | false =>
      simp only [exchanges, heard, heard.exchanges, perform, Mapper.recompile, poisoned]
      exact exchanges_rebuild _
  | _ => simp [Action.configures] at uses

/-- Every action asks what stands on its agenda, and nothing else. -/
theorem exchanges_exhaust (schema : Schema) (dialogue : Dialogue σ κ) (id : MapperId)
    (action : Action κ) (mapper : Mapper κ) (state : σ) :
    Exhausts (action.exchanges schema dialogue id mapper state) (action.agenda schema mapper) := by
  cases configures : action.configures with
  | true =>
    rw [← asks_eq_agenda configures]
    exact .of_short (perform_asks id configures) (length_asks_le schema mapper action)
  | false =>
    rw [exchanges_eq_heard configures]
    cases action with
    | compile =>
      unfold heard agenda
      cases mapper.poisoned with
      | true => exact .nil
      | false =>
        cases mapper.compiled with
        | some plan => exact .nil
        | none => exact Plan.heard_exhausts ..
    | recompile =>
      unfold heard agenda
      cases mapper.poisoned with
      | true => exact .nil
      | false => exact Plan.heard_exhausts ..
    | _ => simp [Action.configures] at configures

end Mapper.Action

end RecordMapping
