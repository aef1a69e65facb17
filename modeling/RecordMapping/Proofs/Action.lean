import RecordMapping.Proofs.Similarity

namespace RecordMapping

variable {σ τ κ : Type}

inductive Mapper.Action (κ : Type) where
  | ignore (dest : String)
  | assignMember (dest source : String)
  | assignSource (dest : String) (source : Source κ)
  | assignComputed (dest : String) (type : ValueType) (compute : κ)
  | runBefore (hook : κ)
  | runAfter (hook : κ)
  | construct (constructor : κ)
  | compile
  | recompile

namespace Mapper.Action

/-- Actions that change the configuration, as opposed to uses of the mapper. -/
def configures : Action κ → Bool
  | .compile | .recompile => false
  | _ => true

/-- What an action comes to, with the plan that a use of the mapper is given. -/
def perform (schema : Schema) (dialogue : Dialogue σ κ) (id : MapperId) (action : Action κ)
    (mapper : Mapper κ) (state : σ) : Outcome (Option (Plan κ)) × Mapper κ × σ :=
  match action with
  | .ignore dest => plain (mapper.ignore schema dialogue dest state)
  | .assignMember dest source => plain (mapper.assignMember schema dialogue dest source state)
  | .assignSource dest source => plain (mapper.assignSource schema dialogue dest source state)
  | .assignComputed dest type compute =>
    plain (mapper.assignComputed schema dialogue dest type compute state)
  | .runBefore hook =>
    plain (mapper.configure dialogue .before (fun config => { config with before := some hook })
      state)
  | .runAfter hook =>
    plain (mapper.configure dialogue .after (fun config => { config with after := some hook })
      state)
  | .construct constructor =>
    plain (mapper.configure dialogue .constructor
      (fun config => { config with constructor := some constructor }) state)
  | .compile => given (mapper.compile schema dialogue id state)
  | .recompile => given (mapper.recompile schema dialogue id state)
where
  plain (done : Outcome Unit × Mapper κ × σ) : Outcome (Option (Plan κ)) × Mapper κ × σ :=
    (done.1.map fun _ => none, done.2)
  given (done : Outcome (Plan κ) × Mapper κ × σ) : Outcome (Option (Plan κ)) × Mapper κ × σ :=
    (done.1.map some, done.2)

end Mapper.Action

inductive Config.Change : (Config κ → Config κ) → Prop where
  | none : Change id
  | ignore (dest : String) : Change (·.ignore dest)
  | register (custom : CustomMember κ) : Change (·.register custom)
  | before (hook : κ) : Change fun config => { config with before := some hook }
  | after (hook : κ) : Change fun config => { config with after := some hook }
  | constructor (constructor : κ) :
    Change fun config => { config with constructor := some constructor }

namespace Mapper

/-- The mapper with another configuration; a poisoned one stays as it is. -/
def revise (change : Config κ → Config κ) (mapper : Mapper κ) : Mapper κ :=
  if mapper.poisoned then mapper else { mapper with config := change mapper.config }

@[simp] theorem revise_id (mapper : Mapper κ) : mapper.revise id = mapper := by
  simp [revise]

theorem configure_eq (dialogue : Dialogue σ κ) (setting : Setting) (change : Config κ → Config κ)
    (mapper : Mapper κ) (state : σ) :
    (mapper.configure dialogue setting change state).2.1 = mapper.revise change := by
  unfold configure revise
  split <;> rfl

theorem negotiate_change (dialogue : Dialogue σ κ) (question : Question) (source : Source κ)
    (dest : Property Record) (state : σ) :
    ∃ change, Config.Change change ∧ ∀ mapper : Mapper κ,
      (mapper.negotiate dialogue question source dest state).2.1 = mapper.revise change := by
  obtain ⟨answer, next, heard⟩ : ∃ answer next, dialogue.ask question state = (answer, next) :=
    ⟨_, _, rfl⟩
  simp only [negotiate, heard]
  cases answer with
  | convert converter =>
    exact ⟨_, .register ⟨dest.name, source.label, source, converter, dest⟩,
      fun mapper => configure_eq _ _ _ _ _⟩
  | refuse error | panic text => exact ⟨id, .none, fun mapper => mapper.revise_id.symm⟩

theorem assignSource_change (schema : Schema) (dialogue : Dialogue σ κ) (slot : Slot)
    (dest : String) (source : Source κ) (state : σ) :
    ∃ change, Config.Change change ∧ ∀ mapper : Mapper κ, mapper.dest = slot →
      (mapper.assignSource schema dialogue dest source state).2.1 = mapper.revise change := by
  cases named : Property.writableMember (Slot.typeName slot) (schema.properties slot) dest with
  | error error =>
    refine ⟨id, .none, ?_⟩
    rintro mapper rfl
    simp [assignSource, named]
  | ok member =>
    obtain ⟨change, kind, same⟩ := negotiate_change dialogue
      (.member member.signature source.signature) source member state
    refine ⟨change, kind, ?_⟩
    rintro mapper rfl
    simp only [assignSource, named]
    exact same mapper

/-- A configuring action makes one change, whatever the configuration is. -/
theorem Action.perform_change (schema : Schema) (dialogue : Dialogue σ κ) (source dest : Slot)
    (state : σ) {action : Action κ} (configures : action.configures = true) :
    ∃ change, Config.Change change ∧ ∀ (id : MapperId) (mapper : Mapper κ),
      mapper.source = source → mapper.dest = dest →
      (action.perform schema dialogue id mapper state).2.1 = mapper.revise change := by
  cases action with
  | ignore name =>
    cases named : Property.member (Slot.typeName dest) (schema.properties dest) name with
    | error error =>
      refine ⟨_, .none, ?_⟩
      rintro id mapper - rfl
      simp [perform, perform.plain, Mapper.ignore, named]
    | ok member =>
      refine ⟨_, .ignore member.name, ?_⟩
      rintro id mapper - rfl
      simp [perform, perform.plain, Mapper.ignore, named, configure_eq]
  | assignSource name expression =>
    obtain ⟨change, kind, same⟩ := assignSource_change schema dialogue dest name expression state
    exact ⟨change, kind, fun _ mapper _ => same mapper⟩
  | assignMember name member =>
    cases named : Property.readableMember (Slot.typeName source) (schema.properties source)
        member with
    | error error =>
      refine ⟨_, .none, ?_⟩
      rintro id mapper rfl -
      simp [perform, perform.plain, Mapper.assignMember, named]
    | ok property =>
      obtain ⟨change, kind, same⟩ :=
        assignSource_change schema dialogue dest name (.member property) state
      refine ⟨change, kind, ?_⟩
      rintro id mapper rfl here
      simp only [perform, perform.plain, Mapper.assignMember, named]
      exact same mapper here
  | assignComputed name type compute =>
    cases named : Property.writableMember (Slot.typeName dest) (schema.properties dest) name with
    | error error =>
      refine ⟨_, .none, ?_⟩
      rintro id mapper - rfl
      simp [perform, perform.plain, Mapper.assignComputed, named]
    | ok member =>
      let computed : Source κ := .computed ("fn -> " ++ type.name) type compute
      by_cases agree : type = member.valueType
      · refine ⟨_, .register ⟨member.name, computed.label, computed, .identity, member⟩, ?_⟩
        rintro id mapper - rfl
        simp only [perform, perform.plain, Mapper.assignComputed, named, if_pos agree]
        exact configure_eq _ _ _ _ _
      · obtain ⟨change, kind, same⟩ := negotiate_change dialogue
          (.computed computed.signature member.signature) computed member state
        refine ⟨change, kind, ?_⟩
        rintro id mapper - rfl
        simp only [perform, perform.plain, Mapper.assignComputed, named, if_neg agree]
        exact same mapper
  | runBefore hook => exact ⟨_, .before hook, fun _ mapper _ _ => configure_eq _ _ _ _ _⟩
  | runAfter hook => exact ⟨_, .after hook, fun _ mapper _ _ => configure_eq _ _ _ _ _⟩
  | construct made => exact ⟨_, .constructor made, fun _ mapper _ _ => configure_eq _ _ _ _ _⟩
  | compile | recompile => simp [Action.configures] at configures

theorem rebuild_slots (schema : Schema) (dialogue : Dialogue σ κ) (id : MapperId)
    (mapper : Mapper κ) (state : σ) :
    let later := (mapper.rebuild schema dialogue id state).2.1
    later.source = mapper.source ∧ later.dest = mapper.dest ∧ later.service = mapper.service := by
  unfold rebuild
  split <;> exact ⟨rfl, rfl, rfl⟩

theorem Action.perform_slots (schema : Schema) (dialogue : Dialogue σ κ) (id : MapperId)
    (action : Action κ) (mapper : Mapper κ) (state : σ) :
    let later := (action.perform schema dialogue id mapper state).2.1
    later.source = mapper.source ∧ later.dest = mapper.dest ∧ later.service = mapper.service := by
  cases configures : action.configures with
  | true =>
    obtain ⟨change, _, same⟩ :=
      perform_change schema dialogue mapper.source mapper.dest state configures
    simp only [same id mapper rfl rfl, revise]
    split <;> exact ⟨rfl, rfl, rfl⟩
  | false =>
    cases action with
    | compile =>
      dsimp only [perform, perform.given, Mapper.compile]
      split
      next => exact ⟨rfl, rfl, rfl⟩
      next =>
        split
        next => exact ⟨rfl, rfl, rfl⟩
        next => exact rebuild_slots _ _ _ _ _
    | recompile =>
      dsimp only [perform, perform.given, Mapper.recompile]
      split
      next => exact ⟨rfl, rfl, rfl⟩
      next => exact rebuild_slots _ _ _ _ _
    | _ => simp [Action.configures] at configures

end Mapper

namespace Dialogue.Similar

variable {dialogue : Dialogue σ κ} {other : Dialogue τ κ} {related : σ → τ → Prop} {s : σ} {t : τ}

theorem configure (similar : dialogue.Similar other related) (setting : Setting)
    (change : Config κ → Config κ) (mapper : Mapper κ) (start : related s t) :
    Alike related (mapper.configure dialogue setting change s)
      (mapper.configure other setting change t) := by
  unfold Mapper.configure
  split
  next => exact ⟨rfl, rfl, start⟩
  next =>
    refine ⟨rfl, rfl, ?_⟩
    dsimp only
    split
    next => exact similar.report start _
    next => exact start

theorem ignore (similar : dialogue.Similar other related) (schema : Schema) (dest : String)
    (mapper : Mapper κ) (start : related s t) :
    Alike related (mapper.ignore schema dialogue dest s) (mapper.ignore schema other dest t) := by
  unfold Mapper.ignore
  split
  next => exact ⟨rfl, rfl, start⟩
  next => exact similar.configure _ _ _ start

theorem registerCustom (similar : dialogue.Similar other related) (assignment : Assignment κ)
    (mapper : Mapper κ) (start : related s t) :
    Alike related (mapper.registerCustom dialogue assignment s)
      (mapper.registerCustom other assignment t) := by
  unfold Mapper.registerCustom
  exact similar.configure _ _ _ (similar.report start _)

theorem negotiate (similar : dialogue.Similar other related) (question : Question)
    (source : Source κ) (dest : Property Record) (mapper : Mapper κ) (start : related s t) :
    Alike related (mapper.negotiate dialogue question source dest s)
      (mapper.negotiate other question source dest t) := by
  have same := similar.answer start question
  have next := similar.ask start question
  obtain ⟨answer, s', heard⟩ : ∃ answer s', dialogue.ask question s = (answer, s') := ⟨_, _, rfl⟩
  obtain ⟨answer', t', heard'⟩ : ∃ answer t', other.ask question t = (answer, t') := ⟨_, _, rfl⟩
  rw [heard, heard'] at same next
  obtain rfl : answer = answer' := same
  simp only [Mapper.negotiate, heard, heard']
  cases answer with
  | convert converter => exact similar.registerCustom _ _ next
  | refuse error => exact ⟨rfl, rfl, next⟩
  | panic text => exact ⟨rfl, rfl, next⟩

theorem assignSource (similar : dialogue.Similar other related) (schema : Schema) (dest : String)
    (source : Source κ) (mapper : Mapper κ) (start : related s t) :
    Alike related (mapper.assignSource schema dialogue dest source s)
      (mapper.assignSource schema other dest source t) := by
  unfold Mapper.assignSource
  split
  next => exact ⟨rfl, rfl, start⟩
  next => exact similar.negotiate _ _ _ _ start

theorem assignMember (similar : dialogue.Similar other related) (schema : Schema)
    (dest source : String) (mapper : Mapper κ) (start : related s t) :
    Alike related (mapper.assignMember schema dialogue dest source s)
      (mapper.assignMember schema other dest source t) := by
  unfold Mapper.assignMember
  split
  next => exact ⟨rfl, rfl, start⟩
  next => exact similar.assignSource _ _ _ _ start

theorem assignComputed (similar : dialogue.Similar other related) (schema : Schema) (dest : String)
    (type : ValueType) (compute : κ) (mapper : Mapper κ) (start : related s t) :
    Alike related (mapper.assignComputed schema dialogue dest type compute s)
      (mapper.assignComputed schema other dest type compute t) := by
  unfold Mapper.assignComputed
  split
  next => exact ⟨rfl, rfl, start⟩
  next =>
    dsimp only
    split
    next => exact similar.registerCustom _ _ start
    next => exact similar.negotiate _ _ _ _ start

theorem rebuild (similar : dialogue.Similar other related) (schema : Schema) (id : MapperId)
    (mapper : Mapper κ) (start : related s t) :
    Alike related (mapper.rebuild schema dialogue id s) (mapper.rebuild schema other id t) := by
  have composed := similar.compose (schema.properties mapper.source)
    (schema.properties mapper.dest) mapper.config start
  obtain ⟨outcome, config, s', built⟩ : ∃ outcome config s',
      Plan.compose dialogue (schema.properties mapper.source) (schema.properties mapper.dest)
        mapper.config s = (outcome, config, s') := ⟨_, _, _, rfl⟩
  obtain ⟨outcome', config', t', built'⟩ : ∃ outcome config t',
      Plan.compose other (schema.properties mapper.source) (schema.properties mapper.dest)
        mapper.config t = (outcome, config, t') := ⟨_, _, _, rfl⟩
  rw [built, built'] at composed
  obtain ⟨same, value, next⟩ := composed
  obtain rfl : outcome = outcome' := same
  obtain rfl : config = config' := value
  simp only [Mapper.rebuild, built, built']
  cases outcome with
  | error text => exact ⟨rfl, rfl, next⟩
  | ok composition => exact ⟨rfl, rfl, similar.report next _⟩

theorem compile (similar : dialogue.Similar other related) (schema : Schema) (id : MapperId)
    (mapper : Mapper κ) (start : related s t) :
    Alike related (mapper.compile schema dialogue id s) (mapper.compile schema other id t) := by
  unfold Mapper.compile
  split
  next => exact ⟨rfl, rfl, start⟩
  next =>
    split
    next => exact ⟨rfl, rfl, start⟩
    next => exact similar.rebuild _ _ _ start

theorem recompile (similar : dialogue.Similar other related) (schema : Schema) (id : MapperId)
    (mapper : Mapper κ) (start : related s t) :
    Alike related (mapper.recompile schema dialogue id s) (mapper.recompile schema other id t) := by
  unfold Mapper.recompile
  split
  next => exact ⟨rfl, rfl, start⟩
  next => exact similar.rebuild _ _ _ (similar.report start _)

theorem perform (similar : dialogue.Similar other related) (schema : Schema) (id : MapperId)
    (action : Mapper.Action κ) (mapper : Mapper κ) (start : related s t) :
    Alike related (action.perform schema dialogue id mapper s)
      (action.perform schema other id mapper t) := by
  have mapped {α β : Type} {f : Outcome α → Outcome β} {x : Outcome α × Mapper κ × σ}
      {y : Outcome α × Mapper κ × τ} (alike : Alike related x y) :
      Alike related (f x.1, x.2) (f y.1, y.2) :=
    ⟨congrArg f alike.result, alike.value, alike.state⟩
  cases action with
  | ignore dest => exact mapped (similar.ignore schema dest mapper start)
  | assignMember dest source => exact mapped (similar.assignMember schema dest source mapper start)
  | assignSource dest source => exact mapped (similar.assignSource schema dest source mapper start)
  | assignComputed dest type compute =>
    exact mapped (similar.assignComputed schema dest type compute mapper start)
  | runBefore | runAfter | construct => exact mapped (similar.configure _ _ mapper start)
  | compile => exact mapped (similar.compile schema id mapper start)
  | recompile => exact mapped (similar.recompile schema id mapper start)

end Dialogue.Similar

end RecordMapping
