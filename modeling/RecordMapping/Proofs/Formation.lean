import RecordMapping.Proofs.Steady
import RecordMapping.Proofs.Action

namespace RecordMapping

variable {σ κ : Type}

namespace Dialogue

/-- The same dialogue, on the states alone that it comes to from `first`. -/
def confined (dialogue : Dialogue σ κ) (first : σ) :
    Dialogue { state // dialogue.Reaches first state } κ where
  ask question state :=
    ((dialogue.ask question state.1).1, ⟨(dialogue.ask question state.1).2, .ask question state.2⟩)
  report event state := ⟨dialogue.report event state.1, .report event state.2⟩

theorem confined_similar (dialogue : Dialogue σ κ) (first : σ) :
    (dialogue.confined first).Similar dialogue fun reached state => reached.1 = state where
  answer := by rintro reached state rfl question; rfl
  ask := by rintro reached state rfl question; rfl
  report := by rintro reached state rfl event; rfl

end Dialogue

def Dialogue.Calm (dialogue : Dialogue σ κ) : Prop :=
  ∀ question state text, (dialogue.ask question state).1 ≠ .panic text

/-- What a dialogue can make of the members `dests`: an assignment between members of one type, or
one with a converter that the service answers to a question about these types. -/
structure Dialogue.Offers (dialogue : Dialogue σ κ) (dests : List (Property Record))
    (assignment : Assignment κ) : Prop where
  declared : assignment.dest ∈ dests
  writable : assignment.dest.isWritable = true
  converter :
    assignment.converter = .identity ∧ assignment.source.valueType = assignment.dest.valueType ∨
      ∃ question state, question.source.valueType = assignment.source.valueType ∧
        question.dest.valueType = assignment.dest.valueType ∧
        (dialogue.ask question state).1 = .convert assignment.converter

def Dialogue.OffersOnly (dialogue : Dialogue σ κ) (dests : List (Property Record))
    (P : Assignment κ → Prop) : Prop :=
  ∀ assignment, dialogue.Offers dests assignment → P assignment

/-- The assignment has `P`, and is registered under the names of its two sides. -/
structure CustomMember.Fits (P : Assignment κ → Prop) (custom : CustomMember κ) : Prop where
  dest : custom.dest = custom.assignment.dest.name
  label : custom.label = custom.assignment.source.label
  holds : P custom.assignment

namespace Plan

def Step.Fits (P : Assignment κ → Prop) : Step κ → Prop
  | .leaveOut _ => True
  | .assign kind dest label assignment =>
    kind ≠ .ignored ∧ dest = assignment.dest.name ∧ label = assignment.source.label ∧ P assignment

/-- The bindings that are not ignored, each with the assignment that it reports. -/
def bound (plan : Plan κ) : List (Binding × Assignment κ) :=
  (plan.bindings.filter fun binding => binding.kind ≠ .ignored).zip plan.assignments

def Step.bound? : Step κ → Option (Binding × Assignment κ)
  | .leaveOut _ => none
  | .assign kind dest label assignment => some (⟨dest, kind, some label⟩, assignment)

def Fits (P : Assignment κ → Prop) (plan : Plan κ) : Prop :=
  ∃ steps : List (Step κ), (∀ step ∈ steps, step.Fits P) ∧
    plan.bindings = (Composition.ofSteps steps).bindings ∧
    plan.assignments = (Composition.ofSteps steps).assignments

theorem zip_ofSteps {steps : List (Step κ)}
    (kinds : ∀ kind dest label assignment, .assign kind dest label assignment ∈ steps →
      kind ≠ .ignored) :
    ((Composition.ofSteps steps).bindings.filter fun binding => binding.kind ≠ .ignored).zip
        (Composition.ofSteps steps).assignments =
      steps.filterMap (·.bound?) := by
  induction steps with
  | nil => rfl
  | cons step rest ih =>
    have later := ih fun kind dest label assignment mem =>
      kinds kind dest label assignment (List.mem_cons_of_mem _ mem)
    cases step with
    | leaveOut name =>
      simpa [Composition.leaveOut, Binding.ignored, Step.bound?] using later
    | assign kind dest label assignment =>
      have kept : kind ≠ .ignored := kinds kind dest label assignment List.mem_cons_self
      simpa [Composition.assign, Step.bound?, kept] using later

theorem mem_filterMap_bound? {steps : List (Step κ)} {kind : Binding.Kind} {dest label : String}
    {assignment : Assignment κ} :
    (⟨dest, kind, some label⟩, assignment) ∈ steps.filterMap (·.bound?) ↔
      .assign kind dest label assignment ∈ steps := by
  constructor
  · intro mem
    obtain ⟨step, listed, same⟩ := List.mem_filterMap.mp mem
    cases step with
    | leaveOut name => simp [Step.bound?] at same
    | assign kind' dest' label' assignment' =>
      simp only [Step.bound?, Option.some.injEq, Prod.mk.injEq, Binding.mk.injEq] at same
      obtain ⟨⟨rfl, rfl, rfl⟩, rfl⟩ := same
      exact listed
  · intro listed
    exact List.mem_filterMap.mpr ⟨_, listed, rfl⟩

theorem Fits.bound {P : Assignment κ → Prop} {plan : Plan κ} (fits : plan.Fits P) :
    ∃ steps : List (Step κ), (∀ step ∈ steps, step.Fits P) ∧
      plan.bound = steps.filterMap (·.bound?) ∧
      plan.bindings = (Composition.ofSteps steps).bindings ∧
      plan.assignments = (Composition.ofSteps steps).assignments := by
  obtain ⟨steps, each, bindings, assignments⟩ := fits
  refine ⟨steps, each, ?_, bindings, assignments⟩
  rw [Plan.bound, bindings, assignments, zip_ofSteps fun _ _ _ _ mem => (each _ mem).1]

theorem Fits.of_mem_bound {P : Assignment κ → Prop} {plan : Plan κ} (fits : plan.Fits P)
    {entry : Binding × Assignment κ} (mem : entry ∈ plan.bound) :
    entry.1.kind ≠ .ignored ∧ entry.1.name = entry.2.dest.name ∧
      entry.1.source = some entry.2.source.label ∧ P entry.2 := by
  obtain ⟨steps, each, bound, _⟩ := fits.bound
  rw [bound] at mem
  obtain ⟨step, listed, same⟩ := List.mem_filterMap.mp mem
  cases step with
  | leaveOut name => simp [Step.bound?] at same
  | assign kind dest label assignment =>
    obtain ⟨kept, rfl, rfl, holds⟩ := each _ listed
    obtain rfl := Option.some.inj same
    exact ⟨kept, rfl, rfl, holds⟩

/-- No binding and no assignment of the plan is missing among the bound members. -/
theorem Fits.unzip_bound {P : Assignment κ → Prop} {plan : Plan κ} (fits : plan.Fits P) :
    plan.bound.map (·.1) = (plan.bindings.filter fun binding => binding.kind ≠ .ignored) ∧
      plan.bound.map (·.2) = plan.assignments := by
  obtain ⟨steps, each, bindings, assignments⟩ := fits
  have aligned : ((Composition.ofSteps steps).bindings.filter fun binding =>
      binding.kind ≠ .ignored).length = (Composition.ofSteps steps).assignments.length :=
    Composition.ofSteps_aligned steps fun _ _ _ _ mem => (each _ mem).1
  rw [← bindings, ← assignments] at aligned
  constructor
  · exact List.map_fst_zip (Nat.le_of_eq aligned)
  · exact List.map_snd_zip (Nat.le_of_eq aligned.symm)

theorem Fits.of_mem_assignments {P : Assignment κ → Prop} {plan : Plan κ} (fits : plan.Fits P)
    {assignment : Assignment κ} (mem : assignment ∈ plan.assignments) : P assignment := by
  rw [← fits.unzip_bound.2] at mem
  obtain ⟨entry, listed, rfl⟩ := List.mem_map.mp mem
  exact (fits.of_mem_bound listed).2.2.2

theorem Fits.imp {P Q : Assignment κ → Prop} {plan : Plan κ} (fits : plan.Fits P)
    (weaker : ∀ assignment, P assignment → Q assignment) : plan.Fits Q := by
  obtain ⟨steps, each, same⟩ := fits
  refine ⟨steps, fun step mem => ?_, same⟩
  have held := each step mem
  cases step with
  | leaveOut name => trivial
  | assign kind dest label assignment =>
    exact ⟨held.1, held.2.1, held.2.2.1, weaker assignment held.2.2.2⟩

section Answers

variable {candidates : List Candidate} {heard : List (Exchange κ)}

/-- Each assignment among the answered candidates is owed to the exchange about its pair. -/
theorem assign_mem_answered {kind : Binding.Kind} {name label : String} {assignment : Assignment κ}
    (asked : heard.map (·.question) = candidates.filterMap Candidate.question?)
    (mem : .assign kind name label assignment ∈ answered candidates (heard.map (·.answer))) :
    ∃ source dest converter, .pair source dest ∈ candidates ∧
      ⟨.member dest.signature source.signature, .convert converter⟩ ∈ heard ∧
      kind = .auto ∧ name = dest.name ∧ label = source.name ∧
      assignment = ⟨.member source, converter, dest⟩ := by
  induction candidates generalizing heard with
  | nil => simp [answered] at mem
  | cons candidate rest ih =>
    cases candidate with
    | leftOut left =>
      rcases List.mem_cons.mp mem with same | later
      · simp at same
      · obtain ⟨source, dest, converter, listed, others⟩ := ih asked later
        exact ⟨source, dest, converter, List.mem_cons_of_mem _ listed, others⟩
    | pair source dest =>
      rw [Candidate.questions_pair] at asked
      obtain ⟨exchange, later, rfl, question, asked⟩ := List.map_eq_cons_iff.mp asked
      rcases List.mem_cons.mp mem with now | mem
      · obtain ⟨_, answer⟩ := exchange
        obtain rfl := question
        cases answer with
        | convert converter =>
          obtain ⟨rfl, rfl, rfl, rfl⟩ := Step.assign.inj now
          exact ⟨source, dest, converter, List.mem_cons_self, List.mem_cons_self, rfl, rfl, rfl,
            rfl⟩
        | refuse error => simp [Step.ofAnswer] at now
        | panic text => simp [Step.ofAnswer] at now
      · obtain ⟨source, dest, converter, listed, told, others⟩ := ih asked mem
        exact ⟨source, dest, converter, List.mem_cons_of_mem _ listed,
          List.mem_cons_of_mem _ told, others⟩

/-- The step of a pair follows from the exchange about it. -/
theorem ofAnswer_mem_answered {source dest : Property Record}
    (asked : heard.map (·.question) = candidates.filterMap Candidate.question?)
    (mem : .pair source dest ∈ candidates) :
    ∃ exchange ∈ heard, exchange.question = .member dest.signature source.signature ∧
      Step.ofAnswer source dest (some exchange.answer) ∈
        answered candidates (heard.map (·.answer)) := by
  induction candidates generalizing heard with
  | nil => simp at mem
  | cons candidate rest ih =>
    cases candidate with
    | leftOut left =>
      have later : .pair source dest ∈ rest := by simpa using mem
      obtain ⟨exchange, told, question, step⟩ := ih asked later
      exact ⟨exchange, told, question, List.mem_cons_of_mem _ step⟩
    | pair first second =>
      rw [Candidate.questions_pair] at asked
      obtain ⟨exchange, rest', rfl, question, asked⟩ := List.map_eq_cons_iff.mp asked
      rcases List.mem_cons.mp mem with now | later
      · obtain ⟨rfl, rfl⟩ := Candidate.pair.inj now
        exact ⟨exchange, List.mem_cons_self, question, List.mem_cons_self⟩
      · obtain ⟨exchange', told, question', step⟩ := ih asked later
        exact ⟨exchange', List.mem_cons_of_mem _ told, question', List.mem_cons_of_mem _ step⟩

end Answers

theorem counterpart?_eq_some {dests : List (Property Record)} {name : String}
    {dest : Property Record} :
    counterpart? dests name = some dest ↔
      Property.named? dests name = some dest ∧ dest.isWritable = true := by
  simp [counterpart?, Option.filter_eq_some_iff]

theorem mem_of_counterpart? {dests : List (Property Record)} {name : String}
    {dest : Property Record} (found : counterpart? dests name = some dest) :
    dest ∈ dests ∧ dest.isWritable = true := by
  obtain ⟨named, writable⟩ := counterpart?_eq_some.mp found
  exact ⟨List.mem_of_find?_eq_some named, writable⟩

variable {P : Assignment κ → Prop} {dialogue : Dialogue σ κ}
  {sources dests : List (Property Record)}
  {config : Config κ} {state : σ}

theorem compose_of_calm (calm : dialogue.Calm) (sources dests : List (Property Record))
    (config : Config κ) (state : σ) :
    (compose dialogue sources dests config state).1 =
        .ok (.ofSteps (reference sources dests config
          ((heard dialogue sources dests config state).map (·.answer)))) ∧
      (heard dialogue sources dests config state).map (·.question) =
        questions sources dests config := by
  have built := compose_built dialogue sources dests config state
  refine built.of_calm fun exchange mem => ?_
  obtain ⟨asked, answer⟩ := built.answers exchange mem
  cases told : exchange.answer with
  | panic text => exact absurd (answer.trans told) (calm exchange.question asked text)
  | convert | refuse => rfl

/-- A build that succeeds assigns nothing but what the service offers and what is configured. -/
theorem compose_fits {composition : Composition κ}
    (composed : (compose dialogue sources dests config state).1 = .ok composition)
    (offered : dialogue.OffersOnly dests P)
    (custom : ∀ entry ∈ config.custom.entries, entry.2.Fits P) :
    ∃ steps : List (Step κ), composition = .ofSteps steps ∧ ∀ step ∈ steps, step.Fits P := by
  have built := compose_built dialogue sources dests config state
  have outcome := built.outcome
  rw [composed] at outcome
  cases calm : (heard dialogue sources dests config state).findSome? (·.answer.panic?) with
  | some text => simp [calm] at outcome
  | none =>
    rw [calm] at outcome
    refine ⟨_, Except.ok.inj outcome, fun step mem => ?_⟩
    cases step with
    | leaveOut name => trivial
    | assign kind name label assignment =>
      rcases List.mem_append.mp mem with auto | own
      · obtain ⟨source, dest, converter, listed, told, rfl, rfl, rfl, rfl⟩ :=
          assign_mem_answered (built.finished calm) auto
        obtain ⟨asked, answer⟩ := built.answers _ told
        have target := (target?_eq_some.mp (mem_candidates_pair.mp listed).2).2
        obtain ⟨declared, writable⟩ := mem_of_counterpart? target
        have offer : dialogue.Offers dests ⟨.member source, converter, dest⟩ :=
          ⟨declared, writable, .inr ⟨_, asked, rfl, rfl, answer⟩⟩
        exact ⟨by simp, rfl, rfl, offered _ offer⟩
      · obtain ⟨entry, listed, same⟩ := List.mem_map.mp own
        have fits := custom entry listed
        unfold Step.ofCustom at same
        split at same
        next => simp at same
        next =>
          obtain ⟨rfl, rfl, rfl, rfl⟩ := Step.assign.inj same
          exact ⟨by simp, fits.dest, fits.label, fits.holds⟩

end Plan

theorem Outcome.map_eq_ok {α β : Type} {f : α → β} {outcome : Outcome α} {result : β} :
    outcome.map f = .ok result ↔ ∃ first, outcome = .ok first ∧ f first = result := by
  cases outcome <;> simp [Outcome.map]

theorem Outcome.map_eq_error {α β : Type} {f : α → β} {outcome : Outcome α} {cause : MappingError} :
    outcome.map f = .error cause ↔ outcome = .error cause := by
  cases outcome <;> simp [Outcome.map]

theorem OrderedMap.mem_store {α β : Type} [DecidableEq α] {key : α} {value : β}
    {entries : List (α × β)} {entry : α × β} (mem : entry ∈ store key value entries) :
    entry = (key, value) ∨ entry ∈ entries := by
  induction entries with
  | nil => exact .inl (List.mem_singleton.mp mem)
  | cons first rest ih =>
    by_cases same : first.1 = key
    · rw [store, if_pos same, same] at mem
      exact (List.mem_cons.mp mem).imp_right (List.mem_cons_of_mem _)
    · rw [store, if_neg same] at mem
      rcases List.mem_cons.mp mem with rfl | later
      · exact .inr List.mem_cons_self
      · exact (ih later).imp_right (List.mem_cons_of_mem _)

theorem Property.of_writableMember {type name : String} {properties : List (Property Record)}
    {property : Property Record} (found : writableMember type properties name = .ok property) :
    property ∈ properties ∧ property.isWritable = true := by
  obtain ⟨named, writable⟩ := writableMember_eq_ok_iff.mp found
  exact ⟨List.mem_of_find?_eq_some named, writable⟩

/-- The plan is one of the mapper's: it maps between the mapper's slots, and runs only hooks that
the mapper has been told of. -/
structure Plan.Suits (P : Assignment κ → Prop) (mapper : Mapper κ) (plan : Plan κ) : Prop where
  source : plan.source = mapper.source
  dest : plan.dest = mapper.dest
  before : mapper.config.before = none → plan.before = none
  after : mapper.config.after = none → plan.after = none
  fits : plan.Fits P

namespace Mapper

structure Fits (P : Assignment κ → Prop) (mapper : Mapper κ) : Prop where
  custom : ∀ entry ∈ mapper.config.custom.entries, entry.2.Fits P
  compiled : ∀ plan, mapper.compiled = some plan → plan.Suits P mapper

variable {P Q : Assignment κ → Prop} {schema : Schema} {dialogue : Dialogue σ κ} {id : MapperId}
  {mapper : Mapper κ} {state : σ}

theorem Fits.new (source dest : Slot) (service : ServiceId) :
    (Mapper.new source dest service).Fits P where
  custom := fun _ mem => absurd mem List.not_mem_nil
  compiled := by simp [Mapper.new]

theorem Fits.imp (fits : mapper.Fits P) (weaker : ∀ assignment, P assignment → Q assignment) :
    mapper.Fits Q where
  custom entry mem :=
    have held := fits.custom entry mem
    ⟨held.dest, held.label, weaker _ held.holds⟩
  compiled plan cached :=
    have suits := fits.compiled plan cached
    ⟨suits.source, suits.dest, suits.before, suits.after, suits.fits.imp weaker⟩

theorem Fits.configure {setting : Setting} {change : Config κ → Config κ} (fits : mapper.Fits P)
    (custom : ∀ entry ∈ (change mapper.config).custom.entries, entry.2.Fits P)
    (before : (change mapper.config).before = none → mapper.config.before = none)
    (after : (change mapper.config).after = none → mapper.config.after = none) :
    (mapper.configure dialogue setting change state).2.1.Fits P := by
  rw [configure_eq, revise]
  split
  next => exact fits
  next =>
    refine ⟨custom, fun plan cached => ?_⟩
    have suits := fits.compiled plan cached
    exact ⟨suits.source, suits.dest, fun none => suits.before (before none),
      fun none => suits.after (after none), suits.fits⟩

theorem Fits.registerCustom {assignment : Assignment κ} (fits : mapper.Fits P)
    (holds : P assignment) : (mapper.registerCustom dialogue assignment state).2.1.Fits P := by
  refine fits.configure (fun entry mem => ?_) id id
  rcases OrderedMap.mem_store mem with rfl | old
  · exact ⟨rfl, rfl, holds⟩
  · exact fits.custom entry old

theorem Fits.negotiate {question : Question} {source : Source κ} {dest : Property Record}
    (fits : mapper.Fits P)
    (offered : dialogue.OffersOnly (schema.properties mapper.dest) P)
    (declared : dest ∈ schema.properties mapper.dest) (writable : dest.isWritable = true)
    (given : question.source.valueType = source.valueType)
    (wanted : question.dest.valueType = dest.valueType) :
    (mapper.negotiate dialogue question source dest state).2.1.Fits P := by
  obtain ⟨answer, next, heard⟩ : ∃ answer next, dialogue.ask question state = (answer, next) :=
    ⟨_, _, rfl⟩
  simp only [Mapper.negotiate, heard]
  cases answer with
  | convert converter =>
    have told : (dialogue.ask question state).1 = .convert converter := congrArg Prod.fst heard
    exact fits.registerCustom
      (offered _ ⟨declared, writable, .inr ⟨question, state, given, wanted, told⟩⟩)
  | refuse error => exact fits
  | panic text => exact fits

theorem Fits.assignSource {name : String} {source : Source κ} (fits : mapper.Fits P)
    (offered : dialogue.OffersOnly (schema.properties mapper.dest) P) :
    (mapper.assignSource schema dialogue name source state).2.1.Fits P := by
  unfold Mapper.assignSource
  split
  next => exact fits
  next member found =>
    obtain ⟨declared, writable⟩ := Property.of_writableMember found
    exact fits.negotiate offered declared writable rfl rfl

theorem Fits.assignComputed {name : String} {type : ValueType} {compute : κ} (fits : mapper.Fits P)
    (offered : dialogue.OffersOnly (schema.properties mapper.dest) P) :
    (mapper.assignComputed schema dialogue name type compute state).2.1.Fits P := by
  unfold Mapper.assignComputed
  split
  next => exact fits
  next member found =>
    obtain ⟨declared, writable⟩ := Property.of_writableMember found
    dsimp only
    split
    next same => exact fits.registerCustom (offered _ ⟨declared, writable, .inl ⟨rfl, same⟩⟩)
    next => exact fits.negotiate offered declared writable rfl rfl

/-- A build that succeeds leaves a plan that suits the mapper. -/
theorem Fits.rebuild (fits : mapper.Fits P)
    (offered : dialogue.OffersOnly (schema.properties mapper.dest) P) :
    (mapper.rebuild schema dialogue id state).2.1.Fits P ∧
      ∀ plan, (mapper.rebuild schema dialogue id state).1 = .ok plan → plan.Suits P mapper := by
  have others := (Plan.compose_built dialogue (schema.properties mapper.source)
    (schema.properties mapper.dest) mapper.config state).others
  obtain ⟨outcome, config, next, built⟩ : ∃ outcome config next,
      Plan.compose dialogue (schema.properties mapper.source) (schema.properties mapper.dest)
        mapper.config state = (outcome, config, next) := ⟨_, _, _, rfl⟩
  rw [built] at others
  have same : config = { mapper.config with ignored := config.ignored } := others
  have custom : ∀ entry ∈ config.custom.entries, entry.2.Fits P := by
    rw [same]
    exact fits.custom
  have before : config.before = mapper.config.before := by rw [same]
  have after : config.after = mapper.config.after := by rw [same]
  cases outcome with
  | error text =>
    simp only [Mapper.rebuild, built]
    refine ⟨⟨custom, fun plan cached => ?_⟩, by simp⟩
    have suits := fits.compiled plan cached
    exact ⟨suits.source, suits.dest, fun none => suits.before (before ▸ none),
      fun none => suits.after (after ▸ none), suits.fits⟩
  | ok composition =>
    obtain ⟨steps, rfl, each⟩ :=
      Plan.compose_fits (congrArg Prod.fst built) offered fits.custom
    simp only [Mapper.rebuild, built]
    refine ⟨⟨custom, ?_⟩, ?_⟩
    · rintro plan cached
      obtain rfl := Option.some.inj cached
      exact ⟨rfl, rfl, fun none => none, fun none => none, steps, each, rfl, rfl⟩
    · rintro plan done
      obtain rfl := Outcome.ok.inj done
      exact ⟨rfl, rfl, fun none => before.trans none, fun none => after.trans none, steps, each,
        rfl, rfl⟩

theorem Fits.compile (fits : mapper.Fits P)
    (offered : dialogue.OffersOnly (schema.properties mapper.dest) P) :
    (mapper.compile schema dialogue id state).2.1.Fits P ∧
      ∀ plan, (mapper.compile schema dialogue id state).1 = .ok plan → plan.Suits P mapper := by
  unfold Mapper.compile
  split
  next => exact ⟨fits, by simp⟩
  next =>
    split
    next plan cached =>
      refine ⟨fits, fun other done => ?_⟩
      obtain rfl := Outcome.ok.inj done
      exact fits.compiled plan cached
    next => exact fits.rebuild offered

theorem Fits.recompile (fits : mapper.Fits P)
    (offered : dialogue.OffersOnly (schema.properties mapper.dest) P) :
    (mapper.recompile schema dialogue id state).2.1.Fits P ∧
      ∀ plan, (mapper.recompile schema dialogue id state).1 = .ok plan → plan.Suits P mapper := by
  unfold Mapper.recompile
  split
  next => exact ⟨fits, by simp⟩
  next => exact fits.rebuild offered

/-- If all that the service offers has `P`, then so has all that a mapper ever assigns. -/
theorem Fits.perform (fits : mapper.Fits P)
    (offered : dialogue.OffersOnly (schema.properties mapper.dest) P)
    (action : Action κ) : (action.perform schema dialogue id mapper state).2.1.Fits P := by
  cases action with
  | ignore name =>
    dsimp only [Action.perform, Action.perform.plain, Mapper.ignore]
    split
    next => exact fits
    next => exact fits.configure fits.custom (fun none => none) fun none => none
  | assignMember name source =>
    dsimp only [Action.perform, Action.perform.plain, Mapper.assignMember]
    split
    next => exact fits
    next => exact fits.assignSource offered
  | assignSource name source => exact fits.assignSource offered
  | assignComputed name type compute => exact fits.assignComputed offered
  | runBefore hook => exact fits.configure fits.custom (by simp) fun none => none
  | runAfter hook => exact fits.configure fits.custom (fun none => none) (by simp)
  | construct constructor =>
    exact fits.configure fits.custom (fun none => none) fun none => none
  | compile => exact (fits.compile offered).1
  | recompile => exact (fits.recompile offered).1

/-- A plan that an action yields is one of the mapper's. -/
theorem Fits.performed (fits : mapper.Fits P)
    (offered : dialogue.OffersOnly (schema.properties mapper.dest) P) {action : Action κ}
    {plan : Plan κ}
    (given : (action.perform schema dialogue id mapper state).1 = .ok (some plan)) :
    plan.Suits P mapper := by
  cases action with
  | compile =>
    obtain ⟨other, done, same⟩ := Outcome.map_eq_ok.mp given
    obtain rfl := Option.some.inj same
    exact (fits.compile offered).2 other done
  | recompile =>
    obtain ⟨other, done, same⟩ := Outcome.map_eq_ok.mp given
    obtain rfl := Option.some.inj same
    exact (fits.recompile offered).2 other done
  | _ =>
    obtain ⟨_, _, absent⟩ := Outcome.map_eq_ok.mp given
    simp at absent

/-- The surroundings change by questions and reports alone. -/
theorem Action.perform_reaches (schema : Schema) (dialogue : Dialogue σ κ) (id : MapperId)
    (action : Action κ) (mapper : Mapper κ) (state : σ) :
    dialogue.Reaches state (action.perform schema dialogue id mapper state).2.2 := by
  have alike := (dialogue.confined_similar state).perform schema id action mapper
    (s := ⟨state, .start⟩) rfl
  rw [← alike.state]
  exact Subtype.property _

end Mapper

end RecordMapping
