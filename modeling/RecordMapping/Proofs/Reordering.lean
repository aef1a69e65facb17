import RecordMapping.Expression
import RecordMapping.Proofs.NormalForm
import RecordMapping.Proofs.Registration

namespace RecordMapping

variable {σ κ : Type}

namespace RuledService.Rule

variable {member other : String} {rule : Rule κ}

def verdict? (member : String) (rules : List (Rule κ)) : Option (Verdict κ) :=
  (decide member rules).map (·.1)

def consulted (member : String) (rules : List (Rule κ)) : List (Rule κ) :=
  (decide member rules).elim rules (·.2)

theorem verdict?_cons (member : String) (rule : Rule κ) (rest : List (Rule κ)) :
    verdict? member (rule :: rest) =
      if rule.ready member then some rule.verdict else verdict? member rest := by
  simp only [verdict?, decide]
  split
  next => rfl
  next => cases decide member rest <;> rfl

theorem consulted_cons (member : String) (rule : Rule κ) (rest : List (Rule κ)) :
    consulted member (rule :: rest) =
      if rule.ready member then rule.used :: rest else rule :: consulted member rest := by
  simp only [consulted, decide]
  split
  next => rfl
  next => cases decide member rest <;> rfl

theorem ready_of_ready (ready : rule.ready member = true) (apart : member ≠ other) :
    rule.ready other = false ∧ rule.used.ready other = false := by
  have here : rule.member = member := by
    simp only [Rule.ready, decide_eq_true_eq] at ready
    exact ready.1
  have elsewhere : rule.member ≠ other := here ▸ apart
  simp [Rule.ready, used, elsewhere]

/-- Rules for one member have no part in questions about another. -/
theorem verdict?_consulted (apart : member ≠ other) (rules : List (Rule κ)) :
    verdict? other (consulted member rules) = verdict? other rules := by
  induction rules with
  | nil => rfl
  | cons rule rest ih =>
    rw [consulted_cons, verdict?_cons]
    split
    next ready =>
      obtain ⟨idle, still⟩ := ready_of_ready ready apart
      simp [verdict?_cons, idle, still]
    next => rw [verdict?_cons, ih]

theorem consulted_comm (apart : member ≠ other) (rules : List (Rule κ)) :
    consulted other (consulted member rules) = consulted member (consulted other rules) := by
  induction rules with
  | nil => rfl
  | cons rule rest ih =>
    by_cases ready : rule.ready member = true
    · obtain ⟨idle, still⟩ := ready_of_ready ready apart
      simp [consulted_cons, ready, idle, still]
    · by_cases ready' : rule.ready other = true
      · obtain ⟨idle, still⟩ := ready_of_ready ready' apart.symm
        simp [consulted_cons, ready', idle, still]
      · simp [consulted_cons, ready, ready', ih]

end RuledService.Rule

namespace Surroundings

variable {surroundings : Surroundings κ} {schema : Schema} {service : ServiceId}

def unlogged (surroundings : Surroundings κ) : Surroundings κ := { surroundings with log := [] }

theorem unlogged_report (event : Event) (surroundings : Surroundings κ) :
    (surroundings.report event).unlogged = surroundings.unlogged := by
  unfold report
  split <;> rfl

theorem unlogged_told (events : List Event) (surroundings : Surroundings κ) :
    ((dialogue schema service).told events surroundings).unlogged = surroundings.unlogged := by
  induction events generalizing surroundings with
  | nil => rfl
  | cons event rest ih => exact (ih _).trans (unlogged_report event surroundings)

def rules (surroundings : Surroundings κ) (id : Nat) : List (RuledService.Rule κ) :=
  (surroundings.services.getD id default).rules

def setRules (surroundings : Surroundings κ) (id : Nat) (rules : List (RuledService.Rule κ)) :
    Surroundings κ :=
  { surroundings with
    services := surroundings.services.set id
      { surroundings.services.getD id default with rules := rules } }

theorem setRules_of_unknown (surroundings : Surroundings κ) {id : Nat}
    (unknown : ¬id < surroundings.services.length) (rules : List (RuledService.Rule κ)) :
    surroundings.setRules id rules = surroundings := by
  have same {service : RuledService κ} :
      surroundings.services.set id service = surroundings.services :=
    List.set_eq_of_length_le (Nat.le_of_not_lt unknown)
  exact congrArg (fun services => { surroundings with services := services }) same

theorem rules_setRules {id : Nat} (known : id < surroundings.services.length)
    (rules : List (RuledService.Rule κ)) : (surroundings.setRules id rules).rules id = rules := by
  simp [setRules, Surroundings.rules, List.getD_eq_getElem?_getD, known]

theorem table_setRules (surroundings : Surroundings κ) (id : Nat)
    (rules : List (RuledService.Rule κ)) :
    ((surroundings.setRules id rules).services.getD id default).table =
      (surroundings.services.getD id default).table := by
  by_cases known : id < surroundings.services.length
  · simp [setRules, List.getD_eq_getElem?_getD, known]
  · rw [setRules_of_unknown surroundings known]

theorem setRules_setRules (surroundings : Surroundings κ) (id : Nat)
    (early late : List (RuledService.Rule κ)) :
    (surroundings.setRules id early).setRules id late = surroundings.setRules id late := by
  by_cases known : id < surroundings.services.length
  · simp [setRules, List.getD_eq_getElem?_getD, known]
  · rw [setRules_of_unknown surroundings known]

theorem setRules_rules (surroundings : Surroundings κ) (id : Nat) :
    surroundings.setRules id (surroundings.rules id) = surroundings := by
  by_cases known : id < surroundings.services.length
  · have found : surroundings.services.getD id default = surroundings.services[id] := by
      simp [List.getD_eq_getElem?_getD, known]
    have same : surroundings.services.set id (surroundings.services.getD id default) =
        surroundings.services := by
      rw [found, List.set_getElem_self]
    exact congrArg (fun services => { surroundings with services := services }) same
  · exact setRules_of_unknown surroundings known _

/-- A question to a service with rules uses up a rule, and is written down. -/
theorem ask_ruled (schema : Schema) (id : Nat) (question : Question)
    (surroundings : Surroundings κ) :
    ask schema (.ruled id) question surroundings =
      ((RuledService.Rule.verdict? question.dest.name (surroundings.rules id)).elim
          (.ofExcept ((surroundings.table
            (surroundings.services.getD id default).table).bridge question))
          (resolution schema question.dest.name),
        (surroundings.setRules id (RuledService.Rule.consulted question.dest.name
          (surroundings.rules id))).write (.asked question)) := by
  have unwritten : ((surroundings.write (.asked question)).services.getD id default).rules =
      surroundings.rules id := rfl
  simp only [ask, unwritten, RuledService.Rule.verdict?, RuledService.Rule.consulted]
  cases RuledService.Rule.decide question.dest.name (surroundings.rules id) with
  | none =>
    simp only [Option.map_none, Option.elim, setRules_rules]
    rfl
  | some decision => rfl

/-- Services do not read the log. -/
theorem ask_unlogged (schema : Schema) (service : ServiceId) (question : Question)
    (surroundings : Surroundings κ) :
    (ask schema service question surroundings).1 =
        (ask schema service question surroundings.unlogged).1 ∧
      (ask schema service question surroundings).2.unlogged =
        (ask schema service question surroundings.unlogged).2.unlogged := by
  cases service with
  | table id => exact ⟨rfl, rfl⟩
  | ruled id =>
    rw [ask_ruled, ask_ruled]
    exact ⟨rfl, rfl⟩

def Unlogged (surroundings other : Surroundings κ) : Prop :=
  surroundings.unlogged = other.unlogged

theorem unlogged_similar (schema : Schema) (service : ServiceId) :
    (dialogue (κ := κ) schema service).Similar (dialogue schema service) Unlogged where
  answer := by
    intro s t same question
    refine (ask_unlogged schema service question s).1.trans ?_
    rw [same]
    exact (ask_unlogged schema service question t).1.symm
  ask := by
    intro s t same question
    refine (ask_unlogged schema service question s).2.trans ?_
    rw [same]
    exact (ask_unlogged schema service question t).2.symm
  report := by
    intro s t same event
    exact (unlogged_report event s).trans (same.trans (unlogged_report event t).symm)

/-- Questions about members of different names are answered alike in either order. -/
theorem ask_comm (schema : Schema) (service : ServiceId) {first second : Question}
    (apart : first.dest.name ≠ second.dest.name) (surroundings : Surroundings κ) :
    (ask schema service second (ask schema service first surroundings).2).1 =
        (ask schema service second surroundings).1 ∧
      Unlogged (ask schema service second (ask schema service first surroundings).2).2
        (ask schema service first (ask schema service second surroundings).2).2 := by
  cases service with
  | table id => exact ⟨rfl, rfl⟩
  | ruled id =>
    simp only [ask_ruled]
    by_cases known : id < surroundings.services.length
    -- Each question goes by the rules that the other leaves, and these are for other members.
    · have after (question : Question) (rules : List (RuledService.Rule κ)) :
          (((surroundings.setRules id rules).write (.asked question)).rules id) = rules :=
        rules_setRules known rules
      have table (question : Question) (rules : List (RuledService.Rule κ)) :
          ((((surroundings.setRules id rules).write (.asked question)).services.getD id
            default).table) = (surroundings.services.getD id default).table :=
        table_setRules surroundings id rules
      constructor
      · simp only [after, table, RuledService.Rule.verdict?_consulted apart]
        rfl
      · have both (question question' : Question) (early late : List (RuledService.Rule κ)) :
            ((((surroundings.setRules id early).write (.asked question)).setRules id late).write
              (.asked question')).unlogged = (surroundings.setRules id late).unlogged := by
          rw [← setRules_setRules surroundings id early late]
          rfl
        simp only [Unlogged, after, both, RuledService.Rule.consulted_comm apart]
    · have same {rules : List (RuledService.Rule κ)} :
          surroundings.setRules id rules = surroundings :=
        setRules_of_unknown surroundings known rules
      have still {question : Question} {rules : List (RuledService.Rule κ)} :
          (surroundings.write (.asked question)).setRules id rules =
            surroundings.write (.asked question) :=
        setRules_of_unknown (surroundings.write (.asked question)) known rules
      simp only [same, still]
      exact ⟨rfl, rfl⟩

end Surroundings

namespace Mapper.Action

variable {schema : Schema} {dialogue : Dialogue σ κ} {mapper later : Mapper κ} {state next : σ}
  {action : Action κ}

/-- The same action with its members spelled in another case. -/
inductive Respelled : Action κ → Action κ → Prop where
  | ignore {dest dest' : String} (same : Text.fold dest = Text.fold dest') :
    Respelled (.ignore dest) (.ignore dest')
  | assignMember {dest dest' source source' : String} (same : Text.fold dest = Text.fold dest')
    (same' : Text.fold source = Text.fold source') :
    Respelled (.assignMember dest source) (.assignMember dest' source')
  | assignSource {dest dest' : String} (source : Source κ)
    (same : Text.fold dest = Text.fold dest') :
    Respelled (.assignSource dest source) (.assignSource dest' source)
  | assignComputed {dest dest' : String} (type : ValueType) (compute : κ)
    (same : Text.fold dest = Text.fold dest') :
    Respelled (.assignComputed dest type compute) (.assignComputed dest' type compute)

theorem named?_congr {properties : List (Property Record)} {name name' : String}
    (same : Text.fold name = Text.fold name') :
    Property.named? properties name = Property.named? properties name' := by
  simp only [Property.named?, same]

/-- What an action tells its mapper does not depend on the case of the names. -/
theorem clause?_of_respelled {first second : Action κ} (respelled : first.Respelled second) :
    first.clause? schema dialogue mapper state = second.clause? schema dialogue mapper state := by
  cases respelled with
  | ignore same => simp only [clause?, named?_congr same]
  | @assignMember dest dest' source source' same same' =>
    simp only [clause?, clause?.sourced, Property.readableMember, Property.usableMember,
      Property.writableMember, Property.member, named?_congr same, named?_congr same']
    cases Property.named? (schema.properties mapper.source) source' with
    | none => rfl
    | some property =>
      cases Property.named? (schema.properties mapper.dest) dest' <;> rfl
  | @assignSource dest dest' source same =>
    simp only [clause?, clause?.sourced, Property.writableMember, Property.usableMember,
      Property.member, named?_congr same]
    cases Property.named? (schema.properties mapper.dest) dest' <;> rfl
  | @assignComputed dest dest' type compute same =>
    simp only [clause?, Property.writableMember, Property.usableMember, Property.member,
      named?_congr same]
    cases Property.named? (schema.properties mapper.dest) dest' <;> rfl

/-- What an action tells depends on the slots of its mapper and on the answer to its question. -/
theorem clause?_congr (source : later.source = mapper.source) (dest : later.dest = mapper.dest)
    (answers : ∀ question, action.question? schema mapper = some question →
      (dialogue.ask question next).1 = (dialogue.ask question state).1) :
    action.clause? schema dialogue later next = action.clause? schema dialogue mapper state := by
  have offers {question : Question} (asked : action.question? schema mapper = some question)
      (given : Source κ) (member : Property Record) :
      clause?.offered dialogue next question given member =
        clause?.offered dialogue state question given member := by
    simp only [clause?.offered, answers question asked]
  cases action with
  | ignore name => simp only [clause?, dest]
  | assignMember name given =>
    simp only [clause?, clause?.sourced, source, dest]
    split
    next => rfl
    next property readable =>
      split
      next => rfl
      next member writable =>
        refine offers ?_ _ member
        simp [question?, (Property.readableMember_eq_ok_iff.mp readable).1,
          (Property.writableMember_eq_ok_iff.mp writable).1]
  | assignSource name given =>
    simp only [clause?, clause?.sourced, dest]
    split
    next => rfl
    next member writable =>
      refine offers ?_ _ member
      simp [question?, (Property.writableMember_eq_ok_iff.mp writable).1]
  | assignComputed name type compute =>
    simp only [clause?, dest]
    split
    next => rfl
    next member writable =>
      split
      next => rfl
      next differ =>
        refine offers ?_ _ member
        simp [question?, (Property.writableMember_eq_ok_iff.mp writable).1, differ,
          Source.signature, Source.label, Source.valueType]
  | runBefore | runAfter | construct | compile | recompile => rfl

/-- An action asks about the member that it gives a source. -/
theorem assigns?_of_question {question : Question}
    (asked : action.question? schema mapper = some question) :
    ∃ dest, action.assigns? = some dest ∧ Text.fold question.dest.name = Text.fold dest := by
  cases action with
  | assignMember dest source =>
    simp only [question?, Option.bind_eq_bind, Option.bind_eq_some_iff] at asked
    obtain ⟨property, -, member, found, same⟩ := asked
    obtain rfl := Option.some.inj same
    exact ⟨dest, rfl, Property.fold_of_named? found⟩
  | assignSource dest source =>
    simp only [question?, Option.bind_eq_bind, Option.bind_eq_some_iff] at asked
    obtain ⟨member, found, same⟩ := asked
    obtain rfl := Option.some.inj same
    exact ⟨dest, rfl, Property.fold_of_named? found⟩
  | assignComputed dest type compute =>
    simp only [question?, Option.bind_eq_bind, Option.bind_eq_some_iff] at asked
    obtain ⟨member, found, differ⟩ := asked
    split at differ
    next => simp at differ
    next =>
      obtain rfl := Option.some.inj differ
      exact ⟨dest, rfl, Property.fold_of_named? found⟩
  | _ => simp [question?] at asked

theorem asks_congr (source : later.source = mapper.source) (dest : later.dest = mapper.dest)
    (action : Action κ) : action.asks schema later = action.asks schema mapper := by
  have selections : action.selections schema later = action.selections schema mapper := by
    cases action <;>
      simp only [Action.selections, selections.sourceType, selections.destType,
        selections.sources, selections.dests, source, dest]
  have question : action.question? schema later = action.question? schema mapper := by
    cases action <;> simp only [question?, source, dest]
  rw [asks, asks, selections, question]

theorem asks_cases (schema : Schema) (mapper : Mapper κ) (action : Action κ) :
    action.asks schema mapper = [] ∨ ∃ question,
      action.asks schema mapper = [question] ∧ action.question? schema mapper = some question := by
  unfold asks
  split
  next =>
    cases asked : action.question? schema mapper with
    | none => exact .inl rfl
    | some question => exact .inr ⟨question, rfl, rfl⟩
  next => exact .inl rfl

/-- The actions do not give a source to one and the same member. -/
def Apart (first second : Action κ) : Prop :=
  ∀ dest dest', first.assigns? = some dest → second.assigns? = some dest' →
    Text.fold dest ≠ Text.fold dest'

theorem Apart.symm {first second : Action κ} (apart : first.Apart second) : second.Apart first :=
  fun dest dest' assigns assigns' same => apart dest' dest assigns' assigns same.symm

theorem Apart.names {first second : Action κ} (apart : first.Apart second)
    {question question' : Question} (asked : first.question? schema mapper = some question)
    (asked' : second.question? schema mapper = some question') :
    question.dest.name ≠ question'.dest.name := by
  obtain ⟨dest, assigns, here⟩ := assigns?_of_question asked
  obtain ⟨dest', assigns', there⟩ := assigns?_of_question asked'
  intro same
  exact apart dest dest' assigns assigns' (here.symm.trans ((congrArg Text.fold same).trans there))

section Exchange

open Surroundings (Unlogged)

variable {service : ServiceId} {first second : Action κ} {surroundings other : Surroundings κ}

theorem perform_unlogged (configures : action.configures = true) (id : MapperId) :
    Unlogged (action.perform schema (Surroundings.dialogue schema service) id mapper
        surroundings).2.2
      (action.consulted schema (Surroundings.dialogue schema service) mapper surroundings) := by
  obtain ⟨events, told⟩ := perform_told schema (Surroundings.dialogue schema service) mapper
    surroundings id configures
  rw [told]
  exact Surroundings.unlogged_told events _

theorem consulted_congr (source : later.source = mapper.source) (dest : later.dest = mapper.dest)
    (same : Unlogged surroundings other) (action : Action κ) :
    Unlogged (action.consulted schema (Surroundings.dialogue schema service) later surroundings)
      (action.consulted schema (Surroundings.dialogue schema service) mapper other) := by
  simp only [consulted, asks_congr source dest]
  rcases asks_cases schema mapper action with asks | ⟨question, asks, -⟩
  · rw [asks]
    exact same
  · rw [asks]
    exact (Surroundings.unlogged_similar schema service).ask same question

/-- What one action asks makes no difference to the answer to another. -/
theorem Apart.answer (apart : first.Apart second) {question : Question}
    (asked : second.question? schema mapper = some question) :
    ((Surroundings.dialogue schema service).ask question
        (first.consulted schema (Surroundings.dialogue schema service) mapper surroundings)).1 =
      ((Surroundings.dialogue schema service).ask question surroundings).1 := by
  unfold consulted
  rcases asks_cases schema mapper first with asks | ⟨before, asks, asked'⟩
  · rw [asks]
    rfl
  · rw [asks]
    exact (Surroundings.ask_comm schema service (apart.names asked' asked) surroundings).1

theorem Apart.consulted (apart : first.Apart second) (schema : Schema) (service : ServiceId)
    (mapper : Mapper κ) (surroundings : Surroundings κ) :
    Unlogged
      (second.consulted schema (Surroundings.dialogue schema service) mapper
        (first.consulted schema (Surroundings.dialogue schema service) mapper surroundings))
      (first.consulted schema (Surroundings.dialogue schema service) mapper
        (second.consulted schema (Surroundings.dialogue schema service) mapper surroundings)) := by
  unfold Action.consulted
  rcases asks_cases schema mapper first with asks | ⟨question, asks, asked⟩
  · rw [asks]
    rfl
  rcases asks_cases schema mapper second with asks' | ⟨question', asks', asked'⟩
  · rw [asks']
    rfl
  rw [asks, asks']
  exact (Surroundings.ask_comm schema service (apart.names asked asked') surroundings).2

/-- An action tells its mapper the same after another one that is apart from it. -/
theorem Apart.clause? (apart : first.Apart second) (configures : first.configures = true)
    (id : MapperId) :
    let one := first.perform schema (Surroundings.dialogue schema service) id mapper surroundings
    second.clause? schema (Surroundings.dialogue schema service) one.2.1 one.2.2 =
      second.clause? schema (Surroundings.dialogue schema service) mapper surroundings := by
  intro one
  obtain ⟨source, dest, -⟩ :=
    perform_slots schema (Surroundings.dialogue schema service) id first mapper surroundings
  refine clause?_congr source dest fun question asked => ?_
  have same : Unlogged one.2.2 _ := perform_unlogged configures id
  exact ((Surroundings.unlogged_similar schema service).answer same question).trans
    (apart.answer asked)

/-- Two actions that are apart leave the same surroundings in either order, but for the log. -/
theorem Apart.exchange (apart : first.Apart second) (configures : first.configures = true)
    (configures' : second.configures = true) (id : MapperId) :
    let dialogue := Surroundings.dialogue schema service
    let one := first.perform schema dialogue id mapper surroundings
    let two := second.perform schema dialogue id mapper surroundings
    Unlogged (second.perform schema dialogue id one.2.1 one.2.2).2.2
      (first.perform schema dialogue id two.2.1 two.2.2).2.2 := by
  intro dialogue one two
  have after {early late : Action κ} (configures : early.configures = true)
      (configures' : late.configures = true) :
      let done := early.perform schema dialogue id mapper surroundings
      Unlogged (late.perform schema dialogue id done.2.1 done.2.2).2.2
        (late.consulted schema dialogue mapper
          (early.consulted schema dialogue mapper surroundings)) := by
    intro done
    obtain ⟨source, dest, -⟩ := perform_slots schema dialogue id early mapper surroundings
    exact (perform_unlogged configures' id).trans
      (consulted_congr source dest (perform_unlogged configures id) late)
  exact (after configures configures').trans
    ((apart.consulted schema service mapper surroundings).trans (after configures' configures).symm)

end Exchange

end Mapper.Action

end RecordMapping
