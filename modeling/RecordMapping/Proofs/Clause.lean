import Mathlib.Data.List.Induction
import RecordMapping.Proofs.Formation
import RecordMapping.Proofs.Precedence

namespace RecordMapping

variable {σ κ : Type}

/-- One thing that a mapper can be told: a member to leave out, an assignment for a member, or a
closure to run. -/
inductive Config.Clause (κ : Type) where
  | ignore (dest : String)
  | assign (assignment : Assignment κ)
  | before (hook : κ)
  | after (hook : κ)
  | construct (constructor : κ)

namespace Assignment

def custom (assignment : Assignment κ) : CustomMember κ :=
  ⟨assignment.dest.name, assignment.source.label, assignment⟩

def key (assignment : Assignment κ) : String := Text.fold assignment.dest.name

end Assignment

namespace Config

def put (config : Config κ) : Clause κ → Config κ
  | .ignore dest => config.ignore dest
  | .assign assignment => config.register assignment.custom
  | .before hook => { config with before := some hook }
  | .after hook => { config with after := some hook }
  | .construct constructor => { config with constructor := some constructor }

def told (clauses : List (Clause κ)) : Config κ := clauses.foldl put default

namespace Clause

def key? : Clause κ → Option String
  | .assign assignment => some assignment.key
  | _ => none

def assigned? (key : String) : Clause κ → Option (Assignment κ)
  | .assign assignment => if assignment.key = key then some assignment else none
  | _ => none

def keys (clauses : List (Clause κ)) : List String := (clauses.filterMap key?).eraseDups

def last? (clauses : List (Clause κ)) (key : String) : Option (Assignment κ) :=
  (clauses.filterMap (assigned? key)).getLast?

theorem eraseDups_concat {α : Type} [DecidableEq α] (items : List α) (item : α) :
    (items ++ [item]).eraseDups =
      if item ∈ items then items.eraseDups else items.eraseDups ++ [item] := by
  rw [List.eraseDups_append]
  by_cases known : item ∈ items
  · simp [List.removeAll, known]
  · simp [List.removeAll, known, List.eraseDups_cons]

variable {clauses : List (Clause κ)} {clause : Clause κ} {assignment : Assignment κ} {key : String}

theorem assigned?_eq_some : clause.assigned? key = some assignment ↔
    clause = .assign assignment ∧ assignment.key = key := by
  cases clause with
  | assign other =>
    simp only [assigned?, Clause.assign.injEq]
    split
    next here =>
      rw [Option.some_inj]
      exact ⟨fun same => ⟨same, same ▸ here⟩, fun told => told.1⟩
    next apart => exact ⟨nofun, fun ⟨same, here⟩ => absurd (same ▸ here) apart⟩
  | _ => simp [assigned?]

theorem last?_eq_some : last? clauses key = some assignment ↔
    ∃ before after, clauses = before ++ .assign assignment :: after ∧ assignment.key = key ∧
      ∀ clause ∈ after, clause.assigned? key = none := by
  rw [last?, List.getLast?_eq_some_iff]
  constructor
  · rintro ⟨early, split⟩
    obtain ⟨before, rest, rfl, -, late⟩ := List.filterMap_eq_append_iff.mp split
    obtain ⟨middle, clause, after, rfl, -, told, quiet⟩ := List.filterMap_eq_cons_iff.mp late
    obtain ⟨rfl, here⟩ := assigned?_eq_some.mp told
    exact ⟨before ++ middle, after, by simp, here, List.filterMap_eq_nil_iff.mp quiet⟩
  · rintro ⟨before, after, rfl, here, quiet⟩
    refine ⟨before.filterMap (assigned? key), ?_⟩
    have told : (assign assignment).assigned? key = some assignment :=
      assigned?_eq_some.mpr ⟨rfl, here⟩
    rw [List.filterMap_append, List.filterMap_cons, told, List.filterMap_eq_nil_iff.mpr quiet]

theorem last?_concat : last? (clauses ++ [clause]) key =
    (clause.assigned? key).or (last? clauses key) := by
  rw [last?, List.filterMap_append, List.getLast?_append, last?]
  cases told : clause.assigned? key <;> simp [told]

theorem keys_concat : keys (clauses ++ [clause]) = match clause.key? with
    | some key => if key ∈ keys clauses then keys clauses else keys clauses ++ [key]
    | none => keys clauses := by
  rw [keys, List.filterMap_append, keys]
  cases told : clause.key? with
  | none => simp [told]
  | some key =>
    simp only [List.filterMap_cons, told, List.filterMap_nil, List.mem_eraseDups]
    exact eraseDups_concat _ key

end Clause

theorem told_concat (clauses : List (Clause κ)) (clause : Clause κ) :
    told (clauses ++ [clause]) = (told clauses).put clause := by
  simp [told]

theorem put_assign (config : Config κ) (assignment : Assignment κ) :
    config.put (.assign assignment) =
      { config with custom := config.custom.insert assignment.key assignment.custom } := rfl

/-- What is configured for a key is its last assignment. -/
theorem get?_told (clauses : List (Clause κ)) (key : String) :
    (told clauses).custom.get? key = (Clause.last? clauses key).map Assignment.custom := by
  induction clauses using List.reverseRecOn with
  | nil => rfl
  | append_singleton clauses clause ih =>
    rw [told_concat, Clause.last?_concat]
    cases clause with
    | assign assignment =>
      rw [put_assign, OrderedMap.get?_insert, ih, Clause.assigned?]
      split
      next => rfl
      next => rw [Option.none_or]
    | _ => simpa [Clause.assigned?, put, ignore] using ih

/-- The keys stand in the order of their first assignments. -/
theorem keys_told (clauses : List (Clause κ)) :
    (told clauses).custom.keys = Clause.keys clauses := by
  induction clauses using List.reverseRecOn with
  | nil => rfl
  | append_singleton clauses clause ih =>
    rw [told_concat, Clause.keys_concat]
    cases clause with
    | assign assignment =>
      simp only [Clause.key?, ← ih]
      exact OrderedMap.keys_store _ _ _
    | _ => exact ih

theorem distinct_told (clauses : List (Clause κ)) : (told clauses).custom.keys.Nodup := by
  induction clauses using List.reverseRecOn with
  | nil => exact List.nodup_nil
  | append_singleton clauses clause ih =>
    rw [told_concat]
    cases clause with
    | assign assignment => exact OrderedMap.nodup_keys_insert ih _ _
    | _ => exact ih

end Config

namespace Mapper.Action

variable (schema : Schema) (dialogue : Dialogue σ κ) (mapper : Mapper κ) (state : σ)

/-- What an action tells its mapper: the members of the names that it gives, with the converter that
the service offers. It tells nothing if a member or the service stands in the way. -/
def clause? : Action κ → Option (Config.Clause κ)
  | .ignore dest =>
    (Property.named? (schema.properties mapper.dest) dest).map fun member => .ignore member.name
  | .assignMember dest source =>
    match Property.readableMember (Slot.typeName mapper.source) (schema.properties mapper.source)
        source with
    | .error _ => none
    | .ok property => sourced dest (.member property)
  | .assignSource dest source => sourced dest source
  | .assignComputed dest type compute =>
    match Property.writableMember (Slot.typeName mapper.dest) (schema.properties mapper.dest)
        dest with
    | .error _ => none
    | .ok member =>
      let source : Source κ := .computed ("fn -> " ++ type.name) type compute
      if type = member.valueType then some (.assign ⟨source, .identity, member⟩)
      else offered (.computed source.signature member.signature) source member
  | .runBefore hook => some (.before hook)
  | .runAfter hook => some (.after hook)
  | .construct constructor => some (.construct constructor)
  | .compile | .recompile => none
where
  offered (question : Question) (source : Source κ) (member : Property Record) :
      Option (Config.Clause κ) :=
    match (dialogue.ask question state).1 with
    | .convert converter => some (.assign ⟨source, converter, member⟩)
    | _ => none
  sourced (dest : String) (source : Source κ) : Option (Config.Clause κ) :=
    match Property.writableMember (Slot.typeName mapper.dest) (schema.properties mapper.dest)
        dest with
    | .error _ => none
    | .ok member => offered (.member member.signature source.signature) source member

variable {schema dialogue mapper state} {action : Action κ} {clause : Config.Clause κ}

/-- A configuring action that tells its mapper something does just that; the lock alone can keep it
from it. One that tells nothing fails. -/
def Tells (action : Action κ) (schema : Schema) (dialogue : Dialogue σ κ) (mapper : Mapper κ)
    (state : σ) (done : Outcome (Option (Plan κ)) × Mapper κ × σ) : Prop :=
  match action.clause? schema dialogue mapper state with
  | some clause =>
    if mapper.poisoned then done.1 = .error .lockPoisoned ∧ done.2.1 = mapper
    else done.1 = .ok none ∧ done.2.1 = { mapper with config := mapper.config.put clause }
  | none => (∃ failure : Failure, done.1 = failure.outcome) ∧ done.2.1 = mapper

theorem configure_tells {setting : Setting} {change : Config κ → Config κ} (start : σ)
    (tells : action.clause? schema dialogue mapper state = some clause)
    (same : change mapper.config = mapper.config.put clause) :
    action.Tells schema dialogue mapper state
      (perform.plain (mapper.configure dialogue setting change start)) := by
  unfold Tells
  rw [tells]
  cases poisoned : mapper.poisoned with
  | true => simp [perform.plain, Mapper.configure, poisoned, Outcome.map]
  | false => simp [perform.plain, Mapper.configure, poisoned, Outcome.map, same]

theorem fails_tells (failure : Failure) {later : σ}
    (silent : action.clause? schema dialogue mapper state = none) :
    action.Tells schema dialogue mapper state (failure.outcome, mapper, later) := by
  unfold Tells
  rw [silent]
  exact ⟨⟨failure, rfl⟩, rfl⟩

theorem negotiate_tells {question : Question} {source : Source κ} {member : Property Record}
    (tells : action.clause? schema dialogue mapper state =
      clause?.offered dialogue state question source member) :
    action.Tells schema dialogue mapper state
      (perform.plain (mapper.negotiate dialogue question source member state)) := by
  obtain ⟨answer, next, heard⟩ : ∃ answer next, dialogue.ask question state = (answer, next) :=
    ⟨_, _, rfl⟩
  simp only [Mapper.negotiate, heard]
  simp only [clause?.offered, heard] at tells
  cases answer with
  | convert converter => exact configure_tells _ tells rfl
  | refuse error => exact fails_tells (.error error) tells
  | panic text => exact fails_tells (.panic text) tells

theorem assignSource_tells {dest : String} {source : Source κ}
    (tells : action.clause? schema dialogue mapper state =
      clause?.sourced schema dialogue mapper state dest source) :
    action.Tells schema dialogue mapper state
      (perform.plain (mapper.assignSource schema dialogue dest source state)) := by
  simp only [Mapper.assignSource]
  simp only [clause?.sourced] at tells
  cases named : Property.writableMember (Slot.typeName mapper.dest) (schema.properties mapper.dest)
      dest with
  | error error =>
    rw [named] at tells
    exact fails_tells (.error error) tells
  | ok member =>
    rw [named] at tells
    exact negotiate_tells tells

/-- Every configuring action does what it tells. -/
theorem perform_tells (id : MapperId) (configures : action.configures = true) :
    action.Tells schema dialogue mapper state
      (action.perform schema dialogue id mapper state) := by
  cases action with
  | ignore dest =>
    dsimp only [perform, Mapper.ignore]
    cases named : Property.named? (schema.properties mapper.dest) dest with
    | none =>
      simp only [Property.member, named]
      exact fails_tells (.error _) (by simp [clause?, named])
    | some member =>
      simp only [Property.member, named]
      have tells : (ignore dest : Action κ).clause? schema dialogue mapper state =
          some (.ignore member.name) := by
        simp [clause?, named]
      exact configure_tells state tells rfl
  | assignMember dest source =>
    dsimp only [perform, Mapper.assignMember]
    split
    next error named => exact fails_tells (.error error) (by simp [clause?, named])
    next property named => exact assignSource_tells (by simp [clause?, named])
  | assignSource dest source => exact assignSource_tells rfl
  | assignComputed dest type compute =>
    dsimp only [perform, Mapper.assignComputed]
    split
    next error named => exact fails_tells (.error error) (by simp [clause?, named])
    next member named =>
      split
      next agree =>
        have tells : (assignComputed dest type compute).clause? schema dialogue mapper state =
            some (.assign
              ⟨.computed ("fn -> " ++ type.name) type compute, .identity, member⟩) := by
          simp [clause?, named, agree]
        exact configure_tells _ tells rfl
      next differ => exact negotiate_tells (by simp [clause?, named, differ])
  | runBefore hook =>
    have tells : (runBefore hook).clause? schema dialogue mapper state = some (.before hook) := rfl
    exact configure_tells state tells rfl
  | runAfter hook =>
    have tells : (runAfter hook).clause? schema dialogue mapper state = some (.after hook) := rfl
    exact configure_tells state tells rfl
  | construct made =>
    have tells : (construct made).clause? schema dialogue mapper state = some (.construct made) :=
      rfl
    exact configure_tells state tells rfl
  | compile | recompile => simp [Action.configures] at configures

/-- The clause that an action adds to the configuration, if the lock lets it. -/
theorem perform_told_clause (id : MapperId) (configures : action.configures = true) :
    (action.perform schema dialogue id mapper state).2.1 =
      match (if mapper.poisoned then none else action.clause? schema dialogue mapper state) with
      | some clause => { mapper with config := mapper.config.put clause }
      | none => mapper := by
  have tells : action.Tells schema dialogue mapper state
      (action.perform schema dialogue id mapper state) := perform_tells id configures
  unfold Tells at tells
  cases told : action.clause? schema dialogue mapper state with
  | none =>
    rw [told] at tells
    rw [ite_self]
    exact tells.2
  | some clause =>
    rw [told] at tells
    by_cases poisoned : mapper.poisoned = true
    · simp only [if_pos poisoned] at tells ⊢
      exact tells.2
    · simp only [if_neg poisoned] at tells ⊢
      exact tells.2

/-- A use that builds nothing leaves the mapper as it is, and no use changes the assignments that it
has been told. -/
theorem perform_of_uses (id : MapperId) (uses : action.configures = false) :
    (action.composition? schema dialogue mapper state = none →
      (action.perform schema dialogue id mapper state).2.1 = mapper) ∧
    (action.perform schema dialogue id mapper state).2.1.config.custom = mapper.config.custom := by
  have effect : action.Effect schema dialogue id mapper state
      (action.perform schema dialogue id mapper state).1
      (action.perform schema dialogue id mapper state).2.1 := use_effect uses
  generalize (action.perform schema dialogue id mapper state).1 = outcome at effect
  generalize (action.perform schema dialogue id mapper state).2.1 = later at effect ⊢
  cases effect with
  | objected configures => simp [uses] at configures
  | set _ _ sets => simp [sets.configures] at uses
  | locked | reused => exact ⟨fun _ => rfl, rfl⟩
  | built builds | aborted builds =>
    refine ⟨fun idle => absurd (builds.building.symm.trans idle) (by simp), ?_⟩
    rw [builds.built.others]

theorem clause?_of_uses (uses : action.configures = false) :
    action.clause? schema dialogue mapper state = none := by
  cases action <;> simp_all [clause?, Action.configures]

theorem configures_of_assigns {dest : String} (assigns : action.assigns? = some dest) :
    action.configures = true := by
  cases action with
  | assignMember | assignSource | assignComputed => rfl
  | ignore | runBefore | runAfter | construct | compile | recompile => simp [assigns?] at assigns

/-- What an assignment comes from: a destination member that can be written, and a converter between
members of one type or one that the service has offered for these types. -/
structure Agreed (schema : Schema) (dialogue : Dialogue σ κ) (mapper : Mapper κ) (state : σ)
    (dest : String) (assignment : Assignment κ) : Prop where
  member : Property.writableMember (Slot.typeName mapper.dest) (schema.properties mapper.dest)
    dest = .ok assignment.dest
  converter :
    assignment.converter = .identity ∧ assignment.source.valueType = assignment.dest.valueType ∨
      ∃ question, question.source.valueType = assignment.source.valueType ∧
        question.dest.valueType = assignment.dest.valueType ∧
        (dialogue.ask question state).1 = .convert assignment.converter

theorem agreed_of_offered {question : Question} {source : Source κ} {member : Property Record}
    {dest : String}
    (named : Property.writableMember (Slot.typeName mapper.dest) (schema.properties mapper.dest)
      dest = .ok member)
    (given : question.source.valueType = source.valueType)
    (wanted : question.dest.valueType = member.valueType)
    (tells : clause?.offered dialogue state question source member = some clause) :
    ∃ assignment, clause = .assign assignment ∧
      Agreed schema dialogue mapper state dest assignment := by
  unfold clause?.offered at tells
  split at tells
  next converter heard =>
    obtain rfl := Option.some.inj tells
    exact ⟨_, rfl, named, .inr ⟨question, given, wanted, heard⟩⟩
  next => simp at tells

theorem agreed_of_sourced {dest : String} {source : Source κ}
    (tells : clause?.sourced schema dialogue mapper state dest source = some clause) :
    ∃ assignment, clause = .assign assignment ∧
      Agreed schema dialogue mapper state dest assignment := by
  unfold clause?.sourced at tells
  split at tells
  next => simp at tells
  next member named => exact agreed_of_offered named rfl rfl tells

/-- An action that gives a member a source tells an assignment for it, or nothing. -/
theorem agreed_of_assigns {dest : String} (assigns : action.assigns? = some dest)
    (tells : action.clause? schema dialogue mapper state = some clause) :
    ∃ assignment, clause = .assign assignment ∧
      Agreed schema dialogue mapper state dest assignment := by
  cases action with
  | assignMember name source =>
    obtain rfl := Option.some.inj assigns
    dsimp only [clause?] at tells
    split at tells
    next => simp at tells
    next property named => exact agreed_of_sourced tells
  | assignSource name source =>
    obtain rfl := Option.some.inj assigns
    exact agreed_of_sourced tells
  | assignComputed name type compute =>
    obtain rfl := Option.some.inj assigns
    dsimp only [clause?] at tells
    split at tells
    next => simp at tells
    next member named =>
      split at tells
      next agree =>
        obtain rfl := Option.some.inj tells
        exact ⟨_, rfl, named, .inl ⟨rfl, agree⟩⟩
      next => exact agreed_of_offered named rfl rfl tells
  | ignore | runBefore | runAfter | construct | compile | recompile => simp [assigns?] at assigns

theorem agreed_of_assign {assignment : Assignment κ}
    (tells : action.clause? schema dialogue mapper state = some (.assign assignment)) :
    ∃ dest, action.assigns? = some dest ∧ Agreed schema dialogue mapper state dest assignment := by
  have assigns : ∃ dest, action.assigns? = some dest := by
    cases action with
    | assignMember dest | assignSource dest | assignComputed dest => exact ⟨dest, rfl⟩
    | ignore | runBefore | runAfter | construct | compile | recompile => simp [clause?] at tells
  obtain ⟨dest, assigns⟩ := assigns
  obtain ⟨other, same, agreed⟩ := agreed_of_assigns assigns tells
  obtain rfl := Config.Clause.assign.inj same
  exact ⟨dest, assigns, agreed⟩

end Mapper.Action

def Moment.clause? (id : MapperId) (moment : Moment κ) : Option (Config.Clause κ) :=
  match moment.world.mappers[id]?, moment.action? id with
  | some mapper, some action =>
    if mapper.poisoned then none
    else action.clause? moment.world.schema
      (Surroundings.dialogue moment.world.schema mapper.service) mapper moment.world.surroundings
  | _, _ => none

namespace Moment

variable {id : MapperId} {moment : Moment κ} {clause : Config.Clause κ}

theorem clause?_eq_some : moment.clause? id = some clause ↔
    ∃ mapper action, moment.world.mappers[id]? = some mapper ∧ moment.action? id = some action ∧
      mapper.poisoned = false ∧ action.clause? moment.world.schema
        (Surroundings.dialogue moment.world.schema mapper.service) mapper
          moment.world.surroundings = some clause := by
  unfold clause?
  constructor
  · intro tells
    split at tells
    next mapper action found acts =>
      split at tells
      next => simp at tells
      next healthy => exact ⟨mapper, action, found, acts, by simpa using healthy, tells⟩
    next => simp at tells
  · rintro ⟨mapper, action, found, acts, healthy, tells⟩
    simp [found, acts, healthy, tells]

theorem clause?_of_no_action (idle : moment.action? id = none) : moment.clause? id = none := by
  unfold clause?
  rw [idle]
  cases moment.world.mappers[id]? <;> rfl

end Moment

def Mapper.clauses (id : MapperId) (past : List (Moment κ)) : List (Config.Clause κ) :=
  past.filterMap (Moment.clause? id)

theorem Mapper.clauses_concat (id : MapperId) (past : List (Moment κ)) (moment : Moment κ) :
    clauses id (past ++ [moment]) = clauses id past ++ (moment.clause? id).toList := by
  rw [clauses, List.filterMap_append]
  cases told : moment.clause? id <;> simp [told, clauses]

namespace World

variable {world : World κ} {held : List Hold} {request : Request κ} {id : MapperId}
  {mapper : Mapper κ}

/-- An assignment that is told is one for the member that the call names. -/
theorem clause?_of_assigns {action : Mapper.Action κ}
    (aimed : world.action? held request = some (id, action)) {dest : String}
    (assigns : action.assigns? = some dest) {clause : Config.Clause κ}
    (tells : Moment.clause? id ⟨world, held, request⟩ = some clause) :
    ∃ assignment, clause = .assign assignment ∧ assignment.key = Text.fold dest := by
  obtain ⟨mapper, action', found, acts, -, told⟩ := Moment.clause?_eq_some.mp tells
  have same : action = action' := by simpa [Moment.action?, aimed] using acts
  subst same
  obtain ⟨assignment, rfl, agreed⟩ := Mapper.Action.agreed_of_assigns assigns told
  exact ⟨assignment, rfl, Mapper.Action.fold_of_writableMember agreed.member⟩

variable [Closures κ]

/-- A moment either tells a mapper its clause, or builds, or leaves the mapper as it is. -/
theorem serve_clause (found : world.mappers[id]? = some mapper) (held : List Hold)
    (request : Request κ) :
    ∃ later, (world.serve held request).2.mappers[id]? = some later ∧
      match Moment.clause? id ⟨world, held, request⟩ with
      | some clause => Moment.composition? id ⟨world, held, request⟩ = none ∧
          later = { mapper with config := mapper.config.put clause }
      | none => (Moment.composition? id ⟨world, held, request⟩ = none → later = mapper) ∧
          later.config.custom = mapper.config.custom := by
  refine ⟨_, serve_mapper found held request, ?_⟩
  cases acts : Moment.action? id ⟨world, held, request⟩ with
  | none =>
    rw [Moment.clause?_of_no_action acts]
    exact ⟨fun _ => rfl, rfl⟩
  | some action =>
    let dialogue : Dialogue (Surroundings κ) κ := Surroundings.dialogue world.schema mapper.service
    have composes : Moment.composition? id ⟨world, held, request⟩ =
        action.composition? world.schema dialogue mapper world.surroundings := by
      simp only [Moment.composition?, found, acts]
      rfl
    have tells : Moment.clause? id ⟨world, held, request⟩ = if mapper.poisoned then none
        else action.clause? world.schema dialogue mapper world.surroundings := by
      simp only [Moment.clause?, found, acts]
      rfl
    cases configures : action.configures with
    | true =>
      have told : (world.performed id mapper action).2.1 = _ :=
        Mapper.Action.perform_told_clause id configures
      have idle := composes.trans (Mapper.Action.composition?_of_configures configures)
      rw [← tells] at told
      dsimp only [afterwards]
      rw [told]
      cases Moment.clause? id ⟨world, held, request⟩ with
      | some clause => exact ⟨idle, rfl⟩
      | none => exact ⟨fun _ => rfl, rfl⟩
    | false =>
      have used : (action.composition? world.schema dialogue mapper world.surroundings = none →
          (world.performed id mapper action).2.1 = mapper) ∧
          (world.performed id mapper action).2.1.config.custom = mapper.config.custom :=
        Mapper.Action.perform_of_uses id configures
      rw [tells, Mapper.Action.clause?_of_uses configures, ite_self, composes]
      exact used

/-- A mapper is told something by exactly the configuring calls whose callers are told so. -/
theorem clause?_iff_answered {action : Mapper.Action κ}
    (aimed : world.action? held request = some (id, action))
    (configures : action.configures = true) :
    (Moment.clause? id ⟨world, held, request⟩).isSome = true ↔
      ∃ depth later, world.answer depth held request = some (.ok .unit, later) := by
  have follows := world.serve_follows held request
  rw [aimed] at follows
  obtain ⟨mapper, found, -⟩ := follows
  have acts : Moment.action? id ⟨world, held, request⟩ = some action := by
    simp [Moment.action?, aimed]
  have told : Mapper.Action.Tells action world.schema
      (Surroundings.dialogue world.schema mapper.service) mapper world.surroundings
      (world.performed id mapper action) := Mapper.Action.perform_tells id configures
  unfold Mapper.Action.Tells at told
  rw [← done_iff found aimed configures, Moment.done?_eq_some found acts]
  simp only [Moment.clause?, found, acts]
  cases clause : action.clause? world.schema (Surroundings.dialogue world.schema mapper.service)
      mapper world.surroundings with
  | none =>
    rw [clause] at told
    obtain ⟨⟨failure, fails⟩, -⟩ := told
    refine iff_of_false (by simp) ?_
    rintro ⟨result, succeeds⟩
    exact failure.outcome_ne_ok result (fails.symm.trans succeeds)
  | some clause =>
    by_cases poisoned : mapper.poisoned = true
    · simp only [clause, if_pos poisoned] at told
      refine iff_of_false (by simp [poisoned]) ?_
      rintro ⟨result, succeeds⟩
      simp [told.1] at succeeds
    · simp only [clause, if_neg poisoned] at told
      exact iff_of_true (by simp [poisoned]) ⟨none, told.1⟩

end World

end RecordMapping
