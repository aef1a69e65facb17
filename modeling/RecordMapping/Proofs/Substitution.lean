import RecordMapping.Proofs.Effect
import RecordMapping.Proofs.Trace

namespace RecordMapping

variable {σ κ α : Type}

namespace Mapper

/-- The two mappers look the same to whoever does not get past their locks. -/
structure Resembles (mapper other : Mapper κ) : Prop where
  source : other.source = mapper.source
  dest : other.dest = mapper.dest
  service : other.service = mapper.service
  builds : other.builds = mapper.builds

theorem Resembles.refl (mapper : Mapper κ) : mapper.Resembles mapper := ⟨rfl, rfl, rfl, rfl⟩

theorem Resembles.symm {mapper other : Mapper κ} (resembles : mapper.Resembles other) :
    other.Resembles mapper :=
  ⟨resembles.source.symm, resembles.dest.symm, resembles.service.symm, resembles.builds.symm⟩

def Shut (mapper other : Mapper κ) : Prop := mapper.poisoned = true ∧ other.poisoned = true

def Rejected (act : Mapper κ → σ → Outcome α × Mapper κ × σ) (mapper other : Mapper κ) (state : σ) :
    Prop :=
  ∃ outcome next, act mapper state = (outcome, mapper, next) ∧
    act other state = (outcome, other, next)

section Rejected

variable {schema : Schema} {dialogue : Dialogue σ κ} {id : MapperId} {mapper other : Mapper κ}
  {state : σ}

theorem configure_rejected (shut : mapper.Shut other) (setting : Setting)
    (change : Config κ → Config κ) :
    Rejected (configure dialogue setting change) mapper other state :=
  ⟨.error .lockPoisoned, state, by simp [configure, shut.1], by simp [configure, shut.2]⟩

theorem registerCustom_rejected (shut : mapper.Shut other) (assignment : Assignment κ) :
    Rejected (registerCustom dialogue assignment) mapper other state := by
  refine ⟨.error .lockPoisoned,
    dialogue.report (.customRegistered assignment.dest.name assignment.source.label) state, ?_, ?_⟩
  · simp [registerCustom, configure, shut.1]
  · simp [registerCustom, configure, shut.2]

theorem negotiate_rejected {question : Question}
    (turned : mapper.Shut other ∨
      ∃ failure, Action.objection?.answered dialogue state question = some failure)
    (source : Source κ) (dest : Property Record) :
    Rejected (negotiate dialogue question source dest) mapper other state := by
  obtain ⟨answer, next, heard⟩ : ∃ answer next, dialogue.ask question state = (answer, next) :=
    ⟨_, _, rfl⟩
  simp only [Action.objection?.answered, heard] at turned
  simp only [Rejected, negotiate, heard]
  cases answer with
  | convert converter => exact registerCustom_rejected (turned.resolve_right (by simp)) _
  | refuse error => exact ⟨.error error, next, rfl, rfl⟩
  | panic text => exact ⟨.panic text, next, rfl, rfl⟩

theorem assignSource_rejected (resembles : mapper.Resembles other) {dest : String}
    {source : Source κ}
    (turned : mapper.Shut other ∨
      ∃ failure,
        Action.objection?.sourced schema dialogue mapper state dest source = some failure) :
    Rejected (assignSource schema dialogue dest source) mapper other state := by
  simp only [Rejected, assignSource, resembles.dest]
  unfold Action.objection?.sourced at turned
  cases named : Property.writableMember (Slot.typeName mapper.dest) (schema.properties mapper.dest)
      dest with
  | error error => exact ⟨.error error, state, rfl, rfl⟩
  | ok member =>
    rw [named] at turned
    exact negotiate_rejected turned source member

/-- An action is turned away if something else is wrong with it, and else by the lock. -/
theorem perform_rejected (resembles : mapper.Resembles other) {action : Action κ}
    (turned : mapper.Shut other ∨
      ∃ failure, action.objection? schema dialogue mapper state = some failure) :
    Rejected (action.perform schema dialogue id) mapper other state := by
  -- An action without a plan turns away as its method does.
  have plain {act : Mapper κ → σ → Outcome Unit × Mapper κ × σ}
      (rejected : Rejected act mapper other state) :
      Rejected (fun mapper state => Action.perform.plain (act mapper state)) mapper other
        state := by
    obtain ⟨outcome, next, here, there⟩ := rejected
    exact ⟨outcome.map fun _ => none, next, by simp only [here, Action.perform.plain],
      by simp only [there, Action.perform.plain]⟩
  cases action with
  | ignore dest =>
    refine plain ?_
    simp only [Rejected, ignore, resembles.dest]
    simp only [Action.objection?] at turned
    cases named : Property.member (Slot.typeName mapper.dest) (schema.properties mapper.dest)
        dest with
    | error error => exact ⟨.error error, state, rfl, rfl⟩
    | ok member =>
      rw [named] at turned
      exact configure_rejected (turned.resolve_right (by simp)) _ _
  | assignMember dest source =>
    refine plain ?_
    simp only [Rejected, assignMember, resembles.source]
    simp only [Action.objection?] at turned
    cases named : Property.readableMember (Slot.typeName mapper.source)
        (schema.properties mapper.source) source with
    | error error => exact ⟨.error error, state, rfl, rfl⟩
    | ok property =>
      rw [named] at turned
      exact assignSource_rejected resembles turned
  | assignSource dest source => exact plain (assignSource_rejected resembles turned)
  | assignComputed dest type compute =>
    refine plain ?_
    simp only [Rejected, assignComputed, resembles.dest]
    simp only [Action.objection?] at turned
    cases named : Property.writableMember (Slot.typeName mapper.dest)
        (schema.properties mapper.dest) dest with
    | error error => exact ⟨.error error, state, rfl, rfl⟩
    | ok member =>
      simp only [named] at turned ⊢
      split
      next agree =>
        rw [if_pos agree] at turned
        exact registerCustom_rejected (turned.resolve_right (by simp)) _
      next differ =>
        rw [if_neg differ] at turned
        exact negotiate_rejected turned _ member
  | runBefore | runAfter | construct =>
    exact plain (configure_rejected (turned.resolve_right (by simp [Action.objection?])) _ _)
  | compile =>
    have shut := turned.resolve_right (by simp [Action.objection?])
    refine ⟨.error .lockPoisoned, state, ?_, ?_⟩
    · simp [Action.perform, Action.perform.given, compile, shut.1, Outcome.map]
    · simp [Action.perform, Action.perform.given, compile, shut.2, Outcome.map]
  | recompile =>
    have shut := turned.resolve_right (by simp [Action.objection?])
    refine ⟨.error .lockPoisoned, state, ?_, ?_⟩
    · simp [Action.perform, Action.perform.given, recompile, shut.1, Outcome.map]
    · simp [Action.perform, Action.perform.given, recompile, shut.2, Outcome.map]

end Rejected

end Mapper

/-- The same outcome of each kind, for what carries no result but one. -/
theorem Outcome.map_injective {β : Type} {f : α → β} (injective : ∀ a b, f a = f b → a = b)
    {first second : Outcome α} (same : first.map f = second.map f) : first = second := by
  cases first <;> cases second <;> simp_all [Outcome.map]
  exact injective _ _ same

namespace World

def replaced (world : World κ) (id : MapperId) (other : Mapper κ) : World κ :=
  { world with mappers := world.mappers.set id other }

/-- A replacement can be taken back. -/
theorem replaced_replaced {world : World κ} {id : MapperId} {mapper : Mapper κ}
    (found : world.mappers[id]? = some mapper) (other : Mapper κ) :
    (world.replaced id other).replaced id mapper = world := by
  obtain ⟨bound, rfl⟩ := List.getElem?_eq_some_iff.mp found
  simp [replaced]

@[simp] theorem schema_replaced (world : World κ) (id : MapperId) (other : Mapper κ) :
    (world.replaced id other).schema = world.schema := rfl

@[simp] theorem handles_replaced (world : World κ) (id : MapperId) (other : Mapper κ) :
    (world.replaced id other).handles = world.handles := rfl

@[simp] theorem registry_replaced (world : World κ) (id : MapperId) (other : Mapper κ)
    (registry : Nat) : (world.replaced id other).registry registry = world.registry registry := rfl

/-- What is given out, and the session then with another mapper in the place of one. -/
def replacing (id : MapperId) (other : Mapper κ) (done : α × World κ) : α × World κ :=
  (done.1, done.2.replaced id other)

/-- The action comes to the same on both sides of a replacement. -/
def Matches (world : World κ) (id : MapperId) (other : Mapper κ) (target : MapperId)
    (mapper mapper' : Mapper κ) (action : Mapper.Action κ) : Prop :=
  (world.replaced id other).carryOut target mapper' action =
    replacing id other (world.carryOut target mapper action)

variable {world : World κ} {id target : MapperId} {other mapper mapper' : Mapper κ}

theorem act_of_mapped {α β : Type} {f : α → β} (injective : ∀ a b, f a = f b → a = b)
    {act : Dialogue (Surroundings κ) κ → Mapper κ → Surroundings κ →
      Outcome α × Mapper κ × Surroundings κ}
    (same : (world.replaced id other).act target mapper' (fun dialogue mapper state =>
        ((act dialogue mapper state).1.map f, (act dialogue mapper state).2)) =
      replacing id other (world.act target mapper fun dialogue mapper state =>
        ((act dialogue mapper state).1.map f, (act dialogue mapper state).2))) :
    (world.replaced id other).act target mapper' act =
      replacing id other (world.act target mapper act) := by
  obtain ⟨outcome, later⟩ := Prod.mk.inj same
  exact Prod.ext (Outcome.map_injective injective outcome) later

theorem enroll_replaced (registry : Nat) (entry : Entry κ) :
    (world.replaced id other).enroll registry entry =
      replacing id other (world.enroll registry entry) := by
  dsimp only [enroll, consult, registry_replaced]
  rcases (world.registry registry).register entry with ⟨_ | _ | _, next⟩ <;> rfl

theorem present_replaced (keep : Option String) (done : Outcome (Plan κ) × World κ) :
    present keep (replacing id other done) = replacing id other (present keep done) := by
  obtain ⟨_ | _ | _, next⟩ := done
  · cases keep <;> rfl
  · rfl
  · rfl

/-- A new mapper comes after all that there are. -/
theorem keepMapper_replaced (found : world.mappers[id]? = some mapper) (keep : String)
    (surroundings : Surroundings κ) (made : Mapper κ) :
    let world' := { world.replaced id other with surroundings := surroundings }
    let new := world'.newMapper made
    let old := { world with surroundings := surroundings }.newMapper made
    (answered (.ok .unit) (new.2.keep keep (.mapper new.1)) : Launch κ Answer × World κ) =
      replacing id other (answered (.ok .unit) (old.2.keep keep (.mapper old.1))) := by
  obtain ⟨bound, -⟩ := List.getElem?_eq_some_iff.mp found
  simp [replaced, newMapper, World.keep, replacing, answered, List.set_append_left _ _ bound]

section Serve

variable [Closures κ]

theorem resolve_replaced (service : ServiceId) (question : Question) (input : Erased) :
    (world.replaced id other).resolve service question input =
      replacing id other (world.resolve service question input) := by
  dsimp only [resolve, replaced]
  rcases world.surroundings.ask world.schema service question with ⟨_ | _ | _, surroundings⟩ <;> rfl

theorem callErased_replaced (name : String) (erased : Erased) (call : ErasedCall κ) :
    (world.replaced id other).callErased name erased call =
      replacing id other (world.callErased name erased call) := by
  cases call with
  | modify type change =>
    dsimp only [callErased]
    split <;> rfl
  | isType | hasType | get | take => rfl

theorem runMapper_replaced (compiles : world.Matches id other target mapper mapper' .compile)
    (source : Record) (dest : Option Record) :
    (world.replaced id other).runMapper target mapper' source dest =
      replacing id other (world.runMapper target mapper source dest) := by
  have same : (world.replaced id other).compile target mapper' =
      replacing id other (world.compile target mapper) :=
    act_of_mapped (fun _ _ => Option.some.inj) compiles
  unfold runMapper
  rw [same]
  rcases world.compile target mapper with ⟨_ | _ | _, next⟩ <;> rfl

theorem runErased_replaced (resembles : mapper.Resembles mapper') {input : Erased}
    (compiles : input.type = .record mapper.source →
      world.Matches id other target mapper mapper' .compile) :
    (world.replaced id other).runErased target mapper' input =
      replacing id other (world.runErased target mapper input) := by
  unfold runErased Erased.valueAs
  rw [resembles.source, resembles.dest]
  by_cases fits : input.type = .record mapper.source
  · simp only [if_pos fits, runMapper_replaced (compiles fits)]
    rfl
  · simp only [if_neg fits]
    rfl

/-- A call comes to the same if the action that it causes does, and if it does not look past the
lock otherwise. -/
theorem callMapper_replaced (resembles : mapper.Resembles mapper') {call : MapperCall κ}
    (matching : ∀ action, mapper.action? world.handles call = some action →
      world.Matches id other target mapper mapper' action)
    (peeks : call = .isCompiled → mapper.Shut mapper' ∨ mapper' = mapper) :
    (world.replaced id other).callMapper target mapper' call =
      replacing id other (world.callMapper target mapper call) := by
  -- An action of which the caller learns no more than how it ended.
  have told {act : Dialogue (Surroundings κ) κ → Mapper κ → Surroundings κ →
        Outcome Unit × Mapper κ × Surroundings κ}
      (same : (world.replaced id other).act target mapper' (fun dialogue mapper state =>
          Mapper.Action.perform.plain (act dialogue mapper state)) =
        replacing id other (world.act target mapper fun dialogue mapper state =>
          Mapper.Action.perform.plain (act dialogue mapper state))) :
      callMapper.done ((world.replaced id other).act target mapper' act) =
        replacing id other (callMapper.done (world.act target mapper act)) := by
    rw [act_of_mapped (fun _ _ _ => rfl) same]
    rfl
  cases call with
  | ignore dest => exact told (matching _ rfl)
  | assignMember dest source => exact told (matching _ rfl)
  | assignComputed dest type compute => exact told (matching _ rfl)
  | runBefore hook => exact told (matching _ rfl)
  | runAfter hook => exact told (matching _ rfl)
  | construct made => exact told (matching _ rfl)
  | assignSource dest expression =>
    simp only [Mapper.action?] at matching
    simp only [callMapper, handles_replaced]
    split
    next source named =>
      simp only [named] at matching
      exact told (matching _ rfl)
    next => rfl
  | compile keep =>
    have same : (world.replaced id other).compile target mapper' =
        replacing id other (world.compile target mapper) :=
      act_of_mapped (fun _ _ => Option.some.inj) (matching .compile rfl)
    simp only [callMapper, same, present_replaced]
    rfl
  | recompile keep =>
    have same : (world.replaced id other).recompile target mapper' =
        replacing id other (world.recompile target mapper) :=
      act_of_mapped (fun _ _ => Option.some.inj) (matching .recompile rfl)
    simp only [callMapper, same, present_replaced]
    rfl
  | bindings =>
    have same : (world.replaced id other).compile target mapper' =
        replacing id other (world.compile target mapper) :=
      act_of_mapped (fun _ _ => Option.some.inj) (matching .compile rfl)
    simp only [callMapper, same]
    rfl
  | isCompiled =>
    rcases peeks rfl with shut | rfl
    · simp only [callMapper, shut.1, shut.2]
      rfl
    · rfl
  | compileCount =>
    simp only [callMapper, resembles.builds]
    rfl
  | map source dest =>
    simp only [callMapper, resembles.source, resembles.dest]
    have same := fun source dest => runMapper_replaced (matching .compile rfl) source dest
    simp only [same]
    rfl
  -- The clients come later, each with requests of its own.
  | mapConcurrently clients source => rfl
  | mapErased type source =>
    have same :
        (world.replaced id other).runErased target mapper' (world.schema.erase type source) =
        replacing id other (world.runErased target mapper (world.schema.erase type source)) :=
      runErased_replaced resembles fun fits => matching .compile (if_pos fits)
    exact congrArg (fun run : Launch κ Erased × World κ => (run.1.map Answer.erased, run.2)) same
  | keepErased keep => rfl
  | keepService keep =>
    simp only [callMapper, resembles.service]
    rfl
  | types =>
    simp only [callMapper, resembles.source, resembles.dest]
    rfl

end Serve

/-- The mappers at one place before and after a replacement. -/
inductive Counterpart (id : MapperId) (mapper other : Mapper κ) :
    MapperId → Mapper κ → Mapper κ → Prop where
  | here : Counterpart id mapper other id mapper other
  | elsewhere {target : MapperId} (apart : target ≠ id) (same : Mapper κ) :
    Counterpart id mapper other target same same

/-- The mapper, and the other in its place, turn the action away. -/
def Turns (world : World κ) (mapper other : Mapper κ) (action : Mapper.Action κ) : Prop :=
  mapper.Shut other ∨ ∃ failure, action.objection? world.schema
    (Surroundings.dialogue world.schema mapper.service) mapper world.surroundings = some failure

theorem erasedAction?_of_found {input : Erased} {action : Mapper.Action κ}
    (there : world.mappers[target]? = some mapper)
    (acts : mapper.erasedAction? input = some action) :
    world.erasedAction? target input = some (target, action) := by
  simp [erasedAction?, there, acts]

theorem mapperAction?_of_found {call : MapperCall κ} {action : Mapper.Action κ}
    (there : world.mappers[target]? = some mapper)
    (acts : mapper.action? world.handles call = some action) :
    world.mapperAction? target call = some (target, action) := by
  simp [mapperAction?, there, acts]

section Counterpart

variable {first first' : Mapper κ}

theorem replaced_of_absent (absent : world.mappers[target]? = none) :
    (world.replaced id other).mappers[target]? = none := by
  simpa [replaced] using absent

theorem exists_counterpart (found : world.mappers[id]? = some mapper) (other : Mapper κ)
    (there : world.mappers[target]? = some first) :
    ∃ first', (world.replaced id other).mappers[target]? = some first' ∧
      Counterpart id mapper other target first first' := by
  by_cases here : target = id
  · subst here
    obtain rfl : first = mapper := Option.some.inj (there.symm.trans found)
    obtain ⟨bound, -⟩ := List.getElem?_eq_some_iff.mp there
    exact ⟨other, List.getElem?_set_self bound, .here⟩
  · exact ⟨first, (List.getElem?_set_ne (Ne.symm here)).trans there, .elsewhere here first⟩

theorem Counterpart.resembles (counterpart : Counterpart id mapper other target first first')
    (resembles : mapper.Resembles other) : first.Resembles first' := by
  cases counterpart with
  | here => exact resembles
  | elsewhere => exact .refl first

theorem Counterpart.matches (counterpart : Counterpart id mapper other target first first')
    (resembles : mapper.Resembles other)
    {action : Mapper.Action κ} (turned : target = id → world.Turns mapper other action) :
    world.Matches id other target first first' action := by
  unfold Matches
  cases counterpart with
  | here =>
    -- Both are turned away unchanged, so what stood in the place still does.
    have rejected : Mapper.Rejected (action.perform world.schema
        (Surroundings.dialogue world.schema mapper.service) id) mapper other world.surroundings :=
      Mapper.perform_rejected resembles (turned rfl)
    obtain ⟨outcome, next, before, after⟩ := rejected
    simp only [carryOut_eq, performed, replaced, resembles.service, before, after, replacing,
      List.set_set]
  | elsewhere apart =>
    simp only [carryOut_eq, replacing, replaced, performed, List.set_comm _ _ apart]

theorem inspect_replaced (found : world.mappers[id]? = some mapper)
    (resembles : mapper.Resembles other) (name : String) :
    (world.replaced id other).inspect name = replacing id other (world.inspect name) := by
  simp only [inspect, handles_replaced]
  cases world.handles.get? name with
  | none => rfl
  | some handle =>
    cases handle with
    | mapper target =>
      cases there : world.mappers[target]? with
      | none =>
        simp only [replaced_of_absent there, there]
        rfl
      | some first =>
        obtain ⟨first', there', counterpart⟩ := exists_counterpart found other there
        have same := counterpart.resembles resembles
        simp only [there', there, Mapper.shown, same.source, same.dest, same.builds]
        rfl
    | table | service | erasedMapper | plan | source | registry | erased => rfl

theorem callTable_replaced (found : world.mappers[id]? = some mapper)
    (resembles : mapper.Resembles other) (table : Nat) (call : TableCall κ) :
    (world.replaced id other).callTable table call =
      replacing id other (world.callTable table call) := by
  cases call with
  | registerMapper name =>
    simp only [callTable, mapper?, handles_replaced]
    cases world.handles.get? name with
    | none => rfl
    | some handle =>
      cases handle with
      | mapper target =>
        cases there : world.mappers[target]? with
        | none =>
          simp only [replaced_of_absent there, there]
          rfl
        | some first =>
          obtain ⟨first', there', counterpart⟩ := exists_counterpart found other there
          have same := counterpart.resembles resembles
          simp only [there', there, Option.map_some, same.source, same.dest]
          rfl
      | table | service | erasedMapper | plan | source | registry | erased => rfl
  | register | contains => rfl

variable [Closures κ]

theorem callMapper_replaced_at (counterpart : Counterpart id mapper other target first first')
    (resembles : mapper.Resembles other)
    {call : MapperCall κ}
    (turned : target = id → ∀ action, first.action? world.handles call = some action →
      world.Turns mapper other action)
    (peeks : target = id → call = .isCompiled → mapper.Shut other) :
    (world.replaced id other).callMapper target first' call =
      replacing id other (world.callMapper target first call) := by
  refine callMapper_replaced (counterpart.resembles resembles)
    (fun action acts => counterpart.matches resembles fun here => turned here action acts)
    fun call => ?_
  cases counterpart with
  | here => exact .inl (peeks rfl call)
  | elsewhere => exact .inr rfl

theorem runErased_replaced_at (counterpart : Counterpart id mapper other target first first')
    (resembles : mapper.Resembles other)
    {input : Erased}
    (turned : target = id → ∀ action, first.erasedAction? input = some action →
      world.Turns mapper other action) :
    (world.replaced id other).runErased target first' input =
      replacing id other (world.runErased target first input) :=
  runErased_replaced (counterpart.resembles resembles) fun fits =>
    counterpart.matches resembles fun here => turned here .compile (if_pos fits)

theorem dispatch_replaced (found : world.mappers[id]? = some mapper)
    (resembles : mapper.Resembles other) {registry : Nat} {dest : ValueType} {input : Erased}
    (turned : ∀ action, world.dispatchAction? registry dest input = some (id, action) →
      world.Turns mapper other action) :
    (world.replaced id other).dispatch registry dest input =
      replacing id other (world.dispatch registry dest input) := by
  simp only [dispatch, registry_replaced]
  unfold dispatchAction? at turned
  generalize (world.registry registry).lookup (input.type, dest) = entry at turned ⊢
  obtain ⟨(⟨target, source, dest'⟩ | double | custom) | cause | text, rest⟩ := entry
  · cases there : world.mappers[target]? with
    | none =>
      simp only [replaced_of_absent there, there]
      rfl
    | some first =>
      obtain ⟨first', there', counterpart⟩ := exists_counterpart found other there
      have same : (world.replaced id other).runErased target first' input =
          replacing id other (world.runErased target first input) :=
        runErased_replaced_at counterpart resembles fun here action acts =>
          turned action (here ▸ erasedAction?_of_found there acts)
      simp only [there', there, same]
      rfl
  · rfl
  · rfl
  · rfl
  · rfl

theorem callRegistry_replaced (found : world.mappers[id]? = some mapper)
    (resembles : mapper.Resembles other) {registry : Nat} {call : Registry.Call κ}
    (turned : ∀ action, world.registryAction? registry call = some (id, action) →
      world.Turns mapper other action) :
    (world.replaced id other).callRegistry registry call =
      replacing id other (world.callRegistry registry call) := by
  cases call with
  | register name =>
    simp only [callRegistry, handles_replaced]
    split
    next target named =>
      cases there : world.mappers[target]? with
      | none =>
        simp only [replaced_of_absent there]
        rfl
      | some first =>
        obtain ⟨first', there', counterpart⟩ := exists_counterpart found other there
        have same := counterpart.resembles resembles
        simp only [there', same.source, same.dest]
        exact enroll_replaced registry _
    next => rfl
  | registerStandIn | registerCustom => exact enroll_replaced registry _
  | map source dest value =>
    have same := dispatch_replaced found resembles turned
    exact congrArg (fun run : Launch κ Erased × World κ =>
      (run.1.check fun erased => (erased.valueAs dest).map Answer.value, run.2)) same
  | mapErased source dest value =>
    have same := dispatch_replaced found resembles turned
    exact congrArg (fun run : Launch κ Erased × World κ => (run.1.map Answer.erased, run.2)) same
  | contains | remove | size | isEmpty | pairs => rfl

theorem call_replaced (found : world.mappers[id]? = some mapper)
    (resembles : mapper.Resembles other) {call : MapperCall κ} (name : String)
    (turned : ∀ action, world.mapperAction? target call = some (id, action) →
      world.Turns mapper other action)
    (peeks : target = id → call = .isCompiled → mapper.Shut other) :
    (match (world.replaced id other).mappers[target]? with
      | some first => (world.replaced id other).callMapper target first call
      | none => (.missing name, world.replaced id other)) =
      replacing id other (match world.mappers[target]? with
        | some first => world.callMapper target first call
        | none => (.missing name, world)) := by
  cases there : world.mappers[target]? with
  | none =>
    rw [replaced_of_absent there]
    rfl
  | some first =>
    obtain ⟨first', there', counterpart⟩ := exists_counterpart found other there
    rw [there']
    exact callMapper_replaced_at counterpart resembles
      (fun here action acts => turned action (here ▸ mapperAction?_of_found there acts)) peeks

/-- The mapper that an operation asks whether it has a plan, which is seen behind the lock. -/
def operationPeeks? (world : World κ) : Operation κ → Option MapperId
  | .mapper name .isCompiled =>
    match world.handles.get? name with
    | some (.mapper id) => some id
    | _ => none
  | _ => none

def peeks? (world : World κ) : Request κ → Option MapperId
  | .operation operation => world.operationPeeks? operation
  | .mapper id .isCompiled => some id
  | _ => none

theorem perform_replaced (found : world.mappers[id]? = some mapper)
    (resembles : mapper.Resembles other) {operation : Operation κ}
    (turned : ∀ action, world.operationAction? operation = some (id, action) →
      world.Turns mapper other action)
    (peeks : world.operationPeeks? operation = some id → mapper.Shut other) :
    (world.replaced id other).perform operation =
      replacing id other (world.perform operation) := by
  cases operation with
  | mapper name call =>
    simp only [operationAction?] at turned
    simp only [perform, mapper?, handles_replaced]
    cases named : world.handles.get? name with
    | none => rfl
    | some handle =>
      cases handle with
      | mapper target =>
        simp only [named] at turned
        have same := call_replaced found resembles name turned fun here call =>
          peeks (by simp only [call, operationPeeks?, named, here])
        cases there : world.mappers[target]? with
        | none =>
          simp only [replaced_of_absent there, there]
          rfl
        | some first =>
          obtain ⟨first', there', -⟩ := exists_counterpart found other there
          simpa only [there, there', Option.map_some] using same
      | table | service | erasedMapper | plan | source | registry | erased => rfl
  | callErased name type value =>
    simp only [operationAction?] at turned
    simp only [perform, handles_replaced]
    cases named : world.handles.get? name with
    | none => rfl
    | some handle =>
      cases handle with
      | erasedMapper target =>
        simp only [named] at turned
        exact call_replaced found resembles name turned fun _ same => by simp at same
      | table | service | mapper | plan | source | registry | erased => rfl
  | registry name call =>
    simp only [operationAction?] at turned
    simp only [perform, handles_replaced]
    cases named : world.handles.get? name with
    | none => rfl
    | some handle =>
      cases handle with
      | registry registry =>
        simp only [named] at turned
        exact callRegistry_replaced found resembles turned
      | table | service | mapper | erasedMapper | plan | source | erased => rfl
  | newMapper keep source dest service =>
    cases service with
    | none => exact keepMapper_replaced found keep _ _
    | some service =>
      simp only [perform, service?, handles_replaced]
      cases world.handles.get? service with
      | none => rfl
      | some handle =>
        cases handle with
        | table | service => exact keepMapper_replaced found keep _ _
        | mapper | erasedMapper | plan | source | registry | erased => rfl
  | table name call =>
    simp only [perform, table?, handles_replaced]
    cases world.handles.get? name with
    | none => rfl
    | some handle =>
      cases handle with
      | table table => exact callTable_replaced found resembles table call
      | service | mapper | erasedMapper | plan | source | registry | erased => rfl
  | newService keep table rules =>
    simp only [perform, table?, handles_replaced]
    cases world.handles.get? table with
    | none => rfl
    | some handle => cases handle <;> rfl
  | resolve service question type value =>
    simp only [perform, service?, handles_replaced]
    cases world.handles.get? service with
    | none => rfl
    | some handle =>
      cases handle with
      | table table => exact resolve_replaced (.table table) question _
      | service service => exact resolve_replaced service question _
      | mapper | erasedMapper | plan | source | registry | erased => rfl
  | memberSource keep slot name =>
    simp only [perform, schema_replaced]
    rcases Property.readableMember (Slot.typeName slot) (world.schema.properties slot) name with
      _ | _ <;> rfl
  | copy keep name =>
    simp only [perform, handles_replaced]
    cases world.handles.get? name <;> rfl
  | erased name call =>
    simp only [perform, handles_replaced]
    cases world.handles.get? name with
    | none => rfl
    | some handle =>
      cases handle with
      | erased erased => exact callErased_replaced name erased call
      | table | service | mapper | erasedMapper | plan | source | registry => rfl
  | planInfo name | planRun name =>
    simp only [perform, handles_replaced]
    cases world.handles.get? name with
    | none => rfl
    | some handle => cases handle <;> rfl
  | inspect name => exact inspect_replaced found resembles name
  | newTable | computedSource | members | newRegistry | newErased | compareTypes | examine | drop
  | same => rfl

end Counterpart

end World

/-- Nobody gets past the lock of the mapper, or of the other in its place, at the moment. -/
structure Moment.Unreached (id : MapperId) (mapper other : Mapper κ) (moment : Moment κ) :
    Prop where
  turned : ∀ action, moment.action? id = some action → moment.world.Turns mapper other action
  peeks : moment.world.peeks? moment.request = some id → mapper.Shut other

theorem Moment.Unreached.of_shut {id : MapperId} {mapper other : Mapper κ}
    (shut : mapper.Shut other) (moment : Moment κ) : moment.Unreached id mapper other :=
  ⟨fun _ _ => .inl shut, fun _ => shut⟩

namespace World

section Runs

variable {id : MapperId} {mapper other : Mapper κ}

def Spares (id : MapperId) (mapper other : Mapper κ) (run run' : Option (α × World κ)) : Prop :=
  run' = run.map (replacing id other) ∧
    ∀ ended later, run = some (ended, later) → later.mappers[id]? = some mapper

/-- A script that does not reach the mapper runs to the same end with another in its place. -/
theorem exec_replaced {server : Server κ}
    {inner : World κ → List Hold → Request κ → List (Moment κ)}
    (answered : ∀ world held request, world.mappers[id]? = some mapper →
      (∀ moment ∈ inner world held request, moment.Unreached id mapper other) →
      Spares id mapper other (server world held request)
        (server (world.replaced id other) held request))
    {script : Script κ α} {held : List Hold} {world : World κ}
    (found : world.mappers[id]? = some mapper)
    (unreached : ∀ moment ∈ script.trace server inner held world,
      moment.Unreached id mapper other) :
    Spares id mapper other (script.exec server held world)
      (script.exec server held (world.replaced id other)) := by
  induction script generalizing world with
  | done result =>
    refine ⟨rfl, fun ended later ends => ?_⟩
    obtain ⟨-, rfl⟩ := Prod.mk.inj (Option.some.inj ends)
    exact found
  | panic text =>
    refine ⟨rfl, fun ended later ends => ?_⟩
    obtain ⟨-, rfl⟩ := Prod.mk.inj (Option.some.inj ends)
    exact found
  | log entry next ih =>
    have found' : (world.write entry).mappers[id]? = some mapper := found
    exact ih found' unreached
  | call request next ih =>
    simp only [Script.trace, List.forall_mem_append] at unreached
    obtain ⟨same, kept⟩ := answered world held request found unreached.1
    simp only [Spares, Script.exec, same]
    cases served : server world held request with
    | none => exact ⟨rfl, by simp⟩
    | some replied =>
      obtain ⟨reply, later⟩ := replied
      have rest := unreached.2
      rw [served] at rest
      exact ih reply (kept reply later served) rest

variable [Closures κ] {world : World κ} {held : List Hold} {request : Request κ}

theorem serve_replaced (found : world.mappers[id]? = some mapper)
    (resembles : mapper.Resembles other)
    (unreached : Moment.Unreached id mapper other ⟨world, held, request⟩) :
    (world.replaced id other).serve held request =
      replacing id other (world.serve held request) := by
  have turned : ∀ action, world.action? held request = some (id, action) →
      world.Turns mapper other action := fun action aimed =>
    unreached.turned action (by simp [Moment.action?, aimed])
  have peeks : world.peeks? request = some id → mapper.Shut other := unreached.peeks
  cases request with
  | operation operation => exact perform_replaced found resembles turned peeks
  | mapper target call =>
    exact call_replaced found resembles "" turned fun here call =>
      peeks (by simp only [call, peeks?, here])
  | convert target input =>
    simp only [action?] at turned
    simp only [serve, show (world.replaced id other).alive held target = world.alive held target
      from rfl]
    cases there : world.mappers[target]? with
    | none =>
      simp only [replaced_of_absent there]
      rfl
    | some first =>
      obtain ⟨first', there', counterpart⟩ := exists_counterpart found other there
      have same := counterpart.resembles resembles
      simp only [there']
      split
      next lives =>
        rw [if_pos lives] at turned
        have same : (world.replaced id other).runErased target first' input =
            replacing id other (world.runErased target first input) :=
          runErased_replaced_at counterpart resembles fun here action acts =>
            turned action (here ▸ erasedAction?_of_found there acts)
        exact congrArg
          (fun run : Launch κ Erased × World κ => (run.1.map Answer.erased, run.2)) same
      next =>
        rw [same.source, same.dest]
        rfl
  | registry registry call => exact callRegistry_replaced found resembles turned
  | keep name erased => rfl
  | mapComputed name input scope | dispatchComputed name source dest input scope =>
    simp only [serve, handles_replaced]
    cases world.handles.get? name with
    | none => rfl
    | some handle => cases handle <;> rfl

/-- A mapper that is not reached stays as it is. -/
theorem serve_keeps (found : world.mappers[id]? = some mapper)
    (resembles : mapper.Resembles other)
    (unreached : Moment.Unreached id mapper other ⟨world, held, request⟩) :
    (world.serve held request).2.mappers[id]? = some mapper := by
  rw [serve_mapper found]
  cases acts : Moment.action? id ⟨world, held, request⟩ with
  | none => rfl
  | some action =>
    have rejected : Mapper.Rejected (action.perform world.schema
        (Surroundings.dialogue world.schema mapper.service) id) mapper other world.surroundings :=
      Mapper.perform_rejected resembles (unreached.turned action acts)
    obtain ⟨outcome, next, before, -⟩ := rejected
    simp only [afterwards, performed, before]

/-- A request whose run does not reach the mapper is answered the same with another in its place. -/
theorem answer_replaced (resembles : mapper.Resembles other) {depth : Nat}
    (found : world.mappers[id]? = some mapper)
    (unreached : ∀ moment ∈ world.trace depth held request, moment.Unreached id mapper other) :
    Spares id mapper other (world.answer depth held request)
      ((world.replaced id other).answer depth held request) := by
  induction depth generalizing world held request with
  | zero => exact ⟨rfl, by simp [answer]⟩
  | succ depth ih =>
    -- The first moment is the request itself, and the rest is the run of what it sets going.
    obtain ⟨now, later⟩ := List.forall_mem_cons.mp unreached
    have kept := serve_keeps found resembles now
    obtain ⟨same, keeps⟩ := exec_replaced (fun _ _ _ found => ih found) kept later
    simp only [Spares, answer_succ_eq, Launch.outcome, serve_replaced found resembles now,
      replacing, same, Option.map_map]
    refine ⟨rfl, fun ended last ends => ?_⟩
    obtain ⟨⟨ended', last'⟩, ends', same'⟩ := Option.map_eq_some_iff.mp ends
    obtain ⟨-, rfl⟩ := Prod.mk.inj same'
    exact keeps ended' last' ends'

end Runs

end World

end RecordMapping
