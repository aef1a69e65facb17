import RecordMapping.Expression
import RecordMapping.Proofs.Safety

namespace RecordMapping

variable {κ α : Type}

namespace World

variable [Closures κ] {depth : Nat} {world last : World κ} {held : List Hold} {reply : Reply}

/-- A request whose script ends soundly is answered soundly; a panic of its own closures is one of
the moment at which it is served. -/
theorem answer_sound {request : Request κ} {own : List κ} {good : Answer → Prop}
    (reachable : world.Reachable)
    (answered : world.answer (depth + 1) held request = some (reply, last)) (tabular : last.Tabular)
    (safe : Safe depth world.slots? own (world.serve held request).1.script good)
    (raises : ∀ text, Closures.Raise own text → Moment.Raises ⟨world, held, request⟩ text) :
    reply.Sound ([] : List κ) good (world.trace (depth + 1) held request) := by
  obtain ⟨ended, ran, rfl⟩ := answer_eq_some.mp answered
  have knows : (world.serve held request).2.Knows world.slots? :=
    ⟨reachable.trans (.serve held request .start), fun _ _ => slots?_serve⟩
  have sound := safe _ _ _ _ knows ran tabular
  cases result : Outcome.ofRun ended with
  | ok answer =>
    rw [result] at sound
    exact sound
  | error cause =>
    rw [result] at sound
    obtain ⟨moment, mem, drops⟩ := sound
    exact ⟨moment, List.mem_cons_of_mem _ mem, drops⟩
  | panic text =>
    rw [result] at sound
    refine .inr ?_
    rcases sound with closure | ⟨moment, mem, deeper⟩
    · exact ⟨_, List.mem_cons_self, raises text closure⟩
    · exact ⟨moment, List.mem_cons_of_mem _ mem, deeper⟩

theorem runMapper_safe (nests : NestedSound κ depth) (reachable : world.Reachable)
    (tabular : world.Tabular) {id : MapperId} {mapper : Mapper κ}
    (found : world.mappers[id]? = some mapper) (source : Record) (dest : Option Record) :
    ∃ plan, (world.compile id mapper).1 = .ok plan ∧
      Safe depth world.slots? plan.closures (world.runMapper id mapper source dest).1.script
        fun _ => True := by
  obtain ⟨plan, built, compiled, suits⟩ := (reachable.typed tabular).compiles tabular found
  refine ⟨plan, congrArg Prod.fst compiled, ?_⟩
  simp only [runMapper, compiled]
  exact .run nests suits.fits dest

theorem runErased_safe (nests : NestedSound κ depth) (reachable : world.Reachable)
    (tabular : world.Tabular) {id : MapperId} {mapper : Mapper κ}
    (found : world.mappers[id]? = some mapper) {input : Erased}
    (fits : input.type = .record mapper.source) :
    ∃ plan, (world.compile id mapper).1 = .ok plan ∧
      Safe depth world.slots? plan.closures (world.runErased id mapper input).1.script
        fun output => output.type = .record mapper.dest := by
  obtain ⟨plan, compiled, safe⟩ :=
    runMapper_safe nests reachable tabular found input.value.fields none
  refine ⟨plan, compiled, ?_⟩
  rw [world.runErased_of_match id fits]
  exact safe.map fun _ _ => rfl

/-- A nested mapping whose mapper is gone says so. -/
theorem dropped_sound {id : MapperId} {mapper : Mapper κ} {input : Erased} {good : Answer → Prop}
    (found : world.mappers[id]? = some mapper) (dead : world.alive held id = false)
    (answered : world.answer (depth + 1) held (.convert id input) = some (reply, last)) :
    reply.Sound ([] : List κ) good (world.trace (depth + 1) held (.convert id input)) := by
  have dropped : Moment.Drops ⟨world, held, .convert id input⟩
      (.mapperDropped (Slot.typeName mapper.source) (Slot.typeName mapper.dest)) :=
    ⟨id, input, mapper, rfl, found, dead, rfl⟩
  rw [answer_succ_eq, serve_convert_of_dead found dead, Launch.outcome_now] at answered
  obtain ⟨rfl, -⟩ := Prod.mk.inj (Option.some.inj answered)
  exact ⟨_, List.mem_cons_self, dropped⟩

theorem nestedSound (depth : Nat) : NestedSound κ depth := by
  induction depth with
  | zero =>
    intro world held id input slot dest reply later _ _ _ answered _
    simp [answer] at answered
  | succ depth ih =>
    intro world held id input slot dest reply later reachable known fits answered tabular
    obtain ⟨mapper, found, same⟩ := Option.map_eq_some_iff.mp known
    obtain ⟨rfl, rfl⟩ := Prod.mk.inj same
    cases lives : world.alive held id with
    | false => exact dropped_sound found lives answered
    -- What the run itself nests does so at most `depth` deep.
    | true =>
      have before := tabular.of_history (history_trace answered)
      obtain ⟨plan, compiled, safe⟩ := runErased_safe ih reachable before found fits
      have yields : Safe depth world.slots? plan.closures
          (world.serve held (.convert id input)).1.script
          fun answer => ∃ value, answer = .erased ⟨.record mapper.dest, value⟩ := by
        rw [serve_convert_of_alive found lives]
        exact safe.map fun output typed => ⟨output.value, by rw [← typed]⟩
      refine answer_sound reachable answered tabular yields fun text raise => ?_
      have acts : world.action? held (.convert id input) = some (id, .compile) := by
        simp [action?, erasedAction?, Mapper.erasedAction?, lives, found, fits]
      have runs : world.Runs held (.convert id input) plan :=
        ⟨.nested found fits, .inl ⟨id, mapper, acts, found, compiled⟩⟩
      exact ⟨_, plan, .itself _, runs, raise⟩

/-- A dispatch to a mapper of the registry is a run of that mapper. -/
theorem dispatch_safe (nests : NestedSound κ depth) (reachable : world.Reachable)
    (tabular : world.Tabular) {registry : Nat} {id : MapperId} {dest : ValueType} {input : Erased}
    (enrolled : world.Enrolled registry (input.type, dest) id) :
    ∃ mapper plan, world.mappers[id]? = some mapper ∧ (world.compile id mapper).1 = .ok plan ∧
      world.dispatchAction? registry dest input = some (id, .compile) ∧
      Safe depth world.slots? plan.closures (world.dispatch registry dest input).1.script
        fun output => output.type = dest := by
  have typed := (reachable.typed tabular).registry registry
  obtain ⟨⟨source, target, listed⟩, quiet⟩ := enrolled
  obtain ⟨known, pair⟩ := typed.mappers _ _ _ _ listed
  obtain ⟨mapper, found, same⟩ := Option.map_eq_some_iff.mp known
  obtain ⟨rfl, rfl⟩ := Prod.mk.inj same
  obtain ⟨fits, rfl⟩ := Prod.mk.inj pair
  obtain ⟨plan, compiled, safe⟩ := runErased_safe nests reachable tabular found fits
  have looked := typed.lookup quiet listed
  refine ⟨mapper, plan, found, compiled, ?_, ?_⟩
  · simp only [dispatchAction?, looked, erasedAction?, found, Mapper.erasedAction?, if_pos fits,
      Option.map_some]
  · simp only [dispatch, looked, found]
    exact safe

theorem Mapping.safe {request : Request κ} (mapping : world.Mapping request)
    (reachable : world.Reachable) (tabular : world.Tabular) (depth : Nat)
    (lives : ∀ id input, request = .convert id input → world.alive held id = true) :
    ∃ plan, world.Runs held request plan ∧
      Safe depth world.slots? plan.closures (world.serve held request).1.script
        fun _ => True := by
  have nests : NestedSound κ depth := nestedSound depth
  cases mapping with
  | @map id mapper found source dest =>
    obtain ⟨plan, compiled, safe⟩ := runMapper_safe nests reachable tabular found
      (world.schema.record mapper.source source) (dest.map (world.schema.record mapper.dest))
    refine ⟨plan, ⟨.map found source dest, .inl ⟨id, mapper, ?_, found, compiled⟩⟩, ?_⟩
    · simp [action?, mapperAction?, found, Mapper.action?]
    · simp only [serve, found]
      exact safe.map fun _ _ => trivial
  | @erased id mapper found source =>
    have fits : (world.schema.erase (.record mapper.source) source).type =
        .record mapper.source := rfl
    obtain ⟨plan, compiled, safe⟩ := runErased_safe nests reachable tabular found fits
    refine ⟨plan, ⟨.erased found source, .inl ⟨id, mapper, ?_, found, compiled⟩⟩, ?_⟩
    · simp [action?, mapperAction?, found, Mapper.action?]
    · simp only [serve, found]
      exact safe.map fun _ _ => trivial
  | @nested id mapper input found fits =>
    -- A nested mapper that nobody owns is dealt with apart.
    have alive := lives id input rfl
    obtain ⟨plan, compiled, safe⟩ := runErased_safe nests reachable tabular found fits
    refine ⟨plan, ⟨.nested found fits, .inl ⟨id, mapper, ?_, found, compiled⟩⟩, ?_⟩
    · simp [action?, erasedAction?, Mapper.erasedAction?, alive, found, fits]
    · rw [serve_convert_of_alive found alive]
      exact safe.map fun _ _ => trivial
  | @dispatched registry id source dest enrolled value =>
    have listed : world.Enrolled registry ((world.schema.erase source value).type, dest) id :=
      enrolled
    obtain ⟨mapper, plan, found, compiled, acts, safe⟩ :=
      dispatch_safe nests reachable tabular listed
    refine ⟨plan, ⟨.dispatched enrolled value, .inl ⟨id, mapper, acts, found, compiled⟩⟩, ?_⟩
    have checked (output : Erased) (typed : output.type = dest) :
        Safe depth world.slots? plan.closures
          (liftM ((output.valueAs dest).map Answer.value)) fun _ => True :=
      .checked (congrArg (Except.map Answer.value) (if_pos typed)) trivial
    exact safe.bind checked
  | @dispatchedErased registry id source dest enrolled value =>
    have listed : world.Enrolled registry ((world.schema.erase source value).type, dest) id :=
      enrolled
    obtain ⟨mapper, plan, found, compiled, acts, safe⟩ :=
      dispatch_safe nests reachable tabular listed
    refine ⟨plan, ⟨.dispatchedErased enrolled value, .inl ⟨id, mapper, acts, found, compiled⟩⟩, ?_⟩
    exact safe.map fun _ _ => trivial
  | @plan name plan named source dest =>
    -- A plan at hand runs without its mapper, and fits by the invariant alone.
    have fits := (reachable.typed tabular).handles name _ named plan rfl
    refine ⟨plan, ⟨.plan named source dest, .inr ⟨name, source, dest, rfl, named⟩⟩, ?_⟩
    simp only [serve, perform, named]
    exact (Safe.run nests fits _).map fun _ _ => trivial

theorem Mapping.answer_sound {request core : Request κ} (mapping : world.Mapping core)
    (reachable : world.Reachable) (addresses : world.Addresses request core)
    (answered : world.answer (depth + 1) held request = some (reply, last))
    (tabular : last.Tabular) :
    reply.Sound ([] : List κ) (fun _ => True) (world.trace (depth + 1) held request) := by
  by_cases dead : ∃ id input, core = .convert id input ∧ world.alive held id = false
  · obtain ⟨id, input, rfl, dead⟩ := dead
    obtain ⟨⟩ := mapping
    rename_i mapper found fits
    obtain ⟨⟩ := addresses
    exact dropped_sound found dead answered
  · have lives : ∀ id input, core = .convert id input → world.alive held id = true := by
      intro id input same
      cases alive : world.alive held id with
      | true => rfl
      | false => exact absurd ⟨id, input, same, alive⟩ dead
    have before : world.Tabular := tabular.of_history (history_trace answered)
    obtain ⟨plan, runs, safe⟩ := mapping.safe reachable before depth lives
    rw [← addresses.serve] at safe
    exact World.answer_sound reachable answered tabular safe fun text raise =>
      ⟨core, plan, addresses, runs, raise⟩

end World

section Configuration

variable {σ : Type} {schema : Schema} {type name : String} {properties : List (Property α)}
  {cause : MappingError}

theorem Property.isConfiguration_of_member
    (fails : Property.member type properties name = .error cause) :
    cause.isConfiguration = true := by
  unfold Property.member at fails
  split at fails
  next => simp at fails
  next =>
    obtain rfl := Except.error.inj fails
    rfl

theorem Property.isConfiguration_of_usableMember {usable : Property α → Bool}
    {refusal : String → String → MappingError}
    (refusals : ∀ type member, (refusal type member).isConfiguration = true)
    (fails : Property.usableMember usable refusal type properties name = .error cause) :
    cause.isConfiguration = true := by
  unfold Property.usableMember at fails
  split at fails
  next absent =>
    obtain rfl := Except.error.inj fails
    exact isConfiguration_of_member absent
  next =>
    split at fails
    next => simp at fails
    next =>
      obtain rfl := Except.error.inj fails
      exact refusals _ _

namespace Mapper

variable {dialogue : Dialogue σ κ} {mapper : Mapper κ} {state : σ}

theorem configure_ok (healthy : mapper.poisoned = false) (setting : Setting)
    (change : Config κ → Config κ) (state : σ) :
    (mapper.configure dialogue setting change state).1 = .ok () := by
  simp [configure, healthy]

theorem isConfiguration_of_negotiate (healthy : mapper.poisoned = false)
    (refusals : ∀ question state error,
      (dialogue.ask question state).1 = .refuse error → error.isConfiguration = true)
    {question : Question} {source : Source κ} {dest : Property Record}
    (fails : (mapper.negotiate dialogue question source dest state).1 = .error cause) :
    cause.isConfiguration = true := by
  have refused := refusals question state
  unfold negotiate at fails
  split at fails
  next => simp [registerCustom, configure_ok healthy] at fails
  next error later told =>
    obtain rfl := Outcome.error.inj fails
    exact refused error (congrArg Prod.fst told)
  next => simp at fails

theorem isConfiguration_of_assignSource (healthy : mapper.poisoned = false)
    (refusals : ∀ question state error,
      (dialogue.ask question state).1 = .refuse error → error.isConfiguration = true)
    {dest : String} {source : Source κ}
    (fails : (mapper.assignSource schema dialogue dest source state).1 = .error cause) :
    cause.isConfiguration = true := by
  unfold assignSource at fails
  split at fails
  next error named =>
    obtain rfl := Outcome.error.inj fails
    exact Property.isConfiguration_of_usableMember (fun _ _ => rfl) named
  next => exact isConfiguration_of_negotiate healthy refusals fails

/-- A healthy mapper only fails to be configured for reasons of the configuration, if its service
only has such reasons. -/
theorem Action.isConfiguration_of_perform (healthy : mapper.poisoned = false)
    (refusals : ∀ question state error,
      (dialogue.ask question state).1 = .refuse error → error.isConfiguration = true)
    {id : MapperId} {action : Action κ} (configures : action.configures = true)
    (fails : (action.perform schema dialogue id mapper state).1 = .error cause) :
    cause.isConfiguration = true := by
  have plain {done : Outcome Unit × Mapper κ × σ} (same : (perform.plain done).1 = .error cause) :
      done.1 = .error cause := Outcome.map_eq_error.mp same
  cases action with
  | ignore dest =>
    have fails := plain fails
    unfold Mapper.ignore at fails
    split at fails
    next error named =>
      obtain rfl := Outcome.error.inj fails
      exact Property.isConfiguration_of_member named
    next => simp [configure_ok healthy] at fails
  | assignMember dest source =>
    have fails := plain fails
    unfold Mapper.assignMember at fails
    split at fails
    next error named =>
      obtain rfl := Outcome.error.inj fails
      exact Property.isConfiguration_of_usableMember (fun _ _ => rfl) named
    next => exact isConfiguration_of_assignSource healthy refusals fails
  | assignSource dest source => exact isConfiguration_of_assignSource healthy refusals (plain fails)
  | assignComputed dest type compute =>
    have fails := plain fails
    unfold Mapper.assignComputed at fails
    split at fails
    next error named =>
      obtain rfl := Outcome.error.inj fails
      exact Property.isConfiguration_of_usableMember (fun _ _ => rfl) named
    next =>
      dsimp only at fails
      split at fails
      next => simp [registerCustom, configure_ok healthy] at fails
      next => exact isConfiguration_of_negotiate healthy refusals fails
  | runBefore | runAfter | construct =>
    have fails := plain fails
    simp [configure_ok healthy] at fails
  | compile | recompile => simp [Action.configures] at configures

end Mapper

end Configuration

def MapperCall.registers : MapperCall κ → Bool
  | .ignore _ | .assignMember _ _ | .assignSource _ _ | .assignComputed _ _ _ => true
  | _ => false

def MapperCall.builds : MapperCall κ → Bool
  | .compile _ | .recompile _ | .bindings => true
  | _ => false

namespace World

variable {world : World κ}

/-- In a typed session a mapper fails to be configured for reasons of the configuration only. -/
theorem Typed.configures (typed : world.Typed) (tabular : world.Tabular) {id : MapperId}
    {mapper : Mapper κ} (found : world.mappers[id]? = some mapper) {action : Mapper.Action κ}
    (configures : action.configures = true) {cause : MappingError}
    (fails : (world.carryOut id mapper action).1 = .error cause) :
    cause.isConfiguration = true := by
  have listed : mapper ∈ world.mappers := List.mem_of_getElem? found
  obtain ⟨table, service⟩ := tabular mapper listed
  rw [carryOut_eq, performed, service] at fails
  exact Mapper.Action.isConfiguration_of_perform (typed.mappers mapper listed).healthy
    (fun _ _ _ => Surroundings.isConfiguration_of_refused) configures fails

variable [Closures κ] {depth : Nat} {last : World κ} {held : List Hold} {reply : Reply}

theorem registers_sound (typed : world.Typed) (tabular : world.Tabular) {id : MapperId}
    {mapper : Mapper κ} (found : world.mappers[id]? = some mapper) {call : MapperCall κ}
    (registers : call.registers = true) {cause : MappingError}
    (answered : world.answer (depth + 1) held (.mapper id call) = some (.error cause, last)) :
    cause.isConfiguration = true := by
  have done {act : Dialogue (Surroundings κ) κ → Mapper κ → Surroundings κ →
      Outcome Unit × Mapper κ × Surroundings κ}
      (fails : Launch.outcome (answer depth) held (callMapper.done (world.act id mapper act)) =
        some (.error cause, last)) :
      (world.act id mapper fun dialogue mapper state =>
        Mapper.Action.perform.plain (act dialogue mapper state)).1 = .error cause := by
    rw [callMapper.done, Launch.outcome_now] at fails
    have same : (world.act id mapper act).1.map (fun _ => Answer.unit) = .error cause :=
      congrArg Prod.fst (Option.some.inj fails)
    exact Outcome.map_eq_error.mpr (Outcome.map_eq_error.mp same)
  rw [answer_succ_eq] at answered
  simp only [serve, found] at answered
  cases call with
  | ignore dest =>
    have fails : (world.carryOut id mapper (.ignore dest)).1 = .error cause := done answered
    exact typed.configures tabular found rfl fails
  | assignMember dest source =>
    have fails : (world.carryOut id mapper (.assignMember dest source)).1 = .error cause :=
      done answered
    exact typed.configures tabular found rfl fails
  | assignSource dest expression =>
    dsimp only [callMapper] at answered
    split at answered
    next source named =>
      have fails : (world.carryOut id mapper (.assignSource dest source)).1 = .error cause :=
        done answered
      exact typed.configures tabular found rfl fails
    next =>
      rw [Launch.missing, Launch.outcome_now] at answered
      simp at answered
  | assignComputed dest type compute =>
    have fails : (world.carryOut id mapper (.assignComputed dest type compute)).1 = .error cause :=
      done answered
    exact typed.configures tabular found rfl fails
  | _ => simp [MapperCall.registers] at registers

theorem builds_sound (typed : world.Typed) (tabular : world.Tabular) {id : MapperId}
    {mapper : Mapper κ} (found : world.mappers[id]? = some mapper) {call : MapperCall κ}
    (builds : call.builds = true)
    (answered : world.answer (depth + 1) held (.mapper id call) = some (reply, last)) :
    ∃ answer, reply = .ok answer := by
  rw [answer_succ_eq] at answered
  simp only [serve, found] at answered
  cases call with
  | compile keep =>
    obtain ⟨plan, built, compiled, -⟩ := typed.compiles tabular found
    simp only [callMapper, compiled, present, callMapper.reply, Launch.outcome_now] at answered
    exact ⟨_, (congrArg Prod.fst (Option.some.inj answered)).symm⟩
  | recompile keep =>
    obtain ⟨plan, built, compiled⟩ := typed.recompiles tabular found
    simp only [callMapper, compiled, present, callMapper.reply, Launch.outcome_now] at answered
    exact ⟨_, (congrArg Prod.fst (Option.some.inj answered)).symm⟩
  | bindings =>
    obtain ⟨plan, built, compiled, -⟩ := typed.compiles tabular found
    simp only [callMapper, compiled, Outcome.map, Launch.outcome_now] at answered
    exact ⟨_, (congrArg Prod.fst (Option.some.inj answered)).symm⟩
  | _ => simp [MapperCall.builds] at builds

/-- Mapping is type sound while all mappers consult tables. Mapping fails only where a nested mapper
is gone, and panics only in closures of the plans that it runs. Registering fails for reasons of the
configuration, and a plan can always be had. -/
theorem mapping_sound {request core : Request κ} (reachable : world.Reachable)
    (addresses : world.Addresses request core)
    (answered : world.answer depth held request = some (reply, last)) (tabular : last.Tabular) :
    (world.Mapping core →
      (∀ cause, reply = .error cause → ∃ moment ∈ world.trace depth held request,
        moment.Drops cause) ∧
      ∀ text, reply = .panic text → ∃ moment ∈ world.trace depth held request,
        moment.Raises text) ∧
    ∀ id mapper call, core = .mapper id call → world.mappers[id]? = some mapper →
      (call.registers = true → ∀ cause, reply = .error cause → cause.isConfiguration = true) ∧
      (call.builds = true → ∃ answer, reply = .ok answer) := by
  have before : world.Tabular := tabular.of_history (history_trace answered)
  have typed := reachable.typed before
  cases depth with
  | zero => simp [answer] at answered
  | succ depth =>
    refine ⟨fun mapping => ?_, ?_⟩
    · have sound := mapping.answer_sound reachable addresses answered tabular
      refine ⟨?_, ?_⟩
      · rintro cause rfl
        exact sound
      · rintro text rfl
        rcases sound with ⟨closure, none, -⟩ | raises
        · simp at none
        · exact raises
    · rintro id mapper call rfl found
      rw [addresses.answer] at answered
      refine ⟨fun registers cause fails => ?_, fun builds => ?_⟩
      · subst fails
        exact registers_sound typed before found registers answered
      · exact builds_sound typed before found builds answered

end World

/-- Two types with a member each, whose types are records of two further types. -/
def Schema.linked : Schema where
  layout
    | 0 => ⟨[.field ⟨"a", .record 2, .readWrite, "a", false⟩], []⟩
    | 1 => ⟨[.field ⟨"a", .record 3, .readWrite, "a", false⟩], []⟩
    | _ => ⟨[], []⟩

/-- A mapper "m" for records whose members a mapper "n" maps, which a table offers. -/
def World.linked (operations : List (Operation Closure)) : World Closure :=
  ((World.initial .linked false).after
    [.newTable "t", .newMapper "n" 2 3 none, .table "t" (.registerMapper "n"),
      .newMapper "m" 0 1 (some "t")]).after operations

/-- The only handle of the mapper for the members is dropped before the mapping. -/
theorem mapping_of_orphan :
    let world := World.linked [.drop "n"]
    let request : Request Closure := .operation (.mapper "m" (.map (.record []) none))
    let cause : MappingError := .mapperDropped (Slot.typeName 2) (Slot.typeName 3)
    (∃ last, world.answer 3 [] request = some (.error cause, last) ∧ last.Tabular) ∧
      ∃ moment ∈ world.trace 3 [] request, moment.Drops cause := by
  intro world request cause
  have replied : (world.answer 3 [] request).map
      (fun answered => (answered.1, answered.2.mappers.map (·.service))) =
        some (.error cause, [.table 1, .table 0]) := by decide +kernel
  obtain ⟨⟨reply, last⟩, answered, same⟩ := Option.map_eq_some_iff.mp replied
  obtain ⟨rfl, services⟩ := Prod.mk.inj same
  have tabular : last.Tabular := by
    intro mapper mem
    have listed : mapper.service ∈ [ServiceId.table 1, .table 0] :=
      services ▸ List.mem_map_of_mem mem
    obtain told | told : mapper.service = .table 1 ∨ mapper.service = .table 0 := by
      simpa using listed
    · exact ⟨1, told⟩
    · exact ⟨0, told⟩
  have reachable : world.Reachable :=
    ⟨.linked, false, _, (World.History.of_operations _ _).trans (.of_operations _ [.drop "n"])⟩
  have addresses : world.Addresses request (.mapper 1 (.map (.record []) none)) :=
    .mapper _ rfl rfl
  have mapping : world.Mapping (.mapper 1 (.map (.record []) none)) := .map rfl _ _
  have sound := (World.mapping_sound reachable addresses answered tabular).1 mapping
  exact ⟨⟨last, answered, tabular⟩, sound.1 cause rfl⟩

end RecordMapping
