import Mathlib.Data.List.Nodup
import RecordMapping.Expression
import RecordMapping.Proofs.History
import RecordMapping.Proofs.Recompile

namespace RecordMapping

variable {κ : Type}

def Property.Distinct (properties : List (Property Record)) : Prop :=
  ((properties.filter (·.isReadable)).map fun property => Text.fold property.name).Nodup

instance (properties : List (Property Record)) : Decidable (Property.Distinct properties) :=
  inferInstanceAs (Decidable (List.Nodup _))

theorem Property.Distinct.eq {properties : List (Property Record)} (distinct : Distinct properties)
    {a b : Property Record} (left : a ∈ properties) (right : b ∈ properties)
    (readable : a.isReadable = true) (readable' : b.isReadable = true)
    (same : Text.fold a.name = Text.fold b.name) : a = b :=
  List.inj_on_of_nodup_map distinct (List.mem_filter.mpr ⟨left, readable⟩)
    (List.mem_filter.mpr ⟨right, readable'⟩) same

/-- No build can assign the member: it has no counterpart, or the service refuses to bridge it. -/
def Plan.Unserved (answers : Question → Resolution κ) (dests : List (Property Record))
    (source : Property Record) : Prop :=
  ∀ dest, counterpart? dests source.name = some dest →
    ∃ error, answers (.member dest.signature source.signature) = .refuse error

theorem Plan.Unserved.settle {answers : Question → Resolution κ} {dests : List (Property Record)}
    {source : Property Record} (unserved : Unserved answers dests source) (ignored : Ignored) :
    settle answers dests ignored source = .leaveOut source.name := by
  cases found : target? dests ignored source with
  | none => exact settle_of_none found
  | some dest =>
    obtain ⟨error, told⟩ := unserved dest (target?_eq_some.mp found).2
    exact settle_of_refuse found told

variable {answers : Question → Resolution κ} {sources dests : List (Property Record)}

/-- `long` has been through builds and `alone` has not. Otherwise they are the same, but for names
that the builds have left behind. -/
structure Config.Follows (answers : Question → Resolution κ)
    (sources dests : List (Property Record)) (alone long : Config κ) : Prop where
  custom : long.custom = alone.custom
  before : long.before = alone.before
  after : long.after = alone.after
  constructor : long.constructor = alone.constructor
  explicit : ∀ key, long.ignored.get? key = some .explicit ↔ alone.ignored.get? key = some .explicit
  clean : ∀ key omission, alone.ignored.get? key = some omission → omission = .explicit
  unserved : ∀ source ∈ sources, source.isReadable = true → ∀ omission,
    long.ignored.get? (Text.fold source.name) = some omission → omission ≠ .explicit →
    Plan.Unserved answers dests source

namespace Config.Follows

variable {alone long : Config κ}

theorem change (follows : Follows answers sources dests alone long) {change : Config κ → Config κ}
    (kind : Change change) : Follows answers sources dests (change alone) (change long) := by
  cases kind with
  | none => exact follows
  | ignore dest =>
    refine ⟨follows.custom, follows.before, follows.after, follows.constructor, ?_, ?_, ?_⟩
    · intro key
      simp only [Config.ignore, OrderedMap.get?_insert]
      split
      next => exact Iff.rfl
      next => exact follows.explicit key
    · intro key omission known
      simp only [Config.ignore, OrderedMap.get?_insert] at known
      split at known
      next => exact (Option.some.inj known).symm
      next => exact follows.clean key omission known
    · intro source mem readable omission known stray
      simp only [Config.ignore, OrderedMap.get?_insert] at known
      split at known
      next => exact absurd (Option.some.inj known).symm stray
      next => exact follows.unserved source mem readable omission known stray
  | register custom =>
    refine ⟨?_, follows.before, follows.after, follows.constructor, follows.explicit, follows.clean,
      follows.unserved⟩
    simp only [Config.register, follows.custom]
  | before hook =>
    exact ⟨follows.custom, rfl, follows.after, follows.constructor, follows.explicit, follows.clean,
      follows.unserved⟩
  | after hook =>
    exact ⟨follows.custom, follows.before, rfl, follows.constructor, follows.explicit,
      follows.clean, follows.unserved⟩
  | constructor made =>
    exact ⟨follows.custom, follows.before, follows.after, rfl, follows.explicit, follows.clean,
      follows.unserved⟩

/-- What a build leaves behind are names of members that it could not assign. -/
theorem rebuilt (distinct : Property.Distinct sources)
    (calm : ∀ question ∈ Plan.questions sources dests long, (answers question).panic? = none)
    (follows : Follows answers sources dests alone long) :
    Follows answers sources dests alone (Plan.rebuilt answers sources dests long) := by
  have built := Plan.compose_built (.ofAnswers answers) sources dests long ()
  have others := built.others
  have explicit := built.ignored.explicit
  refine ⟨?_, ?_, ?_, ?_, ?_, follows.clean, ?_⟩
  · rw [Plan.rebuilt, others]
    exact follows.custom
  · rw [Plan.rebuilt, others]
    exact follows.before
  · rw [Plan.rebuilt, others]
    exact follows.after
  · rw [Plan.rebuilt, others]
    exact follows.constructor
  · exact fun key => (explicit key).trans (follows.explicit key)
  · intro source mem readable omission known stray
    have before : ∀ old, long.ignored.get? (Text.fold source.name) = some old →
        Plan.Unserved answers dests source := by
      intro old held
      refine follows.unserved source mem readable old held ?_
      rintro rfl
      have kept := (explicit (Text.fold source.name)).mpr held
      exact stray (Option.some.inj (known.symm.trans kept))
    have remembers := (Plan.compose_remembers calm (Text.fold source.name)).mp
      (OrderedMap.contains_iff.mpr ⟨omission, known⟩)
    rcases remembers with held | ⟨other, free, same, left⟩
    · obtain ⟨old, held⟩ := OrderedMap.contains_iff.mp held
      exact before old held
    · -- The build has left the name behind, and only one readable member has this name.
      obtain ⟨listed, open'⟩ := List.mem_filter.mp free
      have readable' : other.isReadable = true := (Bool.and_eq_true _ _ ▸ open').1
      obtain rfl : other = source := distinct.eq listed mem readable' readable same
      cases held : long.ignored.get? (Text.fold other.name) with
      | some old => exact before old held
      | none =>
        intro dest served
        exact (Plan.settle_eq_leaveOut calm free).mp left dest
          (Plan.target?_eq_some.mpr ⟨held, served⟩)

theorem settle (follows : Follows answers sources dests alone long) {source : Property Record}
    (mem : source ∈ sources) (readable : source.isReadable = true) :
    Plan.settle answers dests long.ignored source =
      Plan.settle answers dests alone.ignored source := by
  cases wished : alone.ignored.get? (Text.fold source.name) with
  | some omission =>
    obtain rfl := follows.clean _ _ wished
    have wished' := (follows.explicit _).mpr wished
    rw [Plan.settle_of_none, Plan.settle_of_none] <;>
      simp [Plan.target?, OrderedMap.contains, wished, wished']
  | none =>
    cases held : long.ignored.get? (Text.fold source.name) with
    | none => simp [Plan.settle, Plan.target?, OrderedMap.contains, wished, held]
    | some omission =>
      have stray : omission ≠ .explicit := by
        rintro rfl
        simp [(follows.explicit _).mp held] at wished
      have unserved := follows.unserved source mem readable omission held stray
      rw [unserved.settle, unserved.settle]

/-- The names left behind make no difference to a build. -/
theorem settled (follows : Follows answers sources dests alone long) :
    Plan.settled answers sources dests long = Plan.settled answers sources dests alone := by
  unfold Plan.settled
  rw [follows.custom, Plan.Step.ofCustom_congr follows.explicit]
  congr 1
  refine List.map_congr_left fun source mem => ?_
  obtain ⟨listed, open'⟩ := List.mem_filter.mp mem
  exact follows.settle listed (Bool.and_eq_true _ _ ▸ open').1

end Config.Follows

namespace Mapper

/-- A mapper after some actions, when its questions have the given answers. -/
def carry (answers : Question → Resolution κ) (schema : Schema) (id : MapperId)
    (actions : List (Action κ)) (mapper : Mapper κ) : Mapper κ :=
  actions.foldl
    (fun mapper action => (action.perform schema (.ofAnswers answers) id mapper ()).2.1) mapper

theorem carry_cons (schema : Schema) (id : MapperId) (action : Action κ) (rest : List (Action κ))
    (mapper : Mapper κ) :
    mapper.carry answers schema id (action :: rest) =
      (action.perform schema (.ofAnswers answers) id mapper ()).2.1.carry answers schema id rest :=
  rfl

theorem carry_concat (schema : Schema) (id : MapperId) (actions : List (Action κ))
    (action : Action κ) (mapper : Mapper κ) :
    mapper.carry answers schema id (actions ++ [action]) =
      (action.perform schema (.ofAnswers answers) id
        (mapper.carry answers schema id actions) ()).2.1 := by
  simp [carry]

structure Follows (answers : Question → Resolution κ) (schema : Schema) (alone long : Mapper κ) :
    Prop where
  source : long.source = alone.source
  dest : long.dest = alone.dest
  healthy : long.poisoned = false
  healthy' : alone.poisoned = false
  unused : alone.compiled = none
  config : Config.Follows answers (schema.properties alone.source) (schema.properties alone.dest)
    alone.config long.config

variable {schema : Schema} {alone long : Mapper κ}

theorem calm_of_quiet (quiet : ∀ question text, answers question ≠ .panic text) (schema : Schema)
    (mapper : Mapper κ) : mapper.Calm answers schema := by
  intro question _
  cases told : answers question with
  | panic text => exact absurd told (quiet question text)
  | convert | refuse => rfl

theorem Follows.new (source dest : Slot) (service service' : ServiceId) :
    Follows answers schema (.new source dest service : Mapper κ) (.new source dest service') := by
  refine ⟨rfl, rfl, rfl, rfl, rfl, rfl, rfl, rfl, rfl, fun _ => Iff.rfl, ?_, ?_⟩
  · intro key omission known
    exact nomatch known
  · intro source _ _ omission known
    exact nomatch known

theorem Action.perform_use {mapper : Mapper κ} {action : Action κ}
    (uses : action.configures = false) (healthy : mapper.poisoned = false)
    (calm : mapper.Calm answers schema) (id : MapperId) :
    (action.perform schema (.ofAnswers answers) id mapper ()).2.1 = mapper ∨
      (action.perform schema (.ofAnswers answers) id mapper ()).2.1 =
        mapper.renewed answers schema id := by
  obtain ⟨_, renewed⟩ := rebuild_ofAnswers calm id
  cases action with
  | compile =>
    cases cached : mapper.compiled with
    | some plan => left; simp [perform, perform.given, Mapper.compile, healthy, cached]
    | none => right; simpa [perform, perform.given, Mapper.compile, healthy, cached] using renewed
  | recompile => right; simpa [perform, perform.given, Mapper.recompile, healthy] using renewed
  | _ => simp [Action.configures] at uses

theorem Follows.renewed (distinct : Property.Distinct (schema.properties alone.source))
    (calm : long.Calm answers schema) (follows : Follows answers schema alone long)
    (id : MapperId) : Follows answers schema alone (long.renewed answers schema id) := by
  refine ⟨follows.source, follows.dest, follows.healthy, follows.healthy', follows.unused, ?_⟩
  have config := follows.config
  unfold Calm at calm
  simp only [Mapper.renewed]
  rw [follows.source, follows.dest] at calm ⊢
  exact config.rebuilt distinct calm

theorem Follows.configure (follows : Follows answers schema alone long) {action : Action κ}
    (configures : action.configures = true) (id other : MapperId) :
    Follows answers schema (action.perform schema (.ofAnswers answers) other alone ()).2.1
      (action.perform schema (.ofAnswers answers) id long ()).2.1 := by
  obtain ⟨change, kind, same⟩ := Action.perform_change schema (.ofAnswers answers) alone.source
    alone.dest () configures
  have revised (mapper : Mapper κ) (healthy : mapper.poisoned = false) :
      mapper.revise change = { mapper with config := change mapper.config } := by
    simp [revise, healthy]
  rw [same other alone rfl rfl, same id long follows.source follows.dest,
    revised alone follows.healthy', revised long follows.healthy]
  exact ⟨follows.source, follows.dest, follows.healthy, follows.healthy', follows.unused,
    follows.config.change kind⟩

/-- Uses among the actions of a mapper leave it as if they had been left out. -/
theorem Follows.carry (quiet : ∀ question text, answers question ≠ .panic text)
    (distinct : Property.Distinct (schema.properties alone.source))
    (follows : Follows answers schema alone long) (id other : MapperId)
    (actions : List (Action κ)) :
    Follows answers schema (alone.carry answers schema other (actions.filter (·.configures)))
      (long.carry answers schema id actions) := by
  induction actions generalizing alone long with
  | nil => exact follows
  | cons action rest ih =>
    cases configures : action.configures with
    | true =>
      rw [List.filter_cons_of_pos configures, carry_cons, carry_cons]
      refine ih ?_ (follows.configure configures id other)
      rw [(Action.perform_slots schema _ other action alone ()).1]
      exact distinct
    | false =>
      rw [List.filter_cons_of_neg (by simp [configures]), carry_cons]
      have calm := calm_of_quiet quiet schema long
      refine ih distinct ?_
      rcases Action.perform_use configures follows.healthy calm id with same | renewed
      · rw [same]
        exact follows
      · rw [renewed]
        exact follows.renewed distinct calm id

/-- The plans of the two mappers do the same. -/
structure SamePlan (long alone : Plan κ) : Prop where
  bindings : long.bindings = alone.bindings
  assignments : long.assignments = alone.assignments
  constructor : long.constructor = alone.constructor
  before : long.before = alone.before
  after : long.after = alone.after

theorem Follows.planned (follows : Follows answers schema alone long) (id other : MapperId) :
    SamePlan (long.planned answers schema id) (alone.planned answers schema other) := by
  have settled := follows.config.settled
  constructor
  · simp only [Mapper.planned, follows.source, follows.dest, settled]
  · simp only [Mapper.planned, follows.source, follows.dest, settled]
  · exact follows.config.constructor
  · exact follows.config.before
  · exact follows.config.after

end Mapper

namespace World

open Mapper

variable [Closures κ] {source dest : Slot} {service : ServiceId} {id : MapperId}
  {first last : World κ} {past : List (Moment κ)}

/-- A history of a mapper that is new at first, and whose service gives the same answers always. -/
structure Career (answers : Question → Resolution κ) (source dest : Slot) (service : ServiceId)
    (id : MapperId) (first : World κ) (past : List (Moment κ)) (last : World κ) : Prop where
  fresh : first.mappers[id]? = some (.new source dest service)
  history : History first past last
  steady : ∀ moment ∈ past,
    (Surroundings.dialogue first.schema service).Steady answers moment.world.surroundings
  still : (Surroundings.dialogue first.schema service).Steady answers last.surroundings

theorem History.carry {mapper : Mapper κ} (history : History first past last)
    (found : first.mappers[id]? = some mapper)
    (steady : ∀ moment ∈ past,
      (Surroundings.dialogue first.schema mapper.service).Steady answers
        moment.world.surroundings) :
    ∃ later, last.mappers[id]? = some later ∧ later.service = mapper.service ∧
      later = mapper.carry answers first.schema id (past.filterMap (·.action? id)) := by
  induction history with
  | start => exact ⟨mapper, found, rfl, rfl⟩
  | write entry _ ih => exact ih steady
  | clear _ ih => exact ih steady
  | @serve past world held request early ih =>
    obtain ⟨middle, found', service, made⟩ :=
      ih fun moment mem => steady moment (List.mem_append_left _ mem)
    rw [serve_mapper found' held request, List.filterMap_append]
    cases acts : Moment.action? id ⟨world, held, request⟩ with
    | none => exact ⟨middle, rfl, service, by simp [acts, made]⟩
    | some action =>
      have slots := action.perform_slots world.schema
        (Surroundings.dialogue world.schema middle.service) id middle world.surroundings
      refine ⟨_, rfl, slots.2.2.trans service, ?_⟩
      have now := steady _ (List.mem_append_right past List.mem_cons_self)
      rw [← service, ← early.schema] at now
      have alike := (Dialogue.steady_similar _ answers).perform (t := ()) world.schema id action
        middle now
      rw [List.filterMap_cons_some acts, List.filterMap_nil, carry_concat, ← made, ← early.schema]
      exact alike.value

theorem Career.carry (career : Career answers source dest service id first past last) :
    ∃ mapper, last.mappers[id]? = some mapper ∧
      (Surroundings.dialogue last.schema mapper.service).Steady answers last.surroundings ∧
      mapper = (Mapper.new source dest service).carry answers last.schema id
        (past.filterMap (·.action? id)) := by
  obtain ⟨mapper, found, kept, made⟩ := career.history.carry career.fresh career.steady
  have still := career.still
  rw [← career.history.schema] at still made
  exact ⟨mapper, found, by rwa [kept], made⟩

/-- Whatever uses come between the configuring actions of a mapper, and however they end, a final
forced build yields the plan that a first build yields after the configuring actions alone. -/
theorem recompile_eq_compile_alone {source dest : Slot} {service service' : ServiceId}
    {id other : MapperId} {first last first' last' : World κ} {past past' : List (Moment κ)}
    (quiet : ∀ question text, answers question ≠ .panic text)
    (distinct : Property.Distinct (first.schema.properties source))
    (long : Career answers source dest service id first past last)
    (alone : Career answers source dest service' other first' past' last')
    (schema : first'.schema = first.schema)
    (same : past'.filterMap (·.action? other) =
      (past.filterMap (·.action? id)).filter (·.configures)) :
    ∃ mapper plan mapper' plan',
      last.mappers[id]? = some mapper ∧ (last.recompile id mapper).1 = .ok plan ∧
      last'.mappers[other]? = some mapper' ∧ (last'.compile other mapper').1 = .ok plan' ∧
      SamePlan plan plan' := by
  obtain ⟨mapper, found, steady, made⟩ := long.carry
  obtain ⟨mapper', found', steady', made'⟩ := alone.carry
  have kept : last'.schema = last.schema := by
    rw [alone.history.schema, long.history.schema, schema]
  rw [← long.history.schema] at distinct
  have follows : Mapper.Follows answers last.schema mapper' mapper := by
    rw [made, made', same, kept]
    exact (Mapper.Follows.new source dest service' service).carry quiet distinct id other _
  have built :=
    (builds_of_calm follows.healthy (calm_of_quiet quiet last.schema mapper) steady id).1
  have built' := (builds_of_calm follows.healthy' (calm_of_quiet quiet last'.schema mapper')
    steady' other).2 follows.unused
  refine ⟨mapper, _, mapper', _, found, built, found', built', ?_⟩
  rw [kept]
  exact follows.planned id other

/-- The member that the first build could not assign is given a source of its own later. -/
theorem recompile_after_leftover :
    ∃ (first last last' : World Closure) (past past' : List (Moment Closure)),
      Career (Conversions.answers default) 1 0 (.table 0) 0 first past last ∧
      Career (Conversions.answers default) 1 0 (.table 0) 0 first past' last' ∧
      past.filterMap (·.action? 0) = [.compile, .assignComputed "A" .text (.value .source)] ∧
      past'.filterMap (·.action? 0) = [.assignComputed "A" .text (.value .source)] ∧
      ∃ mapper plan mapper' plan',
        last.mappers[0]? = some mapper ∧ (last.recompile 0 mapper).1 = .ok plan ∧
        last'.mappers[0]? = some mapper' ∧ (last'.compile 0 mapper').1 = .ok plan' ∧
        SamePlan plan plan' := by
  have quiet := Conversions.answers_ne_panic (default : Conversions Closure)
  have long : Career (Conversions.answers default) 1 0 (.table 0) 0
      ((initial Schema.twins false : World Closure).after [.newMapper "mapper" 1 0 none]) _ _ :=
    ⟨rfl, .of_operations _ [.mapper "mapper" (.compile none),
        .mapper "mapper" (.assignComputed "A" .text (.value .source))],
      List.forall_mem_cons.mpr ⟨Surroundings.steady_table rfl _,
        List.forall_mem_cons.mpr ⟨Surroundings.steady_table rfl _, List.forall_mem_nil _⟩⟩,
      Surroundings.steady_table rfl _⟩
  have alone : Career (Conversions.answers default) 1 0 (.table 0) 0
      ((initial Schema.twins false : World Closure).after [.newMapper "mapper" 1 0 none]) _ _ :=
    ⟨rfl, .of_operations _ [.mapper "mapper" (.assignComputed "A" .text (.value .source))],
      List.forall_mem_cons.mpr ⟨Surroundings.steady_table rfl _, List.forall_mem_nil _⟩,
      Surroundings.steady_table rfl _⟩
  refine ⟨_, _, _, _, _, long, alone, rfl, rfl, ?_⟩
  exact recompile_eq_compile_alone quiet (by decide) long alone rfl rfl

end World

end RecordMapping
