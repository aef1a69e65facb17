import RecordMapping.Proofs.Formation
import RecordMapping.Proofs.Trace

namespace RecordMapping

variable {σ κ α : Type}

/-- The converter takes values of the one type and yields values of the other; `slots` tells what
each mapper maps between. -/
inductive Converter.Carries (slots : MapperId → Option (Slot × Slot)) :
    ValueType → ValueType → Converter κ → Prop where
  | identity (type : ValueType) : Carries slots type type .identity
  | function (source dest : ValueType) (convert : κ) :
    Carries slots source dest (.function source dest convert)
  | nested {id : MapperId} {source dest : Slot} (known : slots id = some (source, dest)) :
    Carries slots (.record source) (.record dest) (.nested id)

def Assignment.Carries (slots : MapperId → Option (Slot × Slot)) (assignment : Assignment κ) :
    Prop :=
  assignment.converter.Carries slots assignment.source.valueType assignment.dest.valueType

def Conversions.Typed (slots : MapperId → Option (Slot × Slot)) (table : Conversions κ) : Prop :=
  ∀ pair converter, table.converters.get? pair = some converter →
    converter.Carries slots pair.1 pair.2

structure Mapper.Typed (slots : MapperId → Option (Slot × Slot)) (mapper : Mapper κ) : Prop where
  healthy : mapper.poisoned = false
  fits : mapper.Fits (Assignment.Carries slots)

def Handle.Typed (slots : MapperId → Option (Slot × Slot)) (handle : Handle κ) : Prop :=
  ∀ plan, handle = .plan plan → plan.Fits (Assignment.Carries slots)

/-- Mappers are registered under the types that they map between, and only an entry that panics can
have poisoned the registry. -/
structure Registry.Typed (slots : MapperId → Option (Slot × Slot)) (registry : Registry κ) :
    Prop where
  mappers : ∀ pair id source dest, registry.entries.get? pair = some (.mapper id source dest) →
    slots id = some (source, dest) ∧ pair = (.record source, .record dest)
  poisoned : registry.poisoned = true → ∃ entry ∈ registry.entries.values, entry.panics = true

namespace World

def slots? (world : World κ) (id : MapperId) : Option (Slot × Slot) :=
  world.mappers[id]?.map fun mapper => (mapper.source, mapper.dest)

def Tabular (world : World κ) : Prop := ∀ mapper ∈ world.mappers, ∃ id, mapper.service = .table id

structure Typed (world : World κ) : Prop where
  tables : ∀ table ∈ world.surroundings.tables, table.Typed world.slots?
  mappers : ∀ mapper ∈ world.mappers, mapper.Typed world.slots?
  handles : ∀ name handle, world.handles.get? name = some handle → handle.Typed world.slots?
  registries : ∀ registry ∈ world.registries, registry.Typed world.slots?

end World

section Slots

variable {slots more : MapperId → Option (Slot × Slot)}

theorem Converter.Carries.mono {source dest : ValueType} {converter : Converter κ}
    (carries : converter.Carries slots source dest)
    (grown : ∀ id pair, slots id = some pair → more id = some pair) :
    converter.Carries more source dest := by
  cases carries with
  | identity => exact .identity _
  | function source dest convert => exact .function source dest convert
  | nested known => exact .nested (grown _ _ known)

theorem Conversions.Typed.mono {table : Conversions κ} (typed : table.Typed slots)
    (grown : ∀ id pair, slots id = some pair → more id = some pair) : table.Typed more :=
  fun pair converter found => (typed pair converter found).mono grown

theorem Mapper.Typed.mono {mapper : Mapper κ} (typed : mapper.Typed slots)
    (grown : ∀ id pair, slots id = some pair → more id = some pair) : mapper.Typed more :=
  ⟨typed.healthy, typed.fits.imp fun _ carries => Converter.Carries.mono carries grown⟩

theorem Handle.Typed.mono {handle : Handle κ} (typed : handle.Typed slots)
    (grown : ∀ id pair, slots id = some pair → more id = some pair) : handle.Typed more :=
  fun plan same => (typed plan same).imp fun _ carries => Converter.Carries.mono carries grown

theorem Registry.Typed.mono {registry : Registry κ} (typed : registry.Typed slots)
    (grown : ∀ id pair, slots id = some pair → more id = some pair) : registry.Typed more where
  mappers pair id source dest found :=
    (typed.mappers pair id source dest found).imp_left fun known => grown id (source, dest) known
  poisoned := typed.poisoned

theorem Conversions.Typed.register {table : Conversions κ} {source dest : ValueType}
    {converter : Converter κ} (typed : table.Typed slots)
    (carries : converter.Carries slots source dest) :
    (table.register source dest converter).Typed slots := by
  intro pair other found
  by_cases same : (source, dest) = pair
  · subst same
    obtain rfl : converter = other := by simpa [Conversions.register] using found
    exact carries
  · exact typed pair other (by simpa [Conversions.register, same] using found)

/-- A typed table answers with converters for the types of the question. -/
theorem Conversions.Typed.bridge {table : Conversions κ} (typed : table.Typed slots)
    {question : Question} {converter : Converter κ}
    (told : table.bridge question = .ok converter) :
    converter.Carries slots question.source.valueType question.dest.valueType := by
  dsimp only [Conversions.bridge] at told
  split at told
  next same =>
    obtain rfl := Except.ok.inj told
    rw [same]
    exact .identity _
  next =>
    split at told
    next found =>
      obtain rfl := Except.ok.inj told
      exact typed _ _ found
    next => simp at told

theorem Registry.Typed.reported {registry : Registry κ} (typed : registry.Typed slots) :
    registry.reported.2.Typed slots := by
  unfold Registry.reported
  split
  next panics => exact ⟨typed.mappers, fun _ => List.any_eq_true.mp panics⟩
  next => exact typed

/-- A registry stays typed if only mappers that are known enter it. -/
theorem Registry.Typed.onto {registry : Registry κ} {deed : Deed κ} (typed : registry.Typed slots)
    (known : ∀ id source dest, deed = .enroll (.mapper id source dest) →
      slots id = some (source, dest)) :
    (deed.onto registry).Typed slots := by
  cases deed with
  | enroll entry =>
    dsimp only [Deed.onto, register, guarded]
    split
    next => exact typed
    next healthy =>
      refine ⟨fun pair id source dest found => ?_, fun broken => absurd broken healthy⟩
      by_cases same : entry.types = pair
      · subst same
        obtain rfl : entry = .mapper id source dest := by simpa using found
        exact ⟨known id source dest rfl, rfl⟩
      · exact typed.mappers pair id source dest (by simpa [same] using found)
  | remove pair =>
    dsimp only [Deed.onto, remove, guarded]
    split
    next => exact typed
    next healthy =>
      refine ⟨fun other id source dest found => ?_, fun broken => absurd broken healthy⟩
      by_cases same : pair = other
      · simp [same] at found
      · exact typed.mappers other id source dest (by simpa [same] using found)
  | list =>
    dsimp only [Deed.onto, pairs, guarded]
    split
    next => exact typed
    next => exact typed.reported

/-- A registry whose entries do not panic finds the mapper that it has for a pair. -/
theorem Registry.Typed.lookup {registry : Registry κ} (typed : registry.Typed slots)
    (quiet : ∀ entry ∈ registry.entries.values, entry.panics = false)
    {pair : ValueType × ValueType} {entry : Entry κ}
    (listed : registry.entries.get? pair = some entry) :
    registry.lookup pair = (.ok entry, registry) := by
  have healthy : registry.poisoned ≠ true := by
    intro broken
    obtain ⟨other, mem, panics⟩ := typed.poisoned broken
    simp [quiet other mem] at panics
  simp [Registry.lookup, guarded, healthy, listed]

end Slots

namespace Surroundings

/-- Questions and reports register no conversion. -/
theorem reaches_tables {schema : Schema} {service : ServiceId} {first last : Surroundings κ}
    (reach : (dialogue schema service).Reaches first last) : last.tables = first.tables := by
  induction reach with
  | start => rfl
  | ask question _ ih =>
    rw [← ih]
    cases service with
    | table id => rfl
    | ruled id =>
      dsimp only [dialogue, ask]
      split <;> rfl
  | report event _ ih =>
    rw [← ih]
    dsimp only [dialogue, report]
    split <;> rfl

theorem calm_table (schema : Schema) (id : Nat) :
    (dialogue schema (.table id) : Dialogue (Surroundings κ) κ).Calm := by
  intro question state text told
  exact Conversions.answers_ne_panic (state.table id) question text told

/-- What a table refuses it calls a matter of configuration. -/
theorem isConfiguration_of_refused {schema : Schema} {id : Nat} {question : Question}
    {surroundings : Surroundings κ} {error : MappingError}
    (told : ((dialogue schema (.table id)).ask question surroundings).1 = .refuse error) :
    error.isConfiguration = true := by
  have answer : Resolution.ofExcept ((surroundings.table id).bridge question) = .refuse error :=
    told
  dsimp only [Conversions.bridge] at answer
  split at answer
  next => simp [Resolution.ofExcept] at answer
  next =>
    split at answer
    next => simp [Resolution.ofExcept] at answer
    next =>
      obtain rfl : _ = error := by simpa [Resolution.ofExcept] using answer
      rfl

/-- Whatever a typed table offers while it answers is typed. -/
theorem offersOnly_table {slots : MapperId → Option (Slot × Slot)} (schema : Schema) {id : Nat}
    {surroundings : Surroundings κ} (typed : (surroundings.table id).Typed slots)
    (dests : List (Property Record)) :
    ((dialogue schema (.table id)).confined surroundings).OffersOnly dests
      (Assignment.Carries slots) := by
  intro assignment offers
  rcases offers.converter with ⟨identity, same⟩ | ⟨question, reached, given, wanted, told⟩
  · rw [Assignment.Carries, identity, same]
    exact .identity _
  · have answer : Resolution.ofExcept ((reached.1.table id).bridge question) =
        .convert assignment.converter := told
    have unchanged : reached.1.table id = surroundings.table id := by
      rw [table, table, reaches_tables reached.2]
    rw [unchanged] at answer
    cases bridged : (surroundings.table id).bridge question with
    | ok converter =>
      obtain rfl : converter = assignment.converter := by
        simpa [bridged, Resolution.ofExcept] using answer
      rw [Assignment.Carries, ← given, ← wanted]
      exact typed.bridge bridged
    | error error => simp [bridged, Resolution.ofExcept] at answer

end Surroundings

namespace Mapper

variable {schema : Schema} {dialogue : Dialogue σ κ} {id : MapperId} {mapper : Mapper κ} {state : σ}

theorem rebuild_of_calm (calm : dialogue.Calm) (schema : Schema) (id : MapperId)
    (mapper : Mapper κ) (state : σ) :
    ∃ plan later next, mapper.rebuild schema dialogue id state = (.ok plan, later, next) ∧
      later.poisoned = mapper.poisoned := by
  have composed := (Plan.compose_of_calm calm (schema.properties mapper.source)
    (schema.properties mapper.dest) mapper.config state).1
  obtain ⟨outcome, config, next, built⟩ : ∃ outcome config next,
      Plan.compose dialogue (schema.properties mapper.source) (schema.properties mapper.dest)
        mapper.config state = (outcome, config, next) := ⟨_, _, _, rfl⟩
  rw [built] at composed
  obtain rfl : outcome = .ok _ := composed
  simp only [rebuild, built]
  exact ⟨_, _, _, rfl, rfl⟩

/-- Uses of a mapper yield a plan, and nothing poisons it, as long as its service does not panic. -/
theorem Action.perform_of_calm (calm : dialogue.Calm) (healthy : mapper.poisoned = false)
    (id : MapperId) (action : Action κ) :
    (action.perform schema dialogue id mapper state).2.1.poisoned = false ∧
      (action.configures = false →
        ∃ plan, (action.perform schema dialogue id mapper state).1 = .ok (some plan)) := by
  cases configures : action.configures with
  | true =>
    obtain ⟨change, -, same⟩ :=
      perform_change schema dialogue mapper.source mapper.dest state configures
    rw [same id mapper rfl rfl, revise]
    simp [healthy]
  | false =>
    cases action with
    | compile =>
      cases cached : mapper.compiled with
      | some plan => simp [perform, perform.given, Mapper.compile, healthy, cached, Outcome.map]
      | none =>
        obtain ⟨plan, later, next, built, kept⟩ := rebuild_of_calm calm schema id mapper state
        simp [perform, perform.given, Mapper.compile, healthy, cached, built, kept, Outcome.map]
    | recompile =>
      obtain ⟨plan, later, next, built, kept⟩ := rebuild_of_calm calm schema id mapper
        (dialogue.report (.recompileForced mapper.source mapper.dest) state)
      simp [perform, perform.given, Mapper.recompile, healthy, built, kept, Outcome.map]
    | _ => simp [Action.configures] at configures

end Mapper

theorem Conversions.Typed.default (slots : MapperId → Option (Slot × Slot)) :
    (Inhabited.default : Conversions κ).Typed slots := by
  intro pair converter found
  have absent : (none : Option (Converter κ)) = some converter := found
  simp at absent

theorem Registry.Typed.default (slots : MapperId → Option (Slot × Slot)) :
    (Inhabited.default : Registry κ).Typed slots where
  mappers pair id source dest found := by
    have absent : (none : Option (Entry κ)) = some (.mapper id source dest) := found
    simp at absent
  poisoned broken := by
    have healthy : false = true := broken
    simp at healthy

namespace World

section Typed

variable {world : World κ}

theorem Typed.table (typed : world.Typed) (id : Nat) :
    (world.surroundings.table id).Typed world.slots? := by
  rw [Surroundings.table, List.getD_eq_getElem?_getD]
  cases found : world.surroundings.tables[id]? with
  | some table => exact typed.tables table (List.mem_of_getElem? found)
  | none => exact .default _

theorem Typed.registry (typed : world.Typed) (id : Nat) :
    (world.registry id).Typed world.slots? := by
  rw [World.registry, List.getD_eq_getElem?_getD]
  cases found : world.registries[id]? with
  | some registry => exact typed.registries registry (List.mem_of_getElem? found)
  | none => exact .default _

theorem Typed.initial (schema : Schema) (tracing : Bool) :
    (World.initial schema tracing : World κ).Typed where
  tables := by simp [World.initial]
  mappers := by simp [World.initial]
  handles := by simp [World.initial]
  registries := by simp [World.initial]

theorem Typed.keep (typed : world.Typed) (name : String) {handle : Handle κ}
    (fits : handle.Typed world.slots?) : (world.keep name handle).Typed where
  tables := typed.tables
  mappers := typed.mappers
  registries := typed.registries
  handles := by
    intro other found named
    by_cases same : name = other
    · obtain rfl : handle = found := by simpa [World.keep, same] using named
      exact fits
    · exact typed.handles other found (by simpa [World.keep, same] using named)

theorem Typed.drop (typed : world.Typed) (name : String) : (world.drop name).Typed where
  tables := typed.tables
  mappers := typed.mappers
  registries := typed.registries
  handles := by
    intro other found named
    by_cases same : name = other
    · simp [World.drop, same] at named
    · exact typed.handles other found (by simpa [World.drop, same] using named)

theorem Typed.surround (typed : world.Typed) {surroundings : Surroundings κ}
    (same : surroundings.tables = world.surroundings.tables) :
    ({ world with surroundings := surroundings } : World κ).Typed where
  tables := by
    rw [same]
    exact typed.tables
  mappers := typed.mappers
  handles := typed.handles
  registries := typed.registries

theorem Typed.report (typed : world.Typed) (event : Event) : (world.report event).Typed := by
  refine typed.surround ?_
  unfold Surroundings.report
  split <;> rfl

theorem Typed.newTable (typed : world.Typed) : world.newTable.2.Typed where
  tables := by
    intro table mem
    rcases List.mem_append.mp mem with old | new
    · exact typed.tables table old
    · obtain rfl := List.mem_singleton.mp new
      exact .default _
  mappers := typed.mappers
  handles := typed.handles
  registries := typed.registries

theorem Typed.registerConverter (typed : world.Typed) (id : Nat) {source dest : ValueType}
    {converter : Converter κ} (carries : converter.Carries world.slots? source dest) :
    (world.registerConverter id source dest converter).Typed := by
  let changed := (world.surroundings.table id).register source dest converter
  have set : ({ world with surroundings := world.surroundings.setTable id changed } :
      World κ).Typed := by
    refine ⟨fun table mem => ?_, typed.mappers, typed.handles, typed.registries⟩
    rcases List.mem_or_eq_of_mem_set mem with old | rfl
    · exact typed.tables table old
    · exact (typed.table id).register carries
  exact set.report _

theorem Typed.setRegistry (typed : world.Typed) (id : Nat) {registry : Registry κ}
    (fits : registry.Typed world.slots?) : (world.setRegistry id registry).Typed where
  tables := typed.tables
  mappers := typed.mappers
  handles := typed.handles
  registries := by
    intro other mem
    rcases List.mem_or_eq_of_mem_set mem with old | rfl
    · exact typed.registries other old
    · exact fits

theorem Typed.newRegistry (typed : world.Typed) :
    ({ world with registries := world.registries ++ [default] } : World κ).Typed where
  tables := typed.tables
  mappers := typed.mappers
  handles := typed.handles
  registries := by
    intro registry mem
    rcases List.mem_append.mp mem with old | new
    · exact typed.registries registry old
    · obtain rfl := List.mem_singleton.mp new
      exact .default _

theorem Typed.newMapper (typed : world.Typed) (source dest : Slot) (service : ServiceId) :
    (world.newMapper (.new source dest service)).2.Typed := by
  have grown : ∀ id pair, world.slots? id = some pair →
      (world.newMapper (.new source dest service)).2.slots? id = some pair := by
    intro id pair known
    obtain ⟨mapper, found, rfl⟩ := Option.map_eq_some_iff.mp known
    have bound : id < world.mappers.length := (List.getElem?_eq_some_iff.mp found).1
    simp [slots?, World.newMapper, List.getElem?_append_left bound, found]
  refine ⟨?_, ?_, ?_, ?_⟩
  · exact fun table mem => (typed.tables table mem).mono grown
  · intro mapper mem
    rcases List.mem_append.mp mem with old | new
    · exact (typed.mappers mapper old).mono grown
    · obtain rfl := List.mem_singleton.mp new
      exact ⟨rfl, .new source dest service⟩
  · exact fun name handle named => (typed.handles name handle named).mono grown
  · exact fun registry mem => (typed.registries registry mem).mono grown

theorem slots?_carryOut {id : MapperId} {mapper : Mapper κ}
    (found : world.mappers[id]? = some mapper) (action : Mapper.Action κ) :
    (world.carryOut id mapper action).2.slots? = world.slots? := by
  have kept := action.perform_slots world.schema
    (Surroundings.dialogue world.schema mapper.service) id mapper world.surroundings
  obtain ⟨bound, same⟩ := List.getElem?_eq_some_iff.mp found
  funext other
  simp only [slots?, carryOut_eq]
  by_cases here : id = other
  · subst here
    simp [bound, same, performed, kept]
  · rw [List.getElem?_set_ne here]

theorem tables_carryOut (world : World κ) (id : MapperId) (mapper : Mapper κ)
    (action : Mapper.Action κ) :
    (world.carryOut id mapper action).2.surroundings.tables = world.surroundings.tables :=
  Surroundings.reaches_tables
    (Mapper.Action.perform_reaches world.schema _ id action mapper world.surroundings)

/-- What a mapper does in a typed session leaves it typed, and so is the plan that it yields. -/
theorem Typed.carryOut (typed : world.Typed) (tabular : world.Tabular) {id : MapperId}
    {mapper : Mapper κ} (found : world.mappers[id]? = some mapper) (action : Mapper.Action κ) :
    (world.carryOut id mapper action).2.Typed ∧
      ∀ plan, (world.carryOut id mapper action).1 = .ok (some plan) →
        plan.Suits (Assignment.Carries world.slots?) mapper := by
  have listed : mapper ∈ world.mappers := List.mem_of_getElem? found
  obtain ⟨table, service⟩ := tabular mapper listed
  have before := typed.mappers mapper listed
  -- The tables are typed in reached states only, so the dialogue is confined to these.
  let confined := (Surroundings.dialogue world.schema (.table table)).confined world.surroundings
  have offered := Surroundings.offersOnly_table world.schema (typed.table table)
    (world.schema.properties mapper.dest)
  have alike := (Dialogue.confined_similar (Surroundings.dialogue world.schema (.table table))
    world.surroundings).perform world.schema id action mapper
    (s := ⟨world.surroundings, .start⟩) rfl
  have fits : (action.perform world.schema confined id mapper
      ⟨world.surroundings, .start⟩).2.1.Fits (Assignment.Carries world.slots?) :=
    before.fits.perform offered action
  rw [alike.value] at fits
  have healthy : (action.perform world.schema (Surroundings.dialogue world.schema (.table table)) id
      mapper world.surroundings).2.1.poisoned = false :=
    (Mapper.Action.perform_of_calm (Surroundings.calm_table world.schema table) before.healthy id
      action).1
  have later : (world.performed id mapper action).2.1.Typed world.slots? := by
    rw [performed, service]
    exact ⟨healthy, fits⟩
  refine ⟨⟨?_, ?_, ?_, ?_⟩, ?_⟩
  · rw [tables_carryOut, slots?_carryOut found]
    exact typed.tables
  · rw [slots?_carryOut found]
    intro other mem
    rcases List.mem_or_eq_of_mem_set mem with old | rfl
    · exact typed.mappers other old
    · exact later
  · rw [slots?_carryOut found]
    exact typed.handles
  · rw [slots?_carryOut found]
    exact typed.registries
  · intro plan given
    rw [carryOut_eq, performed, service, ← alike.result] at given
    exact before.fits.performed offered given

/-- In a typed session a use of a mapper yields a plan. -/
theorem Typed.uses (typed : world.Typed) (tabular : world.Tabular) {id : MapperId}
    {mapper : Mapper κ} (found : world.mappers[id]? = some mapper) (action : Mapper.Action κ)
    (uses : action.configures = false) :
    ∃ plan, (world.carryOut id mapper action).1 = .ok (some plan) ∧
      plan.Suits (Assignment.Carries world.slots?) mapper := by
  have listed : mapper ∈ world.mappers := List.mem_of_getElem? found
  obtain ⟨table, service⟩ := tabular mapper listed
  have calm := Surroundings.calm_table (κ := κ) world.schema table
  obtain ⟨plan, yielded⟩ :=
    (Mapper.Action.perform_of_calm calm (typed.mappers mapper listed).healthy id action).2 uses
  have given : (world.carryOut id mapper action).1 = .ok (some plan) := by
    rw [carryOut_eq, performed, service]
    exact yielded
  exact ⟨plan, given, (typed.carryOut tabular found action).2 plan given⟩

theorem Typed.compiles (typed : world.Typed) (tabular : world.Tabular) {id : MapperId}
    {mapper : Mapper κ} (found : world.mappers[id]? = some mapper) :
    ∃ plan built, world.compile id mapper = (.ok plan, built) ∧
      plan.Suits (Assignment.Carries world.slots?) mapper := by
  obtain ⟨plan, given, suits⟩ := typed.uses tabular found .compile rfl
  obtain ⟨other, compiled, same⟩ := Outcome.map_eq_ok.mp given
  obtain rfl := Option.some.inj same
  exact ⟨other, _, Prod.ext compiled rfl, suits⟩

theorem Typed.recompiles (typed : world.Typed) (tabular : world.Tabular) {id : MapperId}
    {mapper : Mapper κ} (found : world.mappers[id]? = some mapper) :
    ∃ plan built, world.recompile id mapper = (.ok plan, built) := by
  obtain ⟨plan, given, -⟩ := typed.uses tabular found .recompile rfl
  obtain ⟨other, recompiled, -⟩ := Outcome.map_eq_ok.mp given
  exact ⟨other, _, Prod.ext recompiled rfl⟩

end Typed

section Serve

variable [Closures κ] {world : World κ}

/-- A step leaves a typed session typed. -/
theorem Step.typed {held : List Hold} {request : Request κ} {bearing : Bearing κ}
    {served : Launch κ Answer × World κ} (step : world.Step held request bearing served)
    (typed : world.Typed) (tabular : world.Tabular) : served.2.Typed := by
  cases step with
  | start => exact typed
  | note input => exact typed.surround rfl
  | keep plain other => exact typed.keep _ fun plan same => absurd same (other plan)
  | copy named => exact typed.keep _ (typed.handles _ _ named)
  | erased => exact typed.keep _ fun _ same => by simp at same
  | drop name => exact typed.drop name
  | newTable name => exact typed.newTable.keep name fun _ same => by simp at same
  | newService name service =>
    have made : (world.newService service).2.Typed := typed.surround rfl
    exact made.keep name fun _ same => by simp at same
  | @newMapper name base made source dest service =>
    have before : base.Typed := by
      -- A mapper without a service of its own comes with a new table.
      rcases made with rfl | rfl
      · exact typed
      · exact typed.newTable
    exact (before.newMapper source dest service).keep name fun _ same => by simp at same
  | newRegistry name => exact typed.newRegistry.keep name fun _ same => by simp at same
  | @enroll id entry known =>
    have enrolled := typed.setRegistry id ((typed.registry id).onto
      fun other source dest (same : Registry.Deed.enroll entry = _) => by
        obtain ⟨mapper, found, rfl, rfl⟩ := known other source dest (Registry.Deed.enroll.inj same)
        simp [slots?, found])
    obtain same | ⟨event, same⟩ := world.enroll_world id entry
    · rw [same]
      exact enrolled
    · rw [same]
      exact enrolled.report event
  | @settle id deed other outcome =>
    exact typed.setRegistry id ((typed.registry id).onto fun _ _ _ same => absurd same (other _))
  | convert source dest convert => exact typed.registerConverter _ (.function source dest convert)
  | nest found => exact typed.registerConverter _ (.nested (by simp [slots?, found]))
  | ask service question input =>
    rw [resolve_world]
    exact typed.surround (Surroundings.reaches_tables
      (.ask question .start))
  | @act id mapper action _ found owners comes =>
    obtain ⟨later, plans⟩ := typed.carryOut tabular found action
    -- The plan that an action yields fits, so its caller may keep it.
    obtain same | ⟨plan, name, yields, same⟩ := comes.later
    · rw [same]
      exact later
    · rw [same]
      refine later.keep name fun other told => ?_
      obtain rfl := Handle.plan.inj told
      rw [slots?_carryOut found]
      exact (plans _ yields).fits

/-- Serving a request leaves a typed session typed. -/
theorem serve_typed (typed : world.Typed) (tabular : world.Tabular) (held : List Hold)
    (request : Request κ) : (world.serve held request).2.Typed :=
  (world.serve_step held request).typed typed tabular

/-- Mappers keep their services, so a session was tabular if it has become so. -/
theorem Tabular.of_serve {held : List Hold} {request : Request κ}
    (tabular : (world.serve held request).2.Tabular) : world.Tabular := by
  intro mapper mem
  obtain ⟨id, found⟩ := List.mem_iff_getElem?.mp mem
  obtain ⟨table, service⟩ := tabular _ (List.mem_of_getElem? (serve_mapper found held request))
  have kept : (world.afterwards id mapper (Moment.action? id ⟨world, held, request⟩)).service =
      mapper.service := by
    cases Moment.action? id ⟨world, held, request⟩ with
    | none => rfl
    | some action => exact (action.perform_slots world.schema _ id mapper world.surroundings).2.2
  exact ⟨table, kept.symm.trans service⟩

theorem Tabular.of_history {last : World κ} {past : List (Moment κ)} (tabular : last.Tabular)
    (history : History world past last) : world.Tabular := by
  induction history with
  | start => exact tabular
  | write entry _ ih => exact ih tabular
  | clear _ ih => exact ih tabular
  | serve held request _ ih => exact ih tabular.of_serve

/-- Whatever has happened in a session, it is typed if all its mappers consult tables. -/
theorem Reachable.typed (reachable : world.Reachable) (tabular : world.Tabular) : world.Typed := by
  obtain ⟨schema, tracing, past, history⟩ := reachable
  induction history with
  | start => exact .initial schema tracing
  | write entry _ ih => exact (ih tabular).surround rfl
  | clear _ ih => exact (ih tabular).surround rfl
  | serve held request _ ih => exact serve_typed (ih tabular.of_serve) tabular.of_serve held request

theorem slots?_serve {held : List Hold} {request : Request κ} {id : MapperId} {pair : Slot × Slot}
    (known : world.slots? id = some pair) :
    (world.serve held request).2.slots? id = some pair := by
  obtain ⟨mapper, found, rfl⟩ := Option.map_eq_some_iff.mp known
  rw [slots?, serve_mapper found held request]
  cases Moment.action? id ⟨world, held, request⟩ with
  | none => rfl
  | some action =>
    have kept := action.perform_slots world.schema
      (Surroundings.dialogue world.schema mapper.service) id mapper world.surroundings
    simp [afterwards, performed, kept]

theorem History.slots? {last : World κ} {past : List (Moment κ)}
    (history : History world past last) {id : MapperId} {pair : Slot × Slot}
    (known : world.slots? id = some pair) : last.slots? id = some pair := by
  induction history with
  | start => exact known
  | write entry _ ih => exact ih
  | clear _ ih => exact ih
  | serve held request _ ih => exact slots?_serve ih

end Serve

end World

end RecordMapping
