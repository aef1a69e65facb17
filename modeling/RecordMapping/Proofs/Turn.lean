import RecordMapping.Proofs.Typing

namespace RecordMapping

variable {κ : Type}

structure Stock (κ : Type) where
  handles : OrderedMap String (Handle κ)
  registries : List (Registry κ)
  tables : List (Conversions κ)

def Stock.keep (stock : Stock κ) (name : String) (handle : Handle κ) : Stock κ :=
  { stock with handles := stock.handles.insert name handle }

namespace World

def stock (world : World κ) : Stock κ :=
  ⟨world.handles, world.registries, world.surroundings.tables⟩

/-- What a request can do to what a session names and has registered. -/
inductive Turn (world : World κ) (request : Request κ) :
    Option (Nat × Registry.Deed κ) → Option (Conversion κ) → Stock κ → Prop where
  | rest : Turn world request none none world.stock
  | keep {name : String} {handle : Handle κ} (plain : handle.plain = true) :
    Turn world request none none (world.stock.keep name handle)
  | copy {name other : String} {handle : Handle κ}
    (named : world.handles.get? other = some handle) :
    Turn world request none none (world.stock.keep name handle)
  | erased {name : String} {id : MapperId} {mapper : Mapper κ}
    (asks : world.Addresses request (.mapper id (.keepErased name)))
    (found : world.mappers[id]? = some mapper) :
    Turn world request none none (world.stock.keep name (.erasedMapper id))
  | drop {name : String} :
    Turn world request none none { world.stock with handles := world.handles.erase name }
  | newTable {name : String} :
    Turn world request none none
      ({ world.stock with tables := world.surroundings.tables ++ [default] }.keep name
        (.table world.surroundings.tables.length))
  | newMapper {name : String} {fresh : List (Conversions κ)}
    (blank : ∀ table ∈ fresh, table = default) :
    Turn world request none none
      ({ world.stock with tables := world.surroundings.tables ++ fresh }.keep name
        (.mapper world.mappers.length))
  | newRegistry {name : String} :
    Turn world request none none
      ({ world.stock with registries := world.registries ++ [default] }.keep name
        (.registry world.registries.length))
  | deed {id : Nat} {deed : Registry.Deed κ} :
    Turn world request (some (id, deed)) none
      { world.stock with registries := world.registries.set id (deed.onto (world.registry id)) }
  | convert {conversion : Conversion κ} :
    Turn world request none (some conversion)
      { world.stock with
        tables := world.surroundings.tables.set conversion.table
          ((world.surroundings.table conversion.table).register conversion.source conversion.dest
            conversion.converter) }

theorem stock_report (world : World κ) (event : Event) :
    (world.report event).stock = world.stock := by
  simp only [stock, report, Surroundings.report]
  split <;> rfl

theorem stock_registerConverter (world : World κ) (conversion : Conversion κ) :
    (world.registerConverter conversion.table conversion.source conversion.dest
      conversion.converter).stock =
      { world.stock with
        tables := world.surroundings.tables.set conversion.table
          ((world.surroundings.table conversion.table).register conversion.source conversion.dest
            conversion.converter) } :=
  stock_report { world with
    surroundings := world.surroundings.setTable conversion.table
      ((world.surroundings.table conversion.table).register conversion.source conversion.dest
        conversion.converter) } (.conversionRegistered conversion.source conversion.dest)

theorem stock_carryOut (world : World κ) (id : MapperId) (mapper : Mapper κ)
    (action : Mapper.Action κ) : (world.carryOut id mapper action).2.stock = world.stock := by
  simp only [stock, tables_carryOut]
  rfl

theorem stock_asked (world : World κ) (service : ServiceId) (question : Question) :
    (world.asked service question).stock = world.stock := by
  have reach : (Surroundings.dialogue world.schema service).Reaches world.surroundings
      (world.asked service question).surroundings := .ask question .start
  exact congrArg (Stock.mk world.handles world.registries) (Surroundings.reaches_tables reach)

variable [Closures κ]

/-- What a request bears on tells its turn. -/
theorem Step.turn {world : World κ} {held : List Hold} {request : Request κ} {bearing : Bearing κ}
    {served : Launch κ Answer × World κ} (step : world.Step held request bearing served) :
    world.Turn request bearing.deed bearing.conversion served.2.stock := by
  cases step with
  | start | note => exact .rest
  | keep plain => exact .keep plain
  | copy named => exact .copy named
  | erased asks found => exact .erased asks found
  | drop => exact .drop
  | newTable => exact .newTable
  | newService => exact .keep rfl
  | @newMapper name base made source dest service =>
    rcases made with rfl | rfl
    · have made : base.Turn request none none
          ({ base.stock with tables := base.surroundings.tables ++ [] }.keep name
            (.mapper base.mappers.length)) := .newMapper (by simp)
      rwa [List.append_nil] at made
    · exact .newMapper fun _ mem => List.mem_singleton.mp mem
  | newRegistry => exact .newRegistry
  | @enroll id entry =>
    obtain same | ⟨event, same⟩ := world.enroll_world id entry
    · rw [same]
      exact .deed
    · rw [same, stock_report]
      exact .deed
  | settle => exact .deed
  | @convert table source dest convert =>
    let conversion : Conversion κ := ⟨table, source, dest, .function source dest convert⟩
    exact world.stock_registerConverter conversion ▸ .convert
  | @nest table id mapper =>
    let conversion : Conversion κ :=
      ⟨table, .record mapper.source, .record mapper.dest, .nested id⟩
    exact world.stock_registerConverter conversion ▸ .convert
  | ask service question input =>
    rw [resolve_world, stock_asked]
    exact .rest
  | @act id mapper action _ found owners comes =>
    have same := world.stock_carryOut id mapper action
    obtain last | ⟨plan, name, -, last⟩ := comes.later
    · rw [last, same]
      exact .rest
    · have kept : served.2.stock = world.stock.keep name (.plan plan) := by
        rw [last, ← same]
        rfl
      rw [kept]
      exact .keep rfl

/-- Every request takes its turn, whoever makes it and whatever is held. -/
theorem serve_turn (world : World κ) (held : List Hold) (request : Request κ) :
    world.Turn request (world.deed? request) (world.conversion? request)
      (world.serve held request).2.stock :=
  (world.serve_step held request).turn

end World

end RecordMapping
