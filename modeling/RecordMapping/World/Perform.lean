import RecordMapping.World.Registries

namespace RecordMapping.World

variable {κ α : Type}

/-- The table that a handle names. -/
def table? (world : World κ) (name : String) : Option Nat :=
  match world.handles.get? name with
  | some (.table id) => some id
  | _ => none

/-- The mapping service that a handle names; a table is one. -/
def service? (world : World κ) (name : String) : Option ServiceId :=
  match world.handles.get? name with
  | some (.table id) => some (.table id)
  | some (.service id) => some id
  | _ => none

/-- The mapper that a handle names. -/
def mapper? (world : World κ) (name : String) : Option (MapperId × Mapper κ) :=
  match world.handles.get? name with
  | some (.mapper id) => world.mappers[id]?.map fun mapper => (id, mapper)
  | _ => none

def newTable (world : World κ) : Nat × World κ :=
  let surroundings := world.surroundings
  (surroundings.tables.length,
    { world with surroundings := { surroundings with tables := surroundings.tables ++ [default] } })

def newService (world : World κ) (service : RuledService κ) : Nat × World κ :=
  let surroundings := world.surroundings
  (surroundings.services.length,
    { world with
      surroundings := { surroundings with services := surroundings.services ++ [service] } })

def newMapper (world : World κ) (mapper : Mapper κ) : MapperId × World κ :=
  (world.mappers.length, { world with mappers := world.mappers ++ [mapper] })

/-- Registers a converter with a table of the session. -/
def registerConverter (world : World κ) (table : Nat) (source dest : ValueType)
    (converter : Converter κ) : World κ :=
  let surroundings := world.surroundings
  let surroundings :=
    surroundings.setTable table ((surroundings.table table).register source dest converter)
  { world with surroundings := surroundings.report (.conversionRegistered source dest) }

def answered (outcome : Outcome Answer) (world : World κ) : Launch κ Answer × World κ :=
  (.now outcome, world)

/-- A call on a conversion table. -/
def callTable (world : World κ) (table : Nat) : TableCall κ → Launch κ Answer × World κ
  | .register source dest convert =>
    answered (.ok .unit)
      (world.registerConverter table source dest (.function source dest convert))
  | .registerMapper name =>
    match world.mapper? name with
    | some (id, mapper) => answered (.ok .unit)
        (world.registerConverter table (.record mapper.source) (.record mapper.dest) (.nested id))
    | none => (.missing name, world)
  | .contains source dest =>
    answered (.ok (.flag ((world.surroundings.table table).contains source dest))) world

/-- Asks a service and applies the converter it offers. -/
def resolve [Closures κ] (world : World κ) (service : ServiceId) (question : Question)
    (input : Erased) : Launch κ Answer × World κ :=
  let (resolution, surroundings) := world.surroundings.ask world.schema service question
  let world := { world with surroundings := surroundings }
  match resolution with
  | .convert converter => (⟨[], .erased <$> converter.apply world.schema input⟩, world)
  | .refuse error => answered (.error error) world
  | .panic text => answered (.panic text) world

/-- A call on an erased value. -/
def callErased [Closures κ] (world : World κ) (name : String) (erased : Erased) :
    ErasedCall κ → Launch κ Answer × World κ
  | .isType type | .hasType type => answered (.ok (.flag (erased.isType type))) world
  | .get type =>
    answered (.ok (.optional (if erased.isType type then some erased.value else none))) world
  | .modify type change =>
    if erased.isType type then
      (⟨[], ExceptT.lift (do
        let value ← Closures.compute change erased.value
        let _ ← Script.ask (.keep name (world.schema.erase type value))
        return .flag true)⟩, world)
    else answered (.ok (.flag false)) world
  | .take type =>
    answered (.ofExcept ((erased.valueAs type).map .value)) (world.drop name)

/-- Makes a source expression of a slot, and names it. -/
def keepSource (world : World κ) (keep : String) (expr : Source κ) :
    Launch κ Answer × World κ :=
  answered (.ok (.source expr.label expr.valueType (expr.signature = ⟨expr.label, expr.valueType⟩)))
    (world.keep keep (.source expr))

/-- The debugging form of what a handle names. -/
def inspect (world : World κ) (name : String) : Launch κ Answer × World κ :=
  match world.handles.get? name with
  | some (.mapper id) =>
    match world.mappers[id]? with
    | some mapper => answered (.ok (.text mapper.shown)) world
    | none => (.missing name, world)
  | some (.plan plan) => answered (.ok (.text plan.shown)) world
  | some (.source expr) => answered (.ok (.text expr.shown)) world
  | some (.erased erased) => answered (.ok (.text erased.shown)) world
  | some (.registry id) =>
    let (outcome, world) := world.consult id (·.shown)
    answered (outcome.map .text) world
  | _ => (.missing name, world)

/-- Whether two handles name one plan or the erased form of one mapper. -/
def same (world : World κ) (left right : String) : Bool :=
  match world.handles.get? left, world.handles.get? right with
  | some (.plan plan), some (.plan other) => plan.is other
  | some (.erasedMapper id), some (.erasedMapper other) => id = other
  | _, _ => false

/-- Performs an operation up to the script that it sets going. -/
def perform [Closures κ] (world : World κ) : Operation κ → Launch κ Answer × World κ
  | .newTable keep =>
    let (id, world) := world.newTable
    answered (.ok .unit) (world.keep keep (.table id))
  | .table name call =>
    match world.table? name with
    | some id => world.callTable id call
    | none => (.missing name, world)
  | .newService keep table rules =>
    match world.table? table with
    | some id =>
      let (service, world) := world.newService ⟨id, rules⟩
      answered (.ok .unit) (world.keep keep (.service (.ruled service)))
    | none => (.missing table, world)
  | .resolve service question type value =>
    match world.service? service with
    | some id => world.resolve id question (world.schema.erase type value)
    | none => (.missing service, world)
  | .newMapper keep source dest none =>
    let (table, world) := world.newTable
    let (id, world) := world.newMapper (.new source dest (.table table))
    answered (.ok .unit) (world.keep keep (.mapper id))
  | .newMapper keep source dest (some service) =>
    match world.service? service with
    | some service =>
      let (id, world) := world.newMapper (.new source dest service)
      answered (.ok .unit) (world.keep keep (.mapper id))
    | none => (.missing service, world)
  | .mapper name call =>
    match world.mapper? name with
    | some (id, mapper) => world.callMapper id mapper call
    | none => (.missing name, world)
  | .callErased name type value =>
    match world.handles.get? name with
    | some (.erasedMapper id) =>
      match world.mappers[id]? with
      | some mapper => world.callMapper id mapper (.mapErased type value)
      | none => (.missing name, world)
    | _ => (.missing name, world)
  | .planInfo name =>
    match world.handles.get? name with
    | some (.plan plan) =>
      answered (.ok (.summary plan.build plan.assignments.length plan.bindings)) world
    | _ => (.missing name, world)
  | .planRun name source dest =>
    match world.handles.get? name with
    | some (.plan plan) =>
      let run := plan.run world.schema (world.schema.record plan.source source)
        (dest.map (world.schema.record plan.dest))
      (⟨[], (fun record => .value (.record record)) <$> run⟩, world)
    | _ => (.missing name, world)
  | .memberSource keep slot name =>
    match Property.readableMember (Slot.typeName slot) (world.schema.properties slot) name with
    | .ok property => world.keepSource keep (.member property)
    | .error error => answered (.error error) world
  | .computedSource keep _ type label compute =>
    world.keepSource keep (.computed label type compute)
  | .members slot =>
    answered (.ok (.members ((world.schema.properties slot).map Property.report))) world
  | .newRegistry keep =>
    answered (.ok .unit)
      ({ world with registries := world.registries ++ [default] }.keep keep
        (.registry world.registries.length))
  | .registry name call =>
    match world.handles.get? name with
    | some (.registry id) => world.callRegistry id call
    | _ => (.missing name, world)
  | .newErased keep type value =>
    answered (.ok (.text type.name)) (world.keep keep (.erased (world.schema.erase type value)))
  | .erased name call =>
    match world.handles.get? name with
    | some (.erased erased) => world.callErased name erased call
    | _ => (.missing name, world)
  | .compareTypes left right other =>
    answered (.ok (.identity (left = right) ((left, right) = other) left right)) world
  | .examine error other => answered (.ok (.failure error (error = other) (error = error))) world
  | .copy keep name =>
    match world.handles.get? name with
    | some handle => answered (.ok .unit) (world.keep keep handle)
    | none => (.missing name, world)
  | .drop name => answered (.ok (.flag (world.handles.contains name))) (world.drop name)
  | .same left right => answered (.ok (.flag (world.same left right))) world
  | .inspect name => world.inspect name

/-- Runs a closure and then asks for what its value is to be used for, holding on to what was looked
up before. -/
def withComputed [Closures κ] (hold : Hold) (input : κ) (scope : Scope)
    (request : Value → Request κ) : Launch κ Answer :=
  ⟨[hold], do
    let value ← ExceptT.lift (Closures.run input scope)
    let reply ← ExceptT.lift (Script.ask (request value))
    Launch.ofOutcome reply⟩

/-- Serves a request, given what the suspended operations hold. A nested mapping finds out here
whether its mapper is still alive. -/
def serve [Closures κ] (world : World κ) (held : List Hold) :
    Request κ → Launch κ Answer × World κ
  | .operation operation => world.perform operation
  | .mapper id call =>
    match world.mappers[id]? with
    | some mapper => world.callMapper id mapper call
    | none => (.missing "", world)
  | .convert id input =>
    match world.mappers[id]? with
    | some mapper =>
      if world.alive held id then
        let (launch, world) := world.runErased id mapper input
        (launch.map .erased, world)
      else
        answered (.error (.mapperDropped (Slot.typeName mapper.source) (Slot.typeName mapper.dest)))
          world
    | none => (.missing "", world)
  | .registry id call => world.callRegistry id call
  | .keep name erased => answered (.ok .unit) (world.keep name (.erased erased))
  | .mapComputed name input scope =>
    match world.handles.get? name with
    | some (.mapper id) =>
      (withComputed (.mapper id) input scope fun value => .mapper id (.map value none), world)
    | _ => (.missing name, world)
  | .dispatchComputed name source dest input scope =>
    match world.handles.get? name with
    | some (.registry id) =>
      (withComputed (.registry id) input scope fun value => .registry id (.map source dest value),
        world)
    | _ => (.missing name, world)

end RecordMapping.World
