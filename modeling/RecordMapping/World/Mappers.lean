import RecordMapping.World.Launch

namespace RecordMapping.World

variable {κ α : Type}

/-- Lets a mapper act on itself and its surroundings. -/
def act (world : World κ) (id : MapperId) (mapper : Mapper κ)
    (action : Dialogue (Surroundings κ) κ → Mapper κ → Surroundings κ →
      Outcome α × Mapper κ × Surroundings κ) : Outcome α × World κ :=
  let (outcome, mapper, surroundings) :=
    action (Surroundings.dialogue world.schema mapper.service) mapper world.surroundings
  (outcome, { world with mappers := world.mappers.set id mapper, surroundings := surroundings })

def compile (world : World κ) (id : MapperId) (mapper : Mapper κ) : Outcome (Plan κ) × World κ :=
  world.act id mapper fun dialogue mapper => mapper.compile world.schema dialogue id

def recompile (world : World κ) (id : MapperId) (mapper : Mapper κ) : Outcome (Plan κ) × World κ :=
  world.act id mapper fun dialogue mapper => mapper.recompile world.schema dialogue id

/-- Runs a mapper on a record, with a build before the first run. -/
def runMapper [Closures κ] (world : World κ) (id : MapperId) (mapper : Mapper κ) (source : Record)
    (dest : Option Record) : Launch κ Record × World κ :=
  match world.compile id mapper with
  | (.ok plan, world) => (⟨[.mapper id], plan.run world.schema source dest⟩, world)
  | (.error cause, world) => (.now (.error cause), world)
  | (.panic text, world) => (.now (.panic text), world)

/-- Runs a mapper on an erased value, which has to be of its source type. -/
def runErased [Closures κ] (world : World κ) (id : MapperId) (mapper : Mapper κ) (input : Erased) :
    Launch κ Erased × World κ :=
  match input.valueAs (.record mapper.source) with
  | .error cause => (.now (.error cause), world)
  | .ok value =>
    let (launch, world) := world.runMapper id mapper value.fields none
    (launch.map fun dest => ⟨.record mapper.dest, .record dest⟩, world)

/-- Answers with a plan's summary, and keeps the plan if a name is given. -/
def present (keep : Option String) : Outcome (Plan κ) × World κ → Reply × World κ
  | (.ok plan, world) =>
    (.ok (.summary plan.build plan.assignments.length plan.bindings),
      keep.elim world fun name => world.keep name (.plan plan))
  | (.error cause, world) => (.error cause, world)
  | (.panic text, world) => (.panic text, world)

/-- Maps and compiles for a number of clients, one after the other. -/
def serveClients (id : MapperId) (source : Value) : Nat → Script κ (List (Reply × Reply))
  | 0 => return []
  | clients + 1 => do
    let mapped ← .ask (.mapper id (.map source none))
    let compiled ← .ask (.mapper id (.compile none))
    let rest ← serveClients id source clients
    return (mapped, compiled) :: rest

/-- The record that a client was given, or how its mapping failed. -/
def clientOutput : Reply → Outcome Value
  | .ok (.value value) => .ok value
  | .ok _ => .ok .null
  | .error cause => .error cause
  | .panic text => .panic text

/-- The number of the build that a reply to `compile` names. -/
def clientBuild? : Reply → Option Nat
  | .ok (.summary build _ _) => some build
  | _ => none

/-- The panic that ended a client's calls. -/
def clientPanic? : Reply × Reply → Option String
  | (.panic text, _) | (_, .panic text) => some text
  | _ => none

/-- What the clients got, and whether all plans that they were given are one. -/
def gather (replies : List (Reply × Reply)) : Outcome Answer :=
  match replies.findSome? clientPanic? with
  | some text => .panic text
  | none =>
    let builds := replies.filterMap fun reply => clientBuild? reply.2
    .ok (.outputs (replies.map fun reply => clientOutput reply.1)
      (builds.all fun build => builds.head? == some build))

/-- A call on a mapper. -/
def callMapper [Closures κ] (world : World κ) (id : MapperId) (mapper : Mapper κ) :
    MapperCall κ → Launch κ Answer × World κ
  | .ignore dest =>
    done (world.act id mapper fun dialogue mapper => mapper.ignore world.schema dialogue dest)
  | .assignMember dest source =>
    done (world.act id mapper fun dialogue mapper =>
      mapper.assignMember world.schema dialogue dest source)
  | .assignSource dest expression =>
    match world.handles.get? expression with
    | some (.source expr) => done (world.act id mapper fun dialogue mapper =>
        mapper.assignSource world.schema dialogue dest expr)
    | _ => (.missing expression, world)
  | .assignComputed dest type compute =>
    done (world.act id mapper fun dialogue mapper =>
      mapper.assignComputed world.schema dialogue dest type compute)
  | .runBefore hook => set .before fun config => { config with before := some hook }
  | .runAfter hook => set .after fun config => { config with after := some hook }
  | .construct constructor =>
    set .constructor fun config => { config with constructor := some constructor }
  | .compile keep => reply (present keep (world.compile id mapper))
  | .recompile keep => reply (present keep (world.recompile id mapper))
  | .isCompiled =>
    (.now (if mapper.poisoned then .error .lockPoisoned else .ok (.flag mapper.compiled.isSome)),
      world)
  | .compileCount => (.now (.ok (.count mapper.builds)), world)
  | .bindings =>
    let (outcome, world) := world.compile id mapper
    (.now (outcome.map fun plan => .bindings plan.bindings), world)
  | .map source dest =>
    let (launch, world) := world.runMapper id mapper (world.schema.record mapper.source source)
      (dest.map (world.schema.record mapper.dest))
    (launch.map fun dest => .value (.record dest), world)
  | .mapConcurrently clients source =>
    (⟨[.mapper id], ExceptT.lift (serveClients id source clients) >>= fun replies =>
      Launch.ofOutcome (gather replies)⟩, world)
  | .mapErased type source =>
    let (launch, world) := world.runErased id mapper (world.schema.erase type source)
    (launch.map .erased, world)
  | .keepErased keep => (.now (.ok .unit), world.keep keep (.erasedMapper id))
  | .keepService keep => (.now (.ok .unit), world.keep keep (.service mapper.service))
  | .types => (.now (.ok (.types [.record mapper.source, .record mapper.dest])), world)
where
  reply : Reply × World κ → Launch κ Answer × World κ
    | (reply, world) => (.now reply, world)
  done : Outcome Unit × World κ → Launch κ Answer × World κ
    | (outcome, world) => (.now (outcome.map fun _ => .unit), world)
  set (setting : Setting) (change : Config κ → Config κ) : Launch κ Answer × World κ :=
    done (world.act id mapper fun dialogue mapper => mapper.configure dialogue setting change)

end RecordMapping.World
