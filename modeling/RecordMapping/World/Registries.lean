import RecordMapping.World.Mappers

namespace RecordMapping.World

variable {κ α : Type}

def registry (world : World κ) (id : Nat) : Registry κ := world.registries.getD id default

def setRegistry (world : World κ) (id : Nat) (registry : Registry κ) : World κ :=
  { world with registries := world.registries.set id registry }

/-- Lets a registry act on itself. -/
def consult (world : World κ) (id : Nat) (action : Registry κ → Outcome α × Registry κ) :
    Outcome α × World κ :=
  let (outcome, registry) := action (world.registry id)
  (outcome, world.setRegistry id registry)

/-- A stand-in logs its input and answers what it was made to answer. -/
def runStandIn (world : World κ) (double : StandIn) (input : Erased) : Launch κ Erased × World κ :=
  let outcome := match double.failure with
    | some cause => .error cause
    | none => .ok (world.schema.erase double.type double.value)
  (.now outcome, world.write (.standIn input))

/-- A custom mapper runs its closure, and judges what this has computed. -/
def runCustom [Closures κ] (world : World κ) (mapper : CustomMapper κ) (input : Erased) :
    Launch κ Erased × World κ :=
  (⟨[], do
    let result ← ExceptT.lift (Closures.compute mapper.compute input.value)
    liftM (mapper.judge result)⟩, world)

/-- Maps an erased value with the mapper that is registered for the pair when the call is made. -/
def dispatch [Closures κ] (world : World κ) (id : Nat) (dest : ValueType) (input : Erased) :
    Launch κ Erased × World κ :=
  match (world.registry id).lookup (input.type, dest) with
  | (.ok (.mapper mapperId _ _), _) =>
    match world.mappers[mapperId]? with
    | some mapper =>
      let (launch, world) := world.runErased mapperId mapper input
      (launch.holding (.registry id), world)
    | none => (.missing "", world)
  | (.ok (.standIn double), _) => world.runStandIn double input
  | (.ok (.custom mapper), _) =>
    let (launch, world) := world.runCustom mapper input
    (launch.holding (.registry id), world)
  | (.error cause, _) => (.now (.error cause), world)
  | (.panic text, _) => (.now (.panic text), world)

/-- Registers an entry under the types it reports. -/
def enroll (world : World κ) (id : Nat) (entry : Entry κ) : Launch κ Answer × World κ :=
  match world.consult id (·.register entry) with
  | (.ok (), world) =>
    (.now (.ok .unit), world.report (.mapperRegistered entry.types.1 entry.types.2))
  | (outcome, world) => (.now (outcome.map fun _ => .unit), world)

/-- A call on a registry. -/
def callRegistry [Closures κ] (world : World κ) (id : Nat) :
    Registry.Call κ → Launch κ Answer × World κ
  | .register name =>
    match world.handles.get? name with
    | some (.mapper mapperId) =>
      match world.mappers[mapperId]? with
      | some mapper => world.enroll id (.mapper mapperId mapper.source mapper.dest)
      | none => (.missing name, world)
    | _ => (.missing name, world)
  | .registerStandIn double => world.enroll id (.standIn double)
  | .registerCustom mapper => world.enroll id (.custom mapper)
  | .map source dest value =>
    let (launch, world) := world.dispatch id dest (world.schema.erase source value)
    (launch.check fun erased => (erased.valueAs dest).map .value, world)
  | .mapErased source dest value =>
    let (launch, world) := world.dispatch id dest (world.schema.erase source value)
    (launch.map .erased, world)
  | .contains source dest => answering (world.consult id (·.contains (source, dest))) .flag
  | .remove source dest => answering (world.consult id (·.remove (source, dest))) .flag
  | .size => answering (world.consult id (·.size)) fun size => .size size (size == 0)
  | .isEmpty => answering (world.consult id (·.size)) fun size => .flag (size == 0)
  | .pairs => answering (world.consult id (·.pairs)) .pairs
where
  answering {α : Type} (result : Outcome α × World κ) (answer : α → Answer) :
      Launch κ Answer × World κ :=
    (.now (result.1.map answer), result.2)

end RecordMapping.World
