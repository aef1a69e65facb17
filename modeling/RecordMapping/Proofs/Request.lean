import RecordMapping.Proofs.Action
import RecordMapping.Proofs.Owners

namespace RecordMapping

variable {κ α β : Type}

namespace Mapper

/-- An erased value that is not of the source type is turned away before the mapper is used. -/
def erasedAction? (mapper : Mapper κ) (input : Erased) : Option (Action κ) :=
  if input.type = .record mapper.source then some .compile else none

def action? (handles : OrderedMap String (Handle κ)) (mapper : Mapper κ) :
    MapperCall κ → Option (Action κ)
  | .ignore dest => some (.ignore dest)
  | .assignMember dest source => some (.assignMember dest source)
  | .assignSource dest expression =>
    match handles.get? expression with
    | some (.source source) => some (.assignSource dest source)
    | _ => none
  | .assignComputed dest type compute => some (.assignComputed dest type compute)
  | .runBefore hook => some (.runBefore hook)
  | .runAfter hook => some (.runAfter hook)
  | .construct constructor => some (.construct constructor)
  | .compile _ | .bindings | .map _ _ => some .compile
  | .recompile _ => some .recompile
  | .mapErased type _ => if type = .record mapper.source then some .compile else none
  | _ => none

end Mapper

namespace World

def mapperAction? (world : World κ) (id : MapperId) (call : MapperCall κ) :
    Option (MapperId × Mapper.Action κ) :=
  match world.mappers[id]? with
  | some mapper => (mapper.action? world.handles call).map fun action => (id, action)
  | none => none

def erasedAction? (world : World κ) (id : MapperId) (input : Erased) :
    Option (MapperId × Mapper.Action κ) :=
  match world.mappers[id]? with
  | some mapper => (mapper.erasedAction? input).map fun action => (id, action)
  | none => none

def dispatchAction? (world : World κ) (registry : Nat) (dest : ValueType) (input : Erased) :
    Option (MapperId × Mapper.Action κ) :=
  match ((world.registry registry).lookup (input.type, dest)).1 with
  | .ok (.mapper id _ _) => world.erasedAction? id input
  | _ => none

def registryAction? (world : World κ) (registry : Nat) :
    Registry.Call κ → Option (MapperId × Mapper.Action κ)
  | .map source dest value | .mapErased source dest value =>
    world.dispatchAction? registry dest (world.schema.erase source value)
  | _ => none

def operationAction? (world : World κ) : Operation κ → Option (MapperId × Mapper.Action κ)
  | .mapper name call =>
    match world.handles.get? name with
    | some (.mapper id) => world.mapperAction? id call
    | _ => none
  | .callErased name type value =>
    match world.handles.get? name with
    | some (.erasedMapper id) => world.mapperAction? id (.mapErased type value)
    | _ => none
  | .registry name call =>
    match world.handles.get? name with
    | some (.registry id) => world.registryAction? id call
    | _ => none
  | _ => none

/-- The mapper that acts when a request is served, and what it does. -/
def action? (world : World κ) (held : List Hold) :
    Request κ → Option (MapperId × Mapper.Action κ)
  | .operation operation => world.operationAction? operation
  | .mapper id call => world.mapperAction? id call
  | .convert id input => if world.alive held id then world.erasedAction? id input else none
  | .registry id call => world.registryAction? id call
  | _ => none

end World

inductive Registry.Deed (κ : Type) where
  | enroll (entry : Entry κ)
  | remove (pair : ValueType × ValueType)
  /-- The pairs are asked for, or the debugging form. -/
  | list

def Registry.Deed.onto (registry : Registry κ) : Registry.Deed κ → Registry κ
  | .enroll entry => (registry.register entry).2
  | .remove pair => (registry.remove pair).2
  | .list => registry.pairs.2

theorem Registry.shown_onto (registry : Registry κ) :
    registry.shown.2 = Deed.list.onto registry := by
  unfold shown Deed.onto pairs guarded
  split <;> rfl

structure Conversion (κ : Type) where
  table : Nat
  source : ValueType
  dest : ValueType
  converter : Converter κ

/-- What a service writes down of the questions that it is asked: a table nothing, and one with
rules all. -/
def ServiceId.recorded : ServiceId → List Question → List Question
  | .table _, _ => []
  | .ruled _, questions => questions

namespace World

def callDeed? (world : World κ) : Registry.Call κ → Option (Registry.Deed κ)
  | .register name =>
    match world.handles.get? name with
    | some (.mapper id) =>
      match world.mappers[id]? with
      | some mapper => some (.enroll (.mapper id mapper.source mapper.dest))
      | none => none
    | _ => none
  | .registerStandIn double => some (.enroll (.standIn double))
  | .registerCustom mapper => some (.enroll (.custom mapper))
  | .remove source dest => some (.remove (source, dest))
  | .pairs => some .list
  | _ => none

/-- An entry is enrolled for a mapper that is named, or it is one that the call brings. -/
theorem enroll_cases {world : World κ} {call : Registry.Call κ} {entry : Entry κ}
    (enrolls : world.callDeed? call = some (.enroll entry)) :
    (∃ name id mapper, call = .register name ∧ world.handles.get? name = some (.mapper id) ∧
      world.mappers[id]? = some mapper ∧ entry = .mapper id mapper.source mapper.dest) ∨
    (∃ double, call = .registerStandIn double ∧ entry = .standIn double) ∨
    ∃ custom, call = .registerCustom custom ∧ entry = .custom custom := by
  unfold callDeed? at enrolls
  split at enrolls
  next name =>
    split at enrolls
    next id named =>
      split at enrolls
      next mapper found =>
        exact .inl ⟨name, id, mapper, rfl, named, found, by simpa [eq_comm] using enrolls⟩
      next => simp at enrolls
    next => simp at enrolls
  next double => exact .inr (.inl ⟨double, rfl, by simpa [eq_comm] using enrolls⟩)
  next custom => exact .inr (.inr ⟨custom, rfl, by simpa [eq_comm] using enrolls⟩)
  all_goals simp at enrolls

/-- The registry that a request changes, and what it does to it. -/
def deed? (world : World κ) : Request κ → Option (Nat × Registry.Deed κ)
  | .operation (.registry name call) =>
    match world.handles.get? name with
    | some (.registry id) => (world.callDeed? call).map fun deed => (id, deed)
    | _ => none
  | .operation (.inspect name) =>
    match world.handles.get? name with
    | some (.registry id) => some (id, .list)
    | _ => none
  | .registry id call => (world.callDeed? call).map fun deed => (id, deed)
  | _ => none

def conversion? (world : World κ) : Request κ → Option (Conversion κ)
  | .operation (.table name (.register source dest convert)) =>
    match world.table? name with
    | some id => some ⟨id, source, dest, .function source dest convert⟩
    | none => none
  | .operation (.table name (.registerMapper nested)) =>
    match world.table? name, world.mapper? nested with
    | some id, some (mapperId, mapper) =>
      some ⟨id, .record mapper.source, .record mapper.dest, .nested mapperId⟩
    | _, _ => none
  | _ => none

def posed (world : World κ) : Request κ → List Question
  | .operation (.resolve name question _ _) =>
    match world.service? name with
    | some service => service.recorded [question]
    | none => []
  | _ => []

/-- What an operation asks of the mapper or the registry that its handle names. -/
inductive Addresses (world : World κ) : Request κ → Request κ → Prop where
  | itself (request : Request κ) : Addresses world request request
  | mapper {name : String} {id : MapperId} {mapper : Mapper κ} (call : MapperCall κ)
    (named : world.handles.get? name = some (.mapper id))
    (found : world.mappers[id]? = some mapper) :
    Addresses world (.operation (.mapper name call)) (.mapper id call)
  | erased {name : String} {id : MapperId} {mapper : Mapper κ} (type : ValueType) (source : Value)
    (named : world.handles.get? name = some (.erasedMapper id))
    (found : world.mappers[id]? = some mapper) :
    Addresses world (.operation (.callErased name type source))
      (.mapper id (.mapErased type source))
  | registry {name : String} {id : Nat} (call : Registry.Call κ)
    (named : world.handles.get? name = some (.registry id)) :
    Addresses world (.operation (.registry name call)) (.registry id call)

theorem Addresses.serve [Closures κ] {world : World κ} {request core : Request κ}
    (addresses : world.Addresses request core) (held : List Hold) :
    world.serve held request = world.serve held core := by
  cases addresses with
  | itself => rfl
  | mapper call named found =>
    simp only [World.serve, perform, mapper?, named, found, Option.map_some]
  | erased type source named found => simp only [World.serve, perform, named, found]
  | registry call named => simp only [World.serve, perform, named]

def carryOut (world : World κ) (id : MapperId) (mapper : Mapper κ) (action : Mapper.Action κ) :
    Outcome (Option (Plan κ)) × World κ :=
  world.act id mapper fun dialogue mapper => action.perform world.schema dialogue id mapper

/-- No mapper has changed, though new ones may have been made. -/
structure Spared (world later : World κ) : Prop where
  schema : later.schema = world.schema
  mappers : ∃ fresh, later.mappers = world.mappers ++ fresh ∧
    ∀ mapper ∈ fresh, ∃ source dest service, mapper = .new source dest service

theorem Spared.of_same {world later : World κ} (schema : later.schema = world.schema)
    (mappers : later.mappers = world.mappers) : world.Spared later :=
  ⟨schema, [], by simp [mappers], by simp⟩

/-- What a caller is given when the action that it caused has ended: `given` if the action
succeeded, and else the action's own failure. -/
def Comes (given : β → World κ → Launch κ α × World κ → Prop) :
    Outcome β × World κ → Launch κ α × World κ → Prop
  | (.ok result, world), served => given result world served
  | (.error cause, world), served => served.1.script = throw cause ∧ served.2 = world
  | (.panic text, world), served => served.1.script = ExceptT.mk (.panic text) ∧ served.2 = world

end World

/-- A run of a plan; `finish` is what is made of the record that it yields. -/
structure Plan.Runs [Closures κ] (finish : Record → Except MappingError α) (plan : Plan κ)
    (world : World κ) (served : Launch κ α × World κ) : Prop where
  script : ∃ source dest, served.1.script =
    plan.run world.schema source dest >>= fun record => liftM (finish record)
  world : served.2 = world

def Erased.ofRecord (slot : Slot) (record : Record) : Erased := ⟨.record slot, .record record⟩

/-- How a mapped record is handed on: as it is, erased, or as a value of the type asked for. -/
inductive Answer.Hands : (Record → Except MappingError Answer) → Prop where
  | value : Hands fun record => .ok (.value (.record record))
  | erased (slot : Slot) : Hands fun record => .ok (.erased (.ofRecord slot record))
  | expected (slot : Slot) (type : ValueType) :
    Hands fun record => ((Erased.ofRecord slot record).valueAs type).map .value

/-- The caller is given the plan itself, its bindings, or the record that a run of it yields, and
nothing else happens. -/
inductive Plan.Serves [Closures κ] (plan : Plan κ) (world : World κ) :
    Launch κ Answer × World κ → Prop where
  | plan (keep : Option String) :
    Serves plan world
      (.now (.ok (.summary plan.build plan.assignments.length plan.bindings)),
        keep.elim world fun name => world.keep name (.plan plan))
  | bindings : Serves plan world (.now (.ok (.bindings plan.bindings)), world)
  | run {finish : Record → Except MappingError Answer} {served : Launch κ Answer × World κ}
    (hands : Answer.Hands finish) (runs : plan.Runs finish world served) : Serves plan world served

/-- The caller of an action is given the plan that the action yields, or told that it is done. -/
inductive World.Given [Closures κ] :
    Option (Plan κ) → World κ → Launch κ Answer × World κ → Prop where
  | done {world : World κ} : Given none world (.now (.ok .unit), world)
  | plan {plan : Plan κ} {world : World κ} {served : Launch κ Answer × World κ}
    (serves : plan.Serves world served) : Given (some plan) world served

namespace World

section Runs

variable [Closures κ]

theorem runMapper_comes (world : World κ) (id : MapperId) (mapper : Mapper κ) (source : Record)
    (dest : Option Record) :
    Comes (Plan.Runs .ok) (world.compile id mapper) (world.runMapper id mapper source dest) := by
  unfold runMapper
  split
  next plan next compiled =>
    rw [compiled]
    exact ⟨⟨source, dest, (bind_pure _).symm⟩, rfl⟩
  next cause next compiled =>
    rw [compiled]
    exact ⟨rfl, rfl⟩
  next text next compiled =>
    rw [compiled]
    exact ⟨rfl, rfl⟩

section Results

variable {done : Outcome (Plan κ) × World κ} {served : Launch κ α × World κ}
  {finish : Record → Except MappingError α}

theorem Comes.check (comes : Comes (Plan.Runs finish) done served)
    (f : α → Except MappingError β) :
    Comes (Plan.Runs fun record => finish record >>= f) done (served.1.check f, served.2) := by
  obtain ⟨outcome, next⟩ := done
  cases outcome with
  | ok plan =>
    obtain ⟨⟨source, dest, script⟩, same⟩ := comes
    refine ⟨⟨source, dest, ?_⟩, same⟩
    simp only [Launch.check, script, bind_assoc]
    congr 1
    funext record
    cases finish record <;> rfl
  | error cause => exact ⟨by rw [Launch.check, comes.1]; rfl, comes.2⟩
  | panic text => exact ⟨by rw [Launch.check, comes.1]; rfl, comes.2⟩

theorem Comes.holding (comes : Comes (Plan.Runs finish) done served) (holds : List Hold) :
    Comes (Plan.Runs finish) done (⟨holds, served.1.script⟩, served.2) := by
  obtain ⟨outcome, next⟩ := done
  cases outcome with
  | ok plan => exact ⟨comes.script, comes.world⟩
  | error cause => exact comes
  | panic text => exact comes

end Results

/-- What comes of a request: its caller is given what the action at which it aims yields. -/
def Follows (world : World κ) (aim : Option (MapperId × Mapper.Action κ))
    (served : Launch κ Answer × World κ) : Prop :=
  match aim with
  | some (id, action) => ∃ mapper, world.mappers[id]? = some mapper ∧
    Comes Given (world.carryOut id mapper action) served
  | none => world.Spared served.2

theorem Comes.serves {done : Outcome (Plan κ) × World κ} {served : Launch κ Answer × World κ}
    (comes : Comes Plan.Serves done served) : Comes Given (done.1.map some, done.2) served := by
  obtain ⟨outcome, next⟩ := done
  cases outcome with
  | ok plan => exact .plan comes
  | error cause => exact comes
  | panic text => exact comes

theorem Comes.runs {done : Outcome (Plan κ) × World κ} {served : Launch κ Answer × World κ}
    {finish : Record → Except MappingError Answer} (comes : Comes (Plan.Runs finish) done served)
    (hands : Answer.Hands finish) : Comes Plan.Serves done served := by
  obtain ⟨outcome, next⟩ := done
  cases outcome with
  | ok plan => exact .run hands comes
  | error cause => exact comes
  | panic text => exact comes

/-- What an action comes to is passed on, if `answered` passes on its failures. -/
theorem act_comes {β : Type} {result : β → Option (Plan κ)}
    (answered : Outcome β × World κ → Launch κ Answer × World κ)
    (given : ∀ value next, Given (result value) next (answered (.ok value, next)))
    (failed : ∀ cause next, answered (.error cause, next) = (.now (.error cause), next))
    (cut : ∀ text next, answered (.panic text, next) = (.now (.panic text), next))
    (world : World κ) (id : MapperId) (mapper : Mapper κ)
    (act : Dialogue (Surroundings κ) κ → Mapper κ → Surroundings κ →
      Outcome β × Mapper κ × Surroundings κ) :
    Comes Given (world.act id mapper fun dialogue mapper state =>
        ((act dialogue mapper state).1.map result, (act dialogue mapper state).2))
      (answered (world.act id mapper act)) := by
  simp only [World.act]
  generalize act _ mapper world.surroundings = done
  obtain ⟨outcome, mapper, surroundings⟩ := done
  cases outcome with
  | ok value => exact given value _
  | error cause =>
    dsimp only [Outcome.map]
    rw [failed]
    exact ⟨rfl, rfl⟩
  | panic text =>
    dsimp only [Outcome.map]
    rw [cut]
    exact ⟨rfl, rfl⟩

end Runs

end World

end RecordMapping
