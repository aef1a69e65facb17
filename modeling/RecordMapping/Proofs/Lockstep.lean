import Mathlib.Data.List.Forall2
import RecordMapping.Proofs.Action
import RecordMapping.Proofs.Spelling

namespace RecordMapping

variable {κ α β : Type}

/-- The same surroundings, but for alike entries of the log. -/
inductive Surroundings.InStep (surroundings : Surroundings κ) : Surroundings κ → Prop where
  | logged {log : List LogEntry} (alike : List.Forall₂ LogEntry.Alike surroundings.log log) :
    InStep surroundings { surroundings with log := log }

namespace Surroundings.InStep

variable {surroundings other : Surroundings κ}

theorem refl (surroundings : Surroundings κ) : surroundings.InStep surroundings :=
  .logged (List.forall₂_same.mpr fun entry _ => .same entry)

theorem write (inStep : surroundings.InStep other) {entry entry' : LogEntry}
    (alike : entry.Alike entry') : (surroundings.write entry).InStep (other.write entry') := by
  obtain ⟨logs⟩ := inStep
  exact .logged (List.rel_append logs (.cons alike .nil))

theorem report (inStep : surroundings.InStep other) (event : Event) :
    (surroundings.report event).InStep (other.report event) := by
  have written := inStep.write (.same (.event event))
  obtain ⟨tables, services, log, tracing⟩ := surroundings
  obtain ⟨logs⟩ := inStep
  cases tracing with
  | true => exact written
  | false => exact .logged logs

theorem setTable (inStep : surroundings.InStep other) (id : Nat) (table : Conversions κ) :
    (surroundings.setTable id table).InStep (other.setTable id table) := by
  obtain ⟨logs⟩ := inStep
  exact .logged logs

/-- A service answers both alike, and both remember the same of it. -/
theorem ask (inStep : surroundings.InStep other) (schema : Schema) (service : ServiceId)
    (question : Question) :
    (surroundings.ask schema service question).1 = (other.ask schema service question).1 ∧
      (surroundings.ask schema service question).2.InStep
        (other.ask schema service question).2 := by
  obtain ⟨logs⟩ := inStep
  cases service with
  | table id => exact ⟨rfl, .logged logs⟩
  | ruled id =>
    have logs' := List.rel_append logs (.cons (.same (.asked question)) .nil)
    simp only [Surroundings.ask, Surroundings.write]
    split
    next => exact ⟨rfl, .logged logs'⟩
    next => exact ⟨rfl, .logged logs'⟩

theorem dialogue (schema : Schema) (service : ServiceId) :
    (Surroundings.dialogue schema service : Dialogue (Surroundings κ) κ).Similar
      (Surroundings.dialogue schema service) InStep where
  answer inStep question := (inStep.ask schema service question).1
  ask inStep question := (inStep.ask schema service question).2
  report inStep event := inStep.report event

end Surroundings.InStep

namespace World

/-- The same session, but for alike entries of its log. -/
inductive InStep (world : World κ) : World κ → Prop where
  | around {surroundings : Surroundings κ} (inStep : world.surroundings.InStep surroundings) :
    InStep world { world with surroundings := surroundings }

namespace InStep

variable {world other : World κ}

theorem refl (world : World κ) : world.InStep world := .around (.refl world.surroundings)

section Parts

variable (inStep : world.InStep other)

include inStep

theorem schema : other.schema = world.schema := by
  obtain ⟨-⟩ := inStep
  rfl

theorem mappers : other.mappers = world.mappers := by
  obtain ⟨-⟩ := inStep
  rfl

theorem handles : other.handles = world.handles := by
  obtain ⟨-⟩ := inStep
  rfl

theorem registry (id : Nat) : other.registry id = world.registry id := by
  obtain ⟨-⟩ := inStep
  rfl

theorem surroundings : world.surroundings.InStep other.surroundings := by
  obtain ⟨inStep⟩ := inStep
  exact inStep

theorem log : List.Forall₂ LogEntry.Alike world.surroundings.log other.surroundings.log := by
  obtain ⟨⟨alike⟩⟩ := inStep
  exact alike

theorem table (id : Nat) : other.surroundings.table id = world.surroundings.table id := by
  obtain ⟨⟨-⟩⟩ := inStep
  rfl

theorem alive (held : List Hold) (id : MapperId) : other.alive held id = world.alive held id := by
  obtain ⟨-⟩ := inStep
  rfl

theorem same (left right : String) : other.same left right = world.same left right := by
  obtain ⟨-⟩ := inStep
  rfl

theorem within {early late : Surroundings κ} (inStep' : early.InStep late) :
    InStep { world with surroundings := early } { other with surroundings := late } := by
  obtain ⟨-⟩ := inStep
  exact .around inStep'

theorem write {entry entry' : LogEntry} (alike : entry.Alike entry') :
    (world.write entry).InStep (other.write entry') := by
  obtain ⟨inStep⟩ := inStep
  exact .around (inStep.write alike)

theorem report (event : Event) : (world.report event).InStep (other.report event) := by
  obtain ⟨inStep⟩ := inStep
  exact .around (inStep.report event)

theorem clearLog : world.clearLog = other.clearLog := by
  obtain ⟨⟨-⟩⟩ := inStep
  rfl

theorem keep (name : String) (handle : Handle κ) :
    (world.keep name handle).InStep (other.keep name handle) := by
  obtain ⟨inStep⟩ := inStep
  exact .around inStep

theorem drop (name : String) : (world.drop name).InStep (other.drop name) := by
  obtain ⟨inStep⟩ := inStep
  exact .around inStep

theorem setRegistry (id : Nat) (registry : Registry κ) :
    (world.setRegistry id registry).InStep (other.setRegistry id registry) := by
  obtain ⟨inStep⟩ := inStep
  exact .around inStep

theorem registerConverter (table : Nat) (source dest : ValueType) (converter : Converter κ) :
    (world.registerConverter table source dest converter).InStep
      (other.registerConverter table source dest converter) := by
  simp only [World.registerConverter, inStep.table]
  obtain ⟨inStep⟩ := inStep
  exact .around ((inStep.setTable _ _).report _)

end Parts

end InStep

inductive Agree : α × World κ → α × World κ → Prop where
  | both (result : α) {world other : World κ} (inStep : world.InStep other) :
    Agree (result, world) (result, other)

/-- What is set going holds on to the same, the scripts differ in nothing but their spelling, and
the sessions are in step. -/
structure Paced (x y : Launch κ α × World κ) : Prop where
  holds : x.1.holds = y.1.holds
  script : x.1.script.run.Respelled y.1.script.run
  world : x.2.InStep y.2

namespace InStep

variable {world other : World κ} (inStep : world.InStep other)

include inStep

theorem same_launch (launch : Launch κ α) : Paced (launch, world) (launch, other) :=
  ⟨rfl, .refl _, inStep⟩

theorem newTable : Agree world.newTable other.newTable := by
  obtain ⟨⟨logs⟩⟩ := inStep
  exact .both _ (.around (.logged logs))

theorem newService (service : RuledService κ) :
    Agree (world.newService service) (other.newService service) := by
  obtain ⟨⟨logs⟩⟩ := inStep
  exact .both _ (.around (.logged logs))

theorem newMapper (mapper : Mapper κ) :
    Agree (world.newMapper mapper) (other.newMapper mapper) := by
  obtain ⟨inStep⟩ := inStep
  exact .both _ (.around inStep)

theorem newRegistry (keep : String) :
    ({ world with registries := world.registries ++ [default] }.keep keep
        (.registry world.registries.length)).InStep
      ({ other with registries := other.registries ++ [default] }.keep keep
        (.registry other.registries.length)) := by
  obtain ⟨inStep⟩ := inStep
  exact .around inStep

theorem consult (id : Nat) (action : Registry κ → Outcome α × Registry κ) :
    Agree (world.consult id action) (other.consult id action) := by
  simp only [World.consult, inStep.registry]
  exact .both _ (inStep.setRegistry id _)

/-- A mapper that acts alike in surroundings in step does so in the sessions. -/
theorem act (id : MapperId) (mapper : Mapper κ)
    {action : Dialogue (Surroundings κ) κ → Mapper κ → Surroundings κ →
      Outcome α × Mapper κ × Surroundings κ}
    (alike : ∀ {s t : Surroundings κ}, s.InStep t →
      Alike Surroundings.InStep
        (action (Surroundings.dialogue world.schema mapper.service) mapper s)
        (action (Surroundings.dialogue world.schema mapper.service) mapper t)) :
    Agree (world.act id mapper action) (other.act id mapper action) := by
  obtain ⟨inStep⟩ := inStep
  obtain ⟨result, value, state⟩ := alike inStep
  simp only [World.act]
  rw [← result, ← value]
  exact .both _ (.around state)

theorem compile (id : MapperId) (mapper : Mapper κ) :
    Agree (world.compile id mapper) (other.compile id mapper) := by
  simp only [World.compile, inStep.schema]
  exact inStep.act id mapper ((Surroundings.InStep.dialogue _ _).compile _ _ _)

theorem recompile (id : MapperId) (mapper : Mapper κ) :
    Agree (world.recompile id mapper) (other.recompile id mapper) := by
  simp only [World.recompile, inStep.schema]
  exact inStep.act id mapper ((Surroundings.InStep.dialogue _ _).recompile _ _ _)

end InStep

theorem Agree.present {x y : Outcome (Plan κ) × World κ} (agree : Agree x y)
    (keep : Option String) : Agree (present keep x) (present keep y) := by
  obtain ⟨outcome, inStep⟩ := agree
  cases outcome with
  | ok plan =>
    cases keep with
    | none => exact .both _ inStep
    | some name => exact .both _ (inStep.keep name _)
  | error cause => exact .both _ inStep
  | panic text => exact .both _ inStep

/-- What is over at once, with a result that the sessions agree on. -/
theorem Agree.now {x y : Outcome α × World κ} (agree : Agree x y) (f : Outcome α → Outcome β) :
    Paced (.now (f x.1), x.2) (.now (f y.1), y.2) := by
  obtain ⟨result, inStep⟩ := agree
  exact inStep.same_launch _

theorem Agree.bind {x y : α × World κ} (agree : Agree x y) {f : α → World κ → β × World κ}
    (rest : ∀ result (world other : World κ), world.InStep other →
      Agree (f result world) (f result other)) : Agree (f x.1 x.2) (f y.1 y.2) := by
  obtain ⟨result, inStep⟩ := agree
  exact rest result _ _ inStep

/-- What is made anew has its handle kept under the same name in both sessions. -/
theorem Agree.kept {x y : α × World κ} (agree : Agree x y) (keep : String)
    (handle : α → Handle κ) :
    Paced (answered (.ok .unit) (x.2.keep keep (handle x.1)))
      (answered (.ok .unit) (y.2.keep keep (handle y.1))) := by
  obtain ⟨result, inStep⟩ := agree
  exact (inStep.keep keep _).same_launch _

namespace Paced

variable {x y : Launch κ α × World κ} (paced : Paced x y)

include paced

theorem map (f : α → β) : Paced (x.1.map f, x.2) (y.1.map f, y.2) :=
  ⟨paced.holds, paced.script.run_map f, paced.world⟩

theorem check (f : α → Except MappingError β) : Paced (x.1.check f, x.2) (y.1.check f, y.2) :=
  ⟨paced.holds, paced.script.run_bind fun _ => .refl _, paced.world⟩

theorem holding (hold : Hold) : Paced (x.1.holding hold, x.2) (y.1.holding hold, y.2) :=
  ⟨congrArg (hold :: ·) paced.holds, paced.script, paced.world⟩

end Paced

section Serve

variable {world other : World κ}

theorem callTable_paced (inStep : world.InStep other) (table : Nat) (call : TableCall κ) :
    Paced (world.callTable table call) (other.callTable table call) := by
  cases call with
  | register source dest convert => exact (inStep.registerConverter _ _ _ _).same_launch _
  | registerMapper name =>
    simp only [callTable, mapper?, inStep.handles, inStep.mappers]
    split
    next => exact (inStep.registerConverter _ _ _ _).same_launch _
    next => exact inStep.same_launch _
  | contains source dest =>
    simp only [callTable, inStep.table]
    exact inStep.same_launch _

theorem enroll_paced (inStep : world.InStep other) (id : Nat) (entry : Entry κ) :
    Paced (world.enroll id entry) (other.enroll id entry) := by
  have agree := inStep.consult id (·.register entry)
  unfold enroll
  generalize world.consult id (·.register entry) = here at agree ⊢
  generalize other.consult id (·.register entry) = there at agree ⊢
  obtain ⟨outcome, inStep⟩ := agree
  cases outcome with
  | ok result => exact (inStep.report _).same_launch _
  | error cause => exact inStep.same_launch _
  | panic text => exact inStep.same_launch _

theorem runStandIn_paced (inStep : world.InStep other) (double : StandIn) (input : Erased) :
    Paced (world.runStandIn double input) (other.runStandIn double input) := by
  simp only [runStandIn, inStep.schema]
  exact (inStep.write (.same _)).same_launch _

theorem keepSource_paced (inStep : world.InStep other) (keep : String) (expr : Source κ) :
    Paced (world.keepSource keep expr) (other.keepSource keep expr) :=
  (inStep.keep keep _).same_launch _

theorem inspect_paced (inStep : world.InStep other) (name : String) :
    Paced (world.inspect name) (other.inspect name) := by
  simp only [inspect, inStep.handles, inStep.mappers]
  split
  next => split <;> exact inStep.same_launch _
  next => exact inStep.same_launch _
  next => exact inStep.same_launch _
  next => exact inStep.same_launch _
  next id _ => exact (inStep.consult id (·.shown)).now fun outcome => outcome.map Answer.text
  next => exact inStep.same_launch _

variable {first second : Closures κ} (respelled : first.Respelled second)

include respelled

theorem runMapper_paced (inStep : world.InStep other) (id : MapperId) (mapper : Mapper κ)
    (source : Record) (dest : Option Record) :
    Paced (@runMapper κ first world id mapper source dest)
      (@runMapper κ second other id mapper source dest) := by
  have agree := inStep.compile id mapper
  unfold runMapper
  generalize world.compile id mapper = here at agree ⊢
  generalize other.compile id mapper = there at agree ⊢
  obtain ⟨outcome, inStep⟩ := agree
  cases outcome with
  | ok plan =>
    simp only [inStep.schema]
    exact ⟨rfl, plan.run_respelled respelled _ _ _, inStep⟩
  | error cause => exact inStep.same_launch _
  | panic text => exact inStep.same_launch _

theorem runErased_paced (inStep : world.InStep other) (id : MapperId) (mapper : Mapper κ)
    (input : Erased) :
    Paced (@runErased κ first world id mapper input)
      (@runErased κ second other id mapper input) := by
  unfold runErased
  split
  next => exact inStep.same_launch _
  next => exact (runMapper_paced respelled inStep id mapper _ _).map _

theorem runCustom_paced (inStep : world.InStep other) (mapper : CustomMapper κ) (input : Erased) :
    Paced (@runCustom κ first world mapper input) (@runCustom κ second other mapper input) :=
  ⟨rfl, .run_bind (.run_lift (respelled mapper.compute _)) fun _ => .refl _, inStep⟩

theorem dispatch_paced (inStep : world.InStep other) (id : Nat) (dest : ValueType)
    (input : Erased) :
    Paced (@dispatch κ first world id dest input) (@dispatch κ second other id dest input) := by
  simp only [dispatch, inStep.registry, inStep.mappers]
  split
  next =>
    split
    next mapper found => exact (runErased_paced respelled inStep _ mapper input).holding _
    next => exact inStep.same_launch _
  next double _ _ => exact runStandIn_paced inStep double input
  next mapper _ _ => exact (runCustom_paced respelled inStep mapper input).holding _
  next => exact inStep.same_launch _
  next => exact inStep.same_launch _

theorem callMapper_paced (inStep : world.InStep other) (id : MapperId) (mapper : Mapper κ)
    (call : MapperCall κ) :
    Paced (@callMapper κ first world id mapper call)
      (@callMapper κ second other id mapper call) := by
  have done {x y : Outcome Unit × World κ} (agree : Agree x y) :
      Paced (callMapper.done x) (callMapper.done y) := agree.now fun outcome => outcome.map _
  have similar := Surroundings.InStep.dialogue (κ := κ) world.schema mapper.service
  cases call with
  | ignore dest =>
    simp only [callMapper, inStep.schema]
    exact done (inStep.act id mapper (similar.ignore _ _ _))
  | assignMember dest source =>
    simp only [callMapper, inStep.schema]
    exact done (inStep.act id mapper (similar.assignMember _ _ _ _))
  | assignSource dest expression =>
    simp only [callMapper, inStep.schema, inStep.handles]
    split
    next => exact done (inStep.act id mapper (similar.assignSource _ _ _ _))
    next => exact inStep.same_launch _
  | assignComputed dest type compute =>
    simp only [callMapper, inStep.schema]
    exact done (inStep.act id mapper (similar.assignComputed _ _ _ _ _))
  | runBefore | runAfter | construct =>
    simp only [callMapper, callMapper.set]
    exact done (inStep.act id mapper (similar.configure _ _ _))
  | compile keep => exact ((inStep.compile id mapper).present keep).now fun outcome => outcome
  | recompile keep => exact ((inStep.recompile id mapper).present keep).now fun outcome => outcome
  | bindings => exact (inStep.compile id mapper).now fun outcome => outcome.map _
  | map source dest =>
    simp only [callMapper, inStep.schema]
    exact (runMapper_paced respelled inStep id mapper _ _).map _
  | mapErased type source =>
    simp only [callMapper, inStep.schema]
    exact (runErased_paced respelled inStep id mapper _).map _
  | keepErased keep | keepService keep => exact (inStep.keep keep _).same_launch _
  | isCompiled | compileCount | mapConcurrently | types => exact inStep.same_launch _

theorem callRegistry_paced (inStep : world.InStep other) (id : Nat) (call : Registry.Call κ) :
    Paced (@callRegistry κ first world id call) (@callRegistry κ second other id call) := by
  cases call with
  | register name =>
    simp only [callRegistry, inStep.handles, inStep.mappers]
    split
    next =>
      split
      next => exact enroll_paced inStep id _
      next => exact inStep.same_launch _
    next => exact inStep.same_launch _
  | registerStandIn | registerCustom => exact enroll_paced inStep id _
  | map source dest value =>
    simp only [callRegistry, inStep.schema]
    exact (dispatch_paced respelled inStep id dest _).check _
  | mapErased source dest value =>
    simp only [callRegistry, inStep.schema]
    exact (dispatch_paced respelled inStep id dest _).map _
  | contains | remove | size | isEmpty | pairs =>
    exact (inStep.consult id _).now fun outcome => outcome.map _

theorem resolve_paced (inStep : world.InStep other) (service : ServiceId) (question : Question)
    (input : Erased) :
    Paced (@resolve κ first world service question input)
      (@resolve κ second other service question input) := by
  obtain ⟨same, asked⟩ := inStep.surroundings.ask world.schema service question
  have later := inStep.within asked
  simp only [resolve, inStep.schema]
  simp only [inStep.schema] at later
  rw [← same]
  split
  next converter _ =>
    exact ⟨rfl, (converter.apply_respelled respelled world.schema input).run_map _, later⟩
  next => exact later.same_launch _
  next => exact later.same_launch _

theorem callErased_paced (inStep : world.InStep other) (name : String) (erased : Erased)
    (call : ErasedCall κ) :
    Paced (@callErased κ first world name erased call)
      (@callErased κ second other name erased call) := by
  cases call with
  | isType | hasType | get => exact inStep.same_launch _
  | modify type change =>
    simp only [callErased, inStep.schema]
    split
    next =>
      exact ⟨rfl, .run_lift (.bind (respelled change _) fun _ => .refl _), inStep⟩
    next => exact inStep.same_launch _
  | take type => exact (inStep.drop name).same_launch _

theorem perform_paced (inStep : world.InStep other) (operation : Operation κ) :
    Paced (@perform κ first world operation) (@perform κ second other operation) := by
  cases operation with
  | newTable keep => exact inStep.newTable.kept keep .table
  | table name call =>
    simp only [perform, table?, inStep.handles]
    split
    next => exact callTable_paced inStep _ call
    next => exact inStep.same_launch _
  | newService keep table rules =>
    simp only [perform, table?, inStep.handles]
    split
    next => exact (inStep.newService _).kept keep fun id => .service (.ruled id)
    next => exact inStep.same_launch _
  | resolve service question type value =>
    simp only [perform, service?, inStep.handles, inStep.schema]
    split
    next => exact resolve_paced respelled inStep _ question _
    next => exact inStep.same_launch _
  | newMapper keep source dest service =>
    cases service with
    | none =>
      have made := inStep.newTable.bind fun table world other inStep =>
        InStep.newMapper inStep (.new source dest (.table table))
      exact made.kept keep .mapper
    | some service =>
      simp only [perform, service?, inStep.handles]
      split
      next => exact (inStep.newMapper _).kept keep .mapper
      next => exact inStep.same_launch _
  | mapper name call =>
    simp only [perform, mapper?, inStep.handles, inStep.mappers]
    split
    next => exact callMapper_paced respelled inStep _ _ call
    next => exact inStep.same_launch _
  | callErased name type value =>
    simp only [perform, inStep.handles, inStep.mappers]
    split
    next =>
      split
      next => exact callMapper_paced respelled inStep _ _ _
      next => exact inStep.same_launch _
    next => exact inStep.same_launch _
  | planInfo name =>
    simp only [perform, inStep.handles]
    split <;> exact inStep.same_launch _
  | planRun name source dest =>
    simp only [perform, inStep.handles, inStep.schema]
    split
    next plan _ => exact ⟨rfl, (plan.run_respelled respelled _ _ _).run_map _, inStep⟩
    next => exact inStep.same_launch _
  | memberSource keep slot name =>
    simp only [perform, inStep.schema]
    split
    next => exact keepSource_paced inStep keep _
    next => exact inStep.same_launch _
  | computedSource keep slot type label compute => exact keepSource_paced inStep keep _
  | members slot =>
    simp only [perform, inStep.schema]
    exact inStep.same_launch _
  | newRegistry keep => exact (inStep.newRegistry keep).same_launch _
  | registry name call =>
    simp only [perform, inStep.handles]
    split
    next => exact callRegistry_paced respelled inStep _ call
    next => exact inStep.same_launch _
  | newErased keep type value =>
    simp only [perform, inStep.schema]
    exact (inStep.keep keep _).same_launch _
  | erased name call =>
    simp only [perform, inStep.handles]
    split
    next => exact callErased_paced respelled inStep name _ call
    next => exact inStep.same_launch _
  | compareTypes | examine => exact inStep.same_launch _
  | copy keep name =>
    simp only [perform, inStep.handles]
    split
    next => exact (inStep.keep keep _).same_launch _
    next => exact inStep.same_launch _
  | drop name =>
    simp only [perform, inStep.handles]
    exact (inStep.drop name).same_launch _
  | same left right =>
    simp only [perform, inStep.same]
    exact inStep.same_launch _
  | inspect name => exact inspect_paced inStep name

theorem withComputed_paced (inStep : world.InStep other) (hold : Hold) (input : κ) (scope : Scope)
    (request : Value → Request κ) :
    Paced (@withComputed κ first hold input scope request, world)
      (@withComputed κ second hold input scope request, other) :=
  ⟨rfl, .run_bind (.run_lift (respelled input scope)) fun _ => .refl _, inStep⟩

/-- A request that comes to both sessions sets the same going. -/
theorem serve_paced (inStep : world.InStep other) (held : List Hold) (request : Request κ) :
    Paced (@serve κ first world held request) (@serve κ second other held request) := by
  cases request with
  | operation operation => exact perform_paced respelled inStep operation
  | mapper id call =>
    simp only [serve, inStep.mappers]
    split
    next => exact callMapper_paced respelled inStep id _ call
    next => exact inStep.same_launch _
  | registry id call => exact callRegistry_paced respelled inStep id call
  | convert id input =>
    simp only [serve, inStep.mappers, inStep.alive]
    split
    next =>
      split
      next => exact (runErased_paced respelled inStep id _ input).map _
      next => exact inStep.same_launch _
    next => exact inStep.same_launch _
  | keep name erased => exact (inStep.keep name _).same_launch _
  | mapComputed name input scope | dispatchComputed name source dest input scope =>
    simp only [serve, inStep.handles]
    split
    next => exact withComputed_paced respelled inStep _ input scope _
    next => exact inStep.same_launch _

end Serve

end World

end RecordMapping
