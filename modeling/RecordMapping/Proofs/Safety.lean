import RecordMapping.Proofs.Typing

namespace RecordMapping

variable {κ α β : Type}

inductive Script.Raises (text : String) : Script κ α → Prop where
  | panic : Raises text (.panic text)
  | log {entry : LogEntry} {next : Script κ α} : Raises text next → Raises text (.log entry next)
  | call {request : Request κ} {next : Reply → Script κ α} {reply : Reply} :
    Raises text (next reply) → Raises text (.call request next)

namespace Script

variable {text : String}

theorem raises_of_exec {server : Server κ} {held : List Hold} {script : Script κ α}
    {world later : World κ} (ends : script.exec server held world = some (.error text, later)) :
    script.Raises text := by
  induction script generalizing world with
  | done result => simp [exec] at ends
  | panic other =>
    obtain ⟨same, -⟩ := Prod.mk.inj (Option.some.inj ends)
    obtain rfl := Except.error.inj same
    exact .panic
  | log entry next ih => exact .log (ih ends)
  | call request next ih =>
    simp only [exec] at ends
    split at ends
    next reply middle served => exact .call (ih reply ends)
    next => simp at ends

theorem Raises.of_bind {script : Script κ α} {f : α → Script κ β}
    (raises : (script.bind f).Raises text) :
    script.Raises text ∨ ∃ result, (f result).Raises text := by
  induction script with
  | done result => exact .inr ⟨result, raises⟩
  | panic other =>
    obtain ⟨⟩ := raises
    exact .inl .panic
  | log entry next ih =>
    obtain ⟨⟩ := raises
    rename_i deeper
    exact (ih deeper).imp_left .log
  | call request next ih =>
    obtain ⟨⟩ := raises
    rename_i reply deeper
    exact (ih reply deeper).imp_left .call

end Script

def Source.closures : Source κ → List κ
  | .member _ => []
  | .computed _ _ compute => [compute]

def Converter.closures : Converter κ → List κ
  | .function _ _ convert => [convert]
  | _ => []

def Assignment.closures (assignment : Assignment κ) : List κ :=
  assignment.source.closures ++ assignment.converter.closures

def Plan.closures (plan : Plan κ) : List κ :=
  plan.constructor.toList ++ plan.before.toList ++ plan.assignments.flatMap Assignment.closures ++
    plan.after.toList

def Closures.Raise [Closures κ] (closures : List κ) (text : String) : Prop :=
  ∃ closure ∈ closures, ∃ scope, (Closures.run closure scope).Raises text

theorem Closures.Raise.mono [Closures κ] {closures more : List κ} {text : String}
    (raise : Raise closures text) (subset : closures ⊆ more) : Raise more text := by
  obtain ⟨closure, mem, scope, raises⟩ := raise
  exact ⟨closure, subset mem, scope, raises⟩

namespace World

/-- The registry has the mapper under the pair, and none of its entries panics. -/
structure Enrolled (world : World κ) (registry : Nat) (pair : ValueType × ValueType)
    (id : MapperId) : Prop where
  listed : ∃ source dest,
    (world.registry registry).entries.get? pair = some (.mapper id source dest)
  quiet : ∀ entry ∈ (world.registry registry).entries.values, entry.panics = false

/-- The mappings that a mapper exists for: by the mapper itself, on a value of its source type, by a
registry that has it, and by a plan. -/
inductive Mapping (world : World κ) : Request κ → Prop where
  | map {id : MapperId} {mapper : Mapper κ} (found : world.mappers[id]? = some mapper)
    (source : Value) (dest : Option Value) : Mapping world (.mapper id (.map source dest))
  | erased {id : MapperId} {mapper : Mapper κ} (found : world.mappers[id]? = some mapper)
    (source : Value) : Mapping world (.mapper id (.mapErased (.record mapper.source) source))
  | nested {id : MapperId} {mapper : Mapper κ} {input : Erased}
    (found : world.mappers[id]? = some mapper) (fits : input.type = .record mapper.source) :
    Mapping world (.convert id input)
  | dispatched {registry : Nat} {id : MapperId} {source dest : ValueType}
    (enrolled : world.Enrolled registry (source, dest) id) (value : Value) :
    Mapping world (.registry registry (.map source dest value))
  | dispatchedErased {registry : Nat} {id : MapperId} {source dest : ValueType}
    (enrolled : world.Enrolled registry (source, dest) id) (value : Value) :
    Mapping world (.registry registry (.mapErased source dest value))
  | plan {name : String} {plan : Plan κ} (named : world.handles.get? name = some (.plan plan))
    (source : Value) (dest : Option Value) :
    Mapping world (.operation (.planRun name source dest))

/-- The request is a mapping that runs the plan, which is that of the mapper that acts or the one
that is named. -/
structure Runs (world : World κ) (held : List Hold) (request : Request κ) (plan : Plan κ) :
    Prop where
  mapping : world.Mapping request
  plan : (∃ id mapper, world.action? held request = some (id, .compile) ∧
      world.mappers[id]? = some mapper ∧ (world.compile id mapper).1 = .ok plan) ∨
    ∃ name source dest, request = .operation (.planRun name source dest) ∧
      world.handles.get? name = some (.plan plan)

end World

namespace Moment

/-- The moment is a nested mapping that finds its mapper gone, and `cause` says so. -/
def Drops (moment : Moment κ) (cause : MappingError) : Prop :=
  ∃ id input mapper, moment.request = .convert id input ∧
    moment.world.mappers[id]? = some mapper ∧ moment.world.alive moment.held id = false ∧
    cause = .mapperDropped (Slot.typeName mapper.source) (Slot.typeName mapper.dest)

/-- The moment is a mapping, and a closure of the plan that it runs can panic with this text. -/
def Raises [Closures κ] (moment : Moment κ) (text : String) : Prop :=
  ∃ core plan, moment.world.Addresses moment.request core ∧
    moment.world.Runs moment.held core plan ∧ Closures.Raise plan.closures text

end Moment

/-- A run has succeeded as expected, or else what ended it is found in its trace or in the closures
that it runs itself. -/
def Outcome.Sound [Closures κ] (own : List κ) (good : α → Prop) (trace : List (Moment κ)) :
    Outcome α → Prop
  | .ok result => good result
  | .error cause => ∃ moment ∈ trace, moment.Drops cause
  | .panic text => Closures.Raise own text ∨ ∃ moment ∈ trace, moment.Raises text

theorem Outcome.Sound.mono [Closures κ] {own : List κ} {good : α → Prop}
    {trace more : List (Moment κ)} {outcome : Outcome α} (sound : outcome.Sound own good trace)
    (subset : trace ⊆ more) : outcome.Sound own good more := by
  cases outcome with
  | ok result => exact sound
  | error cause =>
    obtain ⟨moment, mem, drops⟩ := sound
    exact ⟨moment, subset mem, drops⟩
  | panic text =>
    exact sound.imp_right fun ⟨moment, mem, raises⟩ => ⟨moment, subset mem, raises⟩

namespace World

variable [Closures κ]

/-- A session that has come of an empty one and still has the mappers that `slots` knows. -/
structure Knows (slots : MapperId → Option (Slot × Slot)) (world : World κ) : Prop where
  reachable : world.Reachable
  grown : ∀ id pair, slots id = some pair → world.slots? id = some pair

theorem Knows.trans {slots : MapperId → Option (Slot × Slot)} {world later : World κ}
    {past : List (Moment κ)} (knows : world.Knows slots) (history : History world past later) :
    later.Knows slots :=
  ⟨knows.reachable.trans history, fun id pair known => history.slots? (knows.grown id pair known)⟩

end World

open World

section Safe

variable [Closures κ]

/-- Wherever it is run, the script ends soundly, provided that all mappers consult tables then. -/
def Safe (depth : Nat) (slots : MapperId → Option (Slot × Slot)) (own : List κ)
    (script : ExceptT MappingError (Script κ) α) (good : α → Prop) : Prop :=
  ∀ held world ended later, world.Knows slots →
    script.run.exec (answer depth) held world = some (ended, later) → later.Tabular →
      (Outcome.ofRun ended).Sound own good
        (script.run.trace (answer depth) (trace depth) held world)

variable {depth : Nat} {slots : MapperId → Option (Slot × Slot)} {own : List κ}

theorem Safe.pure {good : α → Prop} {result : α} (holds : good result) :
    Safe depth slots own (Pure.pure result) good := by
  intro held world ended later _ ends _
  obtain ⟨rfl, -⟩ := Prod.mk.inj (Option.some.inj ends)
  exact holds

theorem Safe.checked {good : α → Prop} {checked : Except MappingError α} {result : α}
    (passes : checked = .ok result) (holds : good result) :
    Safe depth slots own (liftM checked) good := by
  subst passes
  exact Safe.pure holds

theorem Safe.lift {good : α → Prop} {script : Script κ α}
    (raises : ∀ text, script.Raises text → Closures.Raise own text)
    (returns : ∀ server held world result later,
      script.exec server held world = some (.ok result, later) → good result) :
    Safe depth slots own (ExceptT.lift script) good := by
  intro held world ended later _ ends _
  rw [Script.exec_run_lift] at ends
  obtain ⟨⟨result, last⟩, ran, same⟩ := Option.map_eq_some_iff.mp ends
  obtain ⟨rfl, rfl⟩ := Prod.mk.inj same
  cases result with
  | ok result => exact returns _ _ _ _ _ ran
  | error text => exact .inl (raises text (Script.raises_of_exec ran))

theorem Safe.bind {first : α → Prop} {good : β → Prop} {script : ExceptT MappingError (Script κ) α}
    {f : α → ExceptT MappingError (Script κ) β} (before : Safe depth slots own script first)
    (after : ∀ result, first result → Safe depth slots own (f result) good) :
    Safe depth slots own (script >>= f) good := by
  intro held world ended later knows ends tabular
  rw [Script.exec_run_bind] at ends
  rw [Script.trace_run_bind]
  cases ran : script.run.exec (answer depth) held world with
  | none => simp [ran] at ends
  | some result =>
    obtain ⟨result, middle⟩ := result
    have early := History.of_run ran
    rw [ran] at ends
    rcases result with text | cause | result
    · obtain ⟨rfl, rfl⟩ := Prod.mk.inj (Option.some.inj ends)
      have sound : (Outcome.panic text : Outcome β).Sound own good _ :=
        before held world _ _ knows ran tabular
      exact sound.mono (List.subset_append_left _ _)
    · obtain ⟨rfl, rfl⟩ := Prod.mk.inj (Option.some.inj ends)
      have sound : (Outcome.error cause : Outcome β).Sound own good _ :=
        before held world _ _ knows ran tabular
      exact sound.mono (List.subset_append_left _ _)
    -- The session was tabular in the middle, because it is so in the end.
    · have late := History.of_run ends
      have holds : first result := before held world _ _ knows ran (tabular.of_history late)
      have sound := after result holds held middle _ _ (knows.trans early) ends tabular
      exact sound.mono (List.subset_append_right _ _)

theorem Safe.map {first : α → Prop} {good : β → Prop} {script : ExceptT MappingError (Script κ) α}
    (before : Safe depth slots own script first) {f : α → β}
    (after : ∀ result, first result → good (f result)) :
    Safe depth slots own (f <$> script) good := by
  rw [map_eq_pure_bind]
  exact before.bind fun result holds => .pure (after result holds)

end Safe

section Evaluate

variable [Closures κ] {schema : Schema} {source : Record} {text : String}

/-- Reading a member yields a value of its type at once, or after an entry in the log. -/
theorem Source.evaluate_member (κ : Type) [Closures κ] (schema : Schema) (source : Record)
    (property : Property Record) :
    ∃ value, (member property : Source κ).evaluate schema source =
        .done ⟨property.valueType, value⟩ ∨
      ∃ entry, (member property : Source κ).evaluate schema source =
        .log entry (.done ⟨property.valueType, value⟩) := by
  refine ⟨(property.get?.map fun get => get source).getD .null, ?_⟩
  dsimp only [evaluate]
  split
  next => exact .inr ⟨_, rfl⟩
  next => exact .inl rfl

theorem Source.evaluate_computed (schema : Schema) (source : Record) (label : String)
    (valueType : ValueType) (compute : κ) :
    (computed label valueType compute).evaluate schema source =
      (Closures.compute compute (.record source)).bind fun value =>
        .done (schema.erase valueType value) :=
  rfl

theorem Source.raise_of_evaluate {expr : Source κ}
    (raises : (expr.evaluate schema source).Raises text) : Closures.Raise expr.closures text := by
  cases expr with
  | member property =>
    obtain ⟨value, read | ⟨entry, read⟩⟩ := evaluate_member κ schema source property
    · rw [read] at raises
      cases raises
    · rw [read] at raises
      cases raises with
      | log never => cases never
  | computed label valueType compute =>
    rw [evaluate_computed] at raises
    rcases raises.of_bind with closure | ⟨result, never⟩
    · exact ⟨compute, List.mem_singleton_self compute, _, closure⟩
    · cases never

theorem Source.type_of_evaluate {expr : Source κ} {server : Server κ} {held : List Hold}
    {world later : World κ} {erased : Erased}
    (ran : (expr.evaluate schema source).exec server held world = some (.ok erased, later)) :
    erased.type = expr.valueType := by
  cases expr with
  | member property =>
    obtain ⟨value, read | ⟨entry, read⟩⟩ := evaluate_member κ schema source property
    · rw [read] at ran
      obtain ⟨rfl, -⟩ := by simpa [Script.exec] using ran
      rfl
    · rw [read] at ran
      obtain ⟨rfl, -⟩ := by simpa [Script.exec] using ran
      rfl
  | computed label valueType compute =>
    rw [evaluate_computed, Script.exec_bind] at ran
    split at ran
    next value middle computed =>
      obtain ⟨rfl, -⟩ := by simpa [Script.exec] using ran
      rfl
    next => simp at ran
    next => simp at ran

end Evaluate

section Run

variable [Closures κ] {depth : Nat} {slots : MapperId → Option (Slot × Slot)} {own : List κ}
  {schema : Schema} {source : Record}

/-- Nested mappings that nest at most `depth` deep answer soundly, with a record of the type that
their mapper maps to. -/
def NestedSound (κ : Type) [Closures κ] (depth : Nat) : Prop :=
  ∀ (world : World κ) (held : List Hold) (id : MapperId) (input : Erased) (slot dest : Slot)
    (reply : Reply) (later : World κ), world.Reachable →
    world.slots? id = some (slot, dest) → input.type = .record slot →
    world.answer depth held (.convert id input) = some (reply, later) → later.Tabular →
      reply.Sound ([] : List κ) (fun answer => ∃ value, answer = .erased ⟨.record dest, value⟩)
        (world.trace depth held (.convert id input))

theorem Safe.nested (nests : NestedSound κ depth) {id : MapperId} {slot dest : Slot}
    {input : Erased} (known : slots id = some (slot, dest)) (fits : input.type = .record slot) :
    Safe depth slots own (ExceptT.mk ((Script.ask (.convert id input)).bind Converter.received))
      fun output => output.type = .record dest := by
  intro held world ended later knows ends tabular
  have asked : (Script.call (.convert id input) Converter.received).exec (answer depth) held world =
      some (ended, later) := ends
  have traced : (ExceptT.mk ((Script.ask (.convert id input)).bind Converter.received) :
      ExceptT MappingError (Script κ) Erased).run.trace (answer depth) (trace depth) held world =
        (Script.call (.convert id input) Converter.received).trace (answer depth) (trace depth) held
          world := rfl
  rw [traced]
  simp only [Script.exec, Script.trace] at asked ⊢
  split at asked
  next reply middle served =>
    have late := History.of_run asked
    have sound := nests world held id input slot dest reply middle knows.reachable
      (knows.grown _ _ known) fits served (tabular.of_history late)
    cases reply with
    | ok answer =>
      obtain ⟨value, rfl⟩ := sound
      obtain ⟨rfl, -⟩ := Prod.mk.inj (Option.some.inj asked)
      rfl
    | error cause =>
      obtain ⟨rfl, -⟩ := Prod.mk.inj (Option.some.inj asked)
      obtain ⟨moment, mem, drops⟩ := sound
      exact ⟨moment, List.mem_append_left _ mem, drops⟩
    | panic text =>
      obtain ⟨rfl, -⟩ := Prod.mk.inj (Option.some.inj asked)
      rcases sound with ⟨closure, none, -⟩ | ⟨moment, mem, raises⟩
      · simp at none
      · exact .inr ⟨moment, List.mem_append_left _ mem, raises⟩
  next => simp at asked

/-- A converter that carries values between two types does so. -/
theorem Safe.convert (nests : NestedSound κ depth) {converter : Converter κ}
    {given wanted : ValueType} {input : Erased} (carries : converter.Carries slots given wanted)
    (fits : input.type = given) (listed : converter.closures ⊆ own) :
    Safe depth slots own (converter.apply schema input) fun output => output.type = wanted := by
  cases carries with
  | identity => exact .pure fits
  | function source dest convert =>
    have passes : input.valueAs given = .ok input.value := if_pos fits
    have checked : Safe depth slots own (liftM (input.valueAs given)) fun _ => True :=
      .checked passes trivial
    have computed (value : Value) :
        Safe depth slots own (ExceptT.lift (Closures.compute convert value)) fun _ => True := by
      refine .lift (fun text raises => ?_) fun _ _ _ _ _ _ => trivial
      exact ⟨convert, listed (List.mem_singleton_self convert), _, raises⟩
    exact checked.bind fun value _ => (computed value).bind fun result _ => .pure rfl
  | nested known => exact .nested nests known fits

theorem Safe.store (property : Property Record) {value : Erased} (dest : Record)
    (fits : value.type = property.valueType) :
    Safe depth slots own (property.store value dest) fun _ => True := by
  have passes : value.valueAs property.valueType = .ok value.value := if_pos fits
  have checked : Safe depth slots own (liftM (value.valueAs property.valueType)) fun _ => True :=
    .checked passes trivial
  unfold Property.store
  refine checked.bind fun content _ => ?_
  have noted (entry : LogEntry) :
      Safe depth slots own (ExceptT.lift (Script.note entry)) fun _ => True := by
    refine .lift (fun text raises => ?_) fun _ _ _ _ _ _ => trivial
    cases raises with
    | log never => cases never
  dsimp only
  split
  next => exact (noted _).bind fun _ _ => .pure trivial
  next => exact .pure trivial

/-- An assignment whose converter carries its source's type to its member's. -/
theorem Safe.assign (nests : NestedSound κ depth) {assignment : Assignment κ} (dest : Record)
    (carries : assignment.Carries slots) (listed : assignment.closures ⊆ own) :
    Safe depth slots own (assignment.run schema source dest) fun _ => True := by
  have own' := List.append_subset.mp listed
  have evaluated : Safe depth slots own
      (ExceptT.lift (assignment.source.evaluate schema source))
      fun erased => erased.type = assignment.source.valueType :=
    .lift (fun text raises => (Source.raise_of_evaluate raises).mono own'.1)
      fun _ _ _ _ _ ran => Source.type_of_evaluate ran
  unfold Assignment.run
  refine evaluated.bind fun value fits => ?_
  have converted : Safe depth slots own (assignment.converter.apply schema value)
      fun output => output.type = assignment.dest.valueType :=
    .convert nests carries fits own'.2
  exact converted.bind fun output fits => .store assignment.dest dest fits

theorem Safe.assignAll (nests : NestedSound κ depth) {assignments : List (Assignment κ)}
    (carries : ∀ assignment ∈ assignments, assignment.Carries slots)
    (listed : assignments.flatMap Assignment.closures ⊆ own) (dest : Record) :
    Safe depth slots own (Assignment.runAll schema source assignments dest) fun _ => True := by
  induction assignments generalizing dest with
  | nil => exact .pure trivial
  | cons assignment rest ih =>
    rw [List.flatMap_cons] at listed
    obtain ⟨now, later⟩ := List.append_subset.mp listed
    have first : Safe depth slots own (assignment.run schema source dest) fun _ => True :=
      .assign nests dest (carries assignment List.mem_cons_self) now
    exact first.bind fun dest _ =>
      ih (fun other mem => carries other (List.mem_cons_of_mem _ mem)) later dest

theorem Safe.amend (hook : Option κ) (dest : Record) (listed : hook.toList ⊆ own) :
    Safe depth slots own (ExceptT.lift (Plan.amend hook source dest)) fun _ => True := by
  refine .lift (fun text raises => ?_) fun _ _ _ _ _ _ => trivial
  cases hook with
  | none => cases raises
  | some hook =>
    rcases Script.Raises.of_bind raises with closure | ⟨value, never⟩
    · exact ⟨hook, listed (by simp), _, closure⟩
    · cases never

theorem Safe.create (plan : Plan κ) (dest : Option Record)
    (listed : plan.constructor.toList ⊆ own) :
    Safe depth slots own (ExceptT.lift (dest.elim (plan.create schema source) Pure.pure))
      fun _ => True := by
  refine .lift (fun text raises => ?_) fun _ _ _ _ _ _ => trivial
  cases dest with
  | some given => cases raises
  | none =>
    dsimp only [Option.elim_none, Plan.create] at raises
    split at raises
    next constructor told =>
      rcases Script.Raises.of_bind raises with closure | ⟨value, never⟩
      · exact ⟨constructor, listed (by simp [told]), _, closure⟩
      · cases never
    next => cases raises

/-- A run of a plan whose converters carry the types of its members. -/
theorem Safe.run (nests : NestedSound κ depth) {plan : Plan κ}
    (fits : plan.Fits (Assignment.Carries slots)) (dest : Option Record) :
    Safe depth slots plan.closures (plan.run schema source dest) fun _ => True := by
  have listed : plan.constructor.toList ++ plan.before.toList ++
      plan.assignments.flatMap Assignment.closures ++ plan.after.toList ⊆ plan.closures :=
    fun _ => id
  simp only [List.append_subset] at listed
  obtain ⟨⟨⟨constructor, before⟩, assignments⟩, after⟩ := listed
  unfold Plan.run
  refine (Safe.create plan dest constructor).bind fun dest _ => ?_
  refine (Safe.amend plan.before dest before).bind fun dest _ => ?_
  have assigned : Safe depth slots plan.closures
      (Assignment.runAll schema source plan.assignments dest) fun _ => True :=
    .assignAll nests (fun assignment mem => fits.of_mem_assignments mem) assignments dest
  exact assigned.bind fun dest _ => .amend plan.after dest after

end Run

end RecordMapping
