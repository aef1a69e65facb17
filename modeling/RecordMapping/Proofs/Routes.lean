import RecordMapping.Expression
import RecordMapping.Proofs.Soundness

namespace RecordMapping

variable {κ α β : Type}

/-- A script runs to the same end with another server, if the two answer its requests alike. -/
theorem Script.exec_congr {server other : Server κ}
    {inner : World κ → List Hold → Request κ → List (Moment κ)} {held held' : List Hold}
    {P : Moment κ → Prop}
    (agree : ∀ world request, (∀ moment ∈ inner world held request, P moment) →
      other world held' request = server world held request)
    {script : Script κ α} {world : World κ}
    (all : ∀ moment ∈ script.trace server inner held world, P moment) :
    script.exec other held' world = script.exec server held world := by
  induction script generalizing world with
  | done result => rfl
  | panic text => rfl
  | log entry next ih => exact ih all
  | call request next ih =>
    -- The rest of the trace is that of the session which the first reply has left.
    simp only [trace, List.forall_mem_append] at all
    obtain ⟨now, later⟩ := all
    simp only [exec, agree world request now]
    cases served : server world held request with
    | none => rfl
    | some replied =>
      rw [served] at later
      exact ih replied.1 later

/-- The request asks for a nested mapper that is gone, but would be there if the registry were
held. -/
def Moment.dependsOn (registry : Nat) (moment : Moment κ) : Bool :=
  match moment.request with
  | .convert id _ =>
    !moment.world.alive moment.held id &&
      moment.world.alive (.registry registry :: moment.held) id
  | _ => false

/-- The same is held, and the registry besides. -/
def Hold.Adds (registry : Nat) (held held' : List Hold) : Prop :=
  ∀ hold, hold ∈ held' ↔ hold ∈ .registry registry :: held

theorem Hold.Adds.append {registry : Nat} {held held' : List Hold}
    (adds : Adds registry held held') (holds : List Hold) :
    Adds registry (holds ++ held) (holds ++ held') := by
  intro hold
  simp only [List.mem_append, List.mem_cons, adds hold]
  exact or_left_comm

namespace Surroundings

theorem table_report (event : Event) (surroundings : Surroundings κ) (id : Nat) :
    (surroundings.report event).table id = surroundings.table id := by
  unfold report
  split <;> rfl

theorem table_setTable {surroundings : Surroundings κ} {id : Nat}
    (made : id < surroundings.tables.length) (table : Conversions κ) :
    (surroundings.setTable id table).table id = table := by
  simp [setTable, Surroundings.table, List.getD_eq_getElem?_getD, made]

end Surroundings

namespace World

section Alive

variable {world : World κ} {held held' : List Hold}

/-- A mapper that lives goes on living when more is held. -/
theorem alive_mono {id : MapperId} (subset : held ⊆ held') (lives : world.alive held id = true) :
    world.alive held' id = true :=
  alive_iff.mpr ((alive_iff.mp lives).mono subset)

variable {registry : Nat}

theorem alive_of_adds (adds : Hold.Adds registry held held') (id : MapperId) :
    world.alive held' id = world.alive (.registry registry :: held) id := by
  rw [Bool.eq_iff_iff]
  exact ⟨alive_mono fun hold => (adds hold).mp, alive_mono fun hold => (adds hold).mpr⟩

/-- What else is held makes no difference to a moment that does not depend on it. -/
theorem alive_eq_of_adds (adds : Hold.Adds registry held held') {id : MapperId} {input : Erased}
    (independent : Moment.dependsOn registry ⟨world, held, .convert id input⟩ = false) :
    world.alive held' id = world.alive held id := by
  rw [alive_of_adds adds]
  cases lives : world.alive held id with
  | true => exact alive_mono (List.subset_cons_self _ _) lives
  | false => simpa [Moment.dependsOn, lives] using independent

end Alive

section Agree

variable [Closures κ] {world : World κ} {held held' : List Hold} {registry depth : Nat}

theorem serve_eq_of_adds (adds : Hold.Adds registry held held') {request : Request κ}
    (independent : Moment.dependsOn registry ⟨world, held, request⟩ = false) :
    world.serve held' request = world.serve held request := by
  cases request with
  | convert id input => simp only [serve, alive_eq_of_adds adds independent]
  | _ => rfl

/-- A run that never depends on the registry does not notice whether the registry is held. -/
theorem answer_eq_of_adds (adds : Hold.Adds registry held held') {request : Request κ}
    (independent : ∀ moment ∈ world.trace depth held request, moment.dependsOn registry = false) :
    world.answer depth held' request = world.answer depth held request := by
  induction depth generalizing world held held' request with
  | zero => rfl
  | succ depth ih =>
    obtain ⟨now, later⟩ := List.forall_mem_cons.mp independent
    simp only [answer_succ_eq, Launch.outcome, serve_eq_of_adds adds now]
    congr 1
    exact Script.exec_congr (fun _ _ => ih (adds.append _)) later

end Agree

end World

namespace Launch

variable {server : Server κ} {inner : World κ → List Hold → Request κ → List (Moment κ)}
  {held : List Hold} {world : World κ}

theorem trace_map (f : α → β) (launch : Launch κ α) :
    (launch.map f).script.run.trace server inner held world =
      launch.script.run.trace server inner held world := by
  have last : ∀ result later, (pure (f result) : ExceptT MappingError (Script κ) β).run.trace
      server inner held later = [] := fun _ _ => rfl
  rw [Launch.map, map_eq_pure_bind, Script.trace_run_bind]
  rcases launch.script.run.exec server held world with _ | ⟨_ | _ | result, later⟩
  · exact List.append_nil _
  · exact List.append_nil _
  · exact List.append_nil _
  · exact (congrArg _ (last result later)).trans (List.append_nil _)

theorem map_map {γ : Type} (f : α → β) (g : β → γ) (launch : Launch κ α) :
    (launch.map f).map g = launch.map fun result => g (f result) := by
  simp only [Launch.map, Functor.map_map]

theorem map_holding (f : α → β) (hold : Hold) (launch : Launch κ α) :
    (launch.holding hold).map f = (launch.map f).holding hold :=
  rfl

theorem check_holding (f : α → Except MappingError β) (hold : Hold) (launch : Launch κ α) :
    (launch.holding hold).check f = (launch.check f).holding hold :=
  rfl

/-- A check that a mapped result always passes is another way to map it. -/
theorem check_map {γ : Type} {f : α → β} {g : β → Except MappingError γ} {h : α → γ}
    (passes : ∀ result, g (f result) = .ok (h result)) (launch : Launch κ α) :
    (launch.map f).check g = launch.map h := by
  have step (result : α) : (liftM (g (f result)) : ExceptT MappingError (Script κ) γ) =
      pure (h result) := by
    rw [passes result]
    rfl
  simp only [Launch.check, Launch.map, bind_map_left, step, bind_pure_comp]

variable [Closures κ] {depth registry : Nat}

/-- Holding a registry changes nothing if the run never depends on it. -/
theorem outcome_holding {launch : Launch κ α}
    (independent : ∀ moment ∈ launch.script.run.trace (World.answer depth) (World.trace depth)
      (launch.holds ++ held) world, moment.dependsOn registry = false) :
    Launch.outcome (World.answer depth) held (launch.holding (.registry registry), world) =
      Launch.outcome (World.answer depth) held (launch, world) := by
  have adds : Hold.Adds registry (launch.holds ++ held)
      (.registry registry :: launch.holds ++ held) := fun _ => Iff.rfl
  have same := Script.exec_congr (fun _ _ => World.answer_eq_of_adds adds) independent
  simp only [Launch.outcome, Launch.holding, same]

end Launch

namespace World

variable [Closures κ] {world : World κ} {held : List Hold} {id : MapperId} {mapper : Mapper κ}
  {depth : Nat}

/-- What a run of the mapper on a record comes to. -/
def mapping (world : World κ) (depth : Nat) (held : List Hold) (id : MapperId) (mapper : Mapper κ)
    (source : Record) : Option (Outcome Record × World κ) :=
  Launch.outcome (answer depth) held (world.runMapper id mapper source none)

inductive Erases (world : World κ) (held : List Hold) (id : MapperId) :
    Request κ → Erased → Prop where
  | called {request : Request κ} {type : ValueType} {value : Value}
    (addresses : world.Addresses request (.mapper id (.mapErased type value))) :
    Erases world held id request (world.schema.erase type value)
  | nested {input : Erased} (lives : world.alive held id = true) :
    Erases world held id (.convert id input) input

/-- The request has the mapper itself map the record, and hands the result on in this form. -/
inductive Direct (world : World κ) (held : List Hold) (id : MapperId) (mapper : Mapper κ)
    (source : Record) : Request κ → (Record → Answer) → Prop where
  | map {request : Request κ} {value : Value}
    (addresses : world.Addresses request (.mapper id (.map value none)))
    (same : world.schema.record mapper.source value = source) :
    Direct world held id mapper source request fun record => .value (.record record)
  | erased {request : Request κ} {input : Erased} (erases : world.Erases held id request input)
    (fits : input.type = .record mapper.source) (same : input.value.fields = source) :
    Direct world held id mapper source request fun record =>
      .erased (.ofRecord mapper.dest record)

inductive Dispatched (world : World κ) (registry : Nat) (mapper : Mapper κ) (source : Record) :
    Request κ → (Record → Answer) → Prop where
  | map {request : Request κ} {value : Value}
    (addresses : world.Addresses request
      (.registry registry (.map (.record mapper.source) (.record mapper.dest) value)))
    (same : world.schema.record mapper.source value = source) :
    Dispatched world registry mapper source request fun record => .value (.record record)
  | erased {request : Request κ} {value : Value}
    (addresses : world.Addresses request
      (.registry registry (.mapErased (.record mapper.source) (.record mapper.dest) value)))
    (same : world.schema.record mapper.source value = source) :
    Dispatched world registry mapper source request fun record =>
      .erased (.ofRecord mapper.dest record)

theorem Erases.answer {request : Request κ} {input : Erased}
    (erases : world.Erases held id request input) (found : world.mappers[id]? = some mapper) :
    world.answer (depth + 1) held request =
      (Launch.outcome (answer depth) held (world.runErased id mapper input)).map
        fun ended => (ended.1.map .erased, ended.2) := by
  cases erases with
  | called addresses =>
    rw [addresses.answer, answer_succ_eq]
    simp only [serve, found, callMapper]
    exact Launch.outcome_map _ _ _ _
  | nested lives =>
    rw [answer_succ_eq, serve_convert_of_alive found lives]
    exact Launch.outcome_map _ _ _ _

/-- A value of another type is turned away before anything is done. -/
theorem Erases.mismatched {request : Request κ} {input : Erased}
    (erases : world.Erases held id request input) (found : world.mappers[id]? = some mapper)
    (other : input.type ≠ .record mapper.source) :
    world.answer (depth + 1) held request =
      some (.error (.typeMismatch (Slot.typeName mapper.source) input.type.name), world) := by
  rw [erases.answer found, world.runErased_of_mismatch id other, Launch.outcome_now]
  rfl

theorem Direct.answer {request : Request κ} {source : Record} {finish : Record → Answer}
    (direct : world.Direct held id mapper source request finish)
    (found : world.mappers[id]? = some mapper) :
    world.answer (depth + 1) held request =
      (world.mapping depth held id mapper source).map
        fun ended => (ended.1.map finish, ended.2) := by
  cases direct with
  | map addresses same =>
    subst same
    rw [addresses.answer, answer_succ_eq]
    simp only [serve, found, callMapper]
    exact Launch.outcome_map _ _ _ _
  | erased erases fits same =>
    subst same
    rw [erases.answer found, world.runErased_of_match id fits, Launch.outcome_map, Option.map_map]
    simp only [Function.comp_def, Outcome.map_map, mapping]

/-- No moment of the mapper's own run depends on the registry. -/
def Independent (world : World κ) (depth : Nat) (held : List Hold) (id : MapperId) (source : Record)
    (registry : Nat) : Prop :=
  ∀ moment ∈ world.trace depth held (.mapper id (.map (.record source) none)),
    moment.dependsOn registry = false

theorem Independent.outcome {source : Record} {registry : Nat}
    (independent : world.Independent (depth + 1) held id source registry)
    (found : world.mappers[id]? = some mapper) (f : Record → α) :
    Launch.outcome (World.answer depth) held
        (((world.runMapper id mapper source none).1.map f).holding (.registry registry),
          (world.runMapper id mapper source none).2) =
      (world.mapping depth held id mapper source).map fun ended => (ended.1.map f, ended.2) := by
  have inner := (List.forall_mem_cons.mp independent).2
  simp only [serve, found, callMapper, Launch.trace_map] at inner
  rw [Launch.outcome_holding, Launch.outcome_map, mapping]
  rw [Launch.trace_map]
  exact inner

/-- A registry that has the mapper runs it and keeps itself alive meanwhile. -/
theorem dispatch_of_entry {registry : Nat} (found : world.mappers[id]? = some mapper)
    (entry : (world.registry registry).lookup (.record mapper.source, .record mapper.dest) =
      (.ok (.mapper id mapper.source mapper.dest), world.registry registry)) (value : Value) :
    let run := world.runMapper id mapper (world.schema.record mapper.source value) none
    world.dispatch registry (.record mapper.dest)
        (world.schema.erase (.record mapper.source) value) =
      ((run.1.map (Erased.ofRecord mapper.dest)).holding (.registry registry), run.2) := by
  have fits : (world.schema.erase (.record mapper.source) value).type = .record mapper.source :=
    rfl
  unfold dispatch
  rw [fits, entry]
  simp only [found, world.runErased_of_match id fits]
  rfl

theorem Dispatched.answer {registry : Nat} {request : Request κ} {source : Record}
    {finish : Record → Answer} (dispatched : world.Dispatched registry mapper source request finish)
    (found : world.mappers[id]? = some mapper)
    (entry : (world.registry registry).lookup (.record mapper.source, .record mapper.dest) =
      (.ok (.mapper id mapper.source mapper.dest), world.registry registry))
    (independent : world.Independent (depth + 1) held id source registry) :
    world.answer (depth + 1) held request =
      (world.mapping depth held id mapper source).map
        fun ended => (ended.1.map finish, ended.2) := by
  cases dispatched with
  | map addresses same =>
    subst same
    have checked (launch : Launch κ Record) :
        (launch.map (Erased.ofRecord mapper.dest)).check
            (fun erased => (erased.valueAs (.record mapper.dest)).map Answer.value) =
          launch.map fun record => .value (.record record) :=
      Launch.check_map (fun _ => congrArg (Except.map Answer.value) (if_pos rfl)) launch
    rw [addresses.answer, answer_succ_eq, ← independent.outcome found]
    simp only [serve, callRegistry, dispatch_of_entry found entry, Launch.check_holding, checked]
  | erased addresses same =>
    subst same
    rw [addresses.answer, answer_succ_eq, ← independent.outcome found]
    simp only [serve, callRegistry, dispatch_of_entry found entry, Launch.map_holding,
      Launch.map_map]

/-- A converter that nests a living mapper yields what the mapper does. -/
theorem outcome_nested (found : world.mappers[id]? = some mapper)
    (lives : world.alive held id = true) {input : Erased}
    (fits : input.type = .record mapper.source) :
    Launch.outcome (World.answer (depth + 1)) held
        (⟨[], (Converter.nested id).apply world.schema input⟩, world) =
      (world.mapping depth held id mapper input.value.fields).map
        fun ended => (ended.1.map (Erased.ofRecord mapper.dest), ended.2) := by
  have direct : world.Direct held id mapper input.value.fields (.convert id input) fun record =>
      .erased (.ofRecord mapper.dest record) := .erased (.nested lives) fits rfl
  have asked : (Script.call (.convert id input) Converter.received).exec (World.answer (depth + 1))
      held world = (world.answer (depth + 1) held (.convert id input)).bind fun replied =>
        (Converter.received replied.1).exec (World.answer (depth + 1)) held replied.2 := by
    simp only [Script.exec]
    cases world.answer (depth + 1) held (.convert id input) <;> rfl
  rw [direct.answer found] at asked
  refine (congrArg (Option.map _) asked).trans ?_
  rcases world.mapping depth held id mapper input.value.fields with _ | ⟨_ | _ | _, later⟩ <;> rfl

omit [Closures κ] in
theorem bridge_registerMapper {name : String} (named : world.mapper? name = some (id, mapper))
    (apart : mapper.source ≠ mapper.dest) {table : Nat}
    (made : table < world.surroundings.tables.length) {question : Question}
    (source : question.source.valueType = .record mapper.source)
    (dest : question.dest.valueType = .record mapper.dest) :
    ((world.callTable table (.registerMapper name)).2.surroundings.table table).bridge question =
      .ok (.nested id) := by
  have differ : (.record mapper.source : ValueType) ≠ .record mapper.dest := by simpa using apart
  have entered : (world.callTable table (.registerMapper name)).2.surroundings.table table =
      (world.surroundings.table table).register (.record mapper.source) (.record mapper.dest)
        (.nested id) := by
    simp only [callTable, named, answered, registerConverter, Surroundings.table_report,
      Surroundings.table_setTable made]
  simp [entered, Conversions.bridge, Conversions.register, source, dest, differ]

/-- All ways to the mapper come to the same run of it, whatever state the mapper is in. -/
structure Agrees (world : World κ) (depth : Nat) (held : List Hold) (id : MapperId)
    (mapper : Mapper κ) (source : Record) : Prop where
  direct : ∀ request finish, world.Direct held id mapper source request finish →
    world.answer (depth + 1) held request =
      (world.mapping depth held id mapper source).map fun ended => (ended.1.map finish, ended.2)
  dispatched : ∀ registry request finish,
    (world.registry registry).entries.get? (.record mapper.source, .record mapper.dest) =
        some (.mapper id mapper.source mapper.dest) →
      (world.registry registry).poisoned = false →
      world.Dispatched registry mapper source request finish →
      world.Independent (depth + 1) held id source registry →
    world.answer (depth + 1) held request =
      (world.mapping depth held id mapper source).map fun ended => (ended.1.map finish, ended.2)
  registered : ∀ name table question, world.mapper? name = some (id, mapper) →
      mapper.source ≠ mapper.dest → table < world.surroundings.tables.length →
      question.source.valueType = .record mapper.source →
      question.dest.valueType = .record mapper.dest →
    ((world.callTable table (.registerMapper name)).2.surroundings.table table).bridge question =
      .ok (.nested id)
  converted : ∀ input : Erased, world.alive held id = true →
      input.type = .record mapper.source → input.value.fields = source →
    Launch.outcome (World.answer (depth + 1)) held
        (⟨[], (Converter.nested id).apply world.schema input⟩, world) =
      (world.mapping depth held id mapper source).map
        fun ended => (ended.1.map (Erased.ofRecord mapper.dest), ended.2)
  mismatched : ∀ request input, world.Erases held id request input →
      input.type ≠ .record mapper.source →
    world.answer (depth + 1) held request =
      some (.error (.typeMismatch (Slot.typeName mapper.source) input.type.name), world)

theorem routes_agree (found : world.mappers[id]? = some mapper) (depth : Nat) (held : List Hold)
    (source : Record) : world.Agrees depth held id mapper source where
  direct _ _ direct := direct.answer found
  dispatched registry _ _ listed healthy dispatched independent := by
    have entry : (world.registry registry).lookup (.record mapper.source, .record mapper.dest) =
        (.ok (.mapper id mapper.source mapper.dest), world.registry registry) := by
      simp [Registry.lookup, Registry.guarded, healthy, listed]
    exact dispatched.answer found entry independent
  registered _ _ _ named apart made source dest :=
    bridge_registerMapper named apart made source dest
  converted _ lives fits same := by
    subst same
    exact outcome_nested found lives fits
  mismatched _ _ erases other := erases.mismatched found other

end World

theorem routes_of_linked :
    let world := World.linked [.newRegistry "g", .registry "g" (.register "m")]
    let source : Record := [("a", .record [("x", .int 1)])]
    let out : Reply := .ok (.value (.record [("a", .record [])]))
    ∃ last,
      world.answer 3 [] (.operation (.mapper "m" (.map (.record source) none))) =
        some (out, last) ∧
      world.answer 3 []
          (.operation (.registry "g" (.map (.record 0) (.record 1) (.record source)))) =
        some (out, last) := by
  intro world source out
  have agrees : world.Agrees 2 [] 1 (.new 0 1 (.table 0)) source :=
    World.routes_agree rfl 2 [] source
  have independent : world.Independent 3 [] 1 source 0 := by
    have all : (world.trace 3 [] (.mapper 1 (.map (.record source) none))).all
        (fun moment => !moment.dependsOn 0) = true := by decide +kernel
    simpa [World.Independent] using all
  have direct := agrees.direct (.operation (.mapper "m" (.map (.record source) none))) _
    (.map (.mapper _ rfl rfl) rfl)
  have dispatched := agrees.dispatched 0
    (.operation (.registry "g" (.map (.record 0) (.record 1) (.record source)))) _ rfl rfl
    (.map (.registry _ rfl) rfl) independent
  have replied : (world.answer 3 []
      (.operation (.mapper "m" (.map (.record source) none)))).map (·.1) = some out := by
    decide +kernel
  obtain ⟨⟨_, last⟩, answered, rfl⟩ := Option.map_eq_some_iff.mp replied
  exact ⟨last, answered, dispatched.trans (direct.symm.trans answered)⟩

/-- A hook drops the registry, which alone has the nested mapper. The registry's own call goes on
holding it, and so only that call succeeds. -/
theorem registry_route_differs :
    let world := World.linked
      [.newRegistry "g", .registry "g" (.register "m"), .registry "g" (.register "n"),
        .mapper "m" (.runBefore (.hook [.perform (.drop "g")])), .drop "n"]
    let source : Value := .record [("a", .record [])]
    (world.registry 0).lookup (.record 0, .record 1) = (.ok (.mapper 1 0 1), world.registry 0) ∧
      (world.answer 4 [] (.operation (.mapper "m" (.map source none)))).map (·.1) =
        some (.error (.mapperDropped (Slot.typeName 2) (Slot.typeName 3))) ∧
      (world.answer 4 [] (.operation (.registry "g" (.map (.record 0) (.record 1) source)))).map
        (·.1) = some (.ok (.value (.record [("a", .record [])]))) :=
  ⟨rfl, by decide +kernel, by decide +kernel⟩

end RecordMapping
