import RecordMapping.Proofs.Request

namespace RecordMapping

variable {κ α β : Type}

namespace Launch

theorem map_eq_check (f : α → β) (launch : Launch κ α) :
    launch.map f = launch.check fun result => .ok (f result) :=
  congrArg (Launch.mk launch.holds) (map_eq_pure_bind f launch.script)

theorem check_ofOutcome (outcome : Outcome α) (f : α → Except MappingError β) :
    ∃ checked : Outcome β,
      (ofOutcome outcome >>= fun result => liftM (f result) : ExceptT MappingError (Script κ) β) =
        ofOutcome checked := by
  cases outcome with
  | ok result =>
    refine ⟨.ofExcept (f result), ?_⟩
    cases checked : f result <;> simp [ofOutcome, checked] <;> rfl
  | error cause => exact ⟨.error cause, rfl⟩
  | panic text => exact ⟨.panic text, rfl⟩

end Launch

/-- What a request bears on: the mapper that acts, the registry that changes, the converter that is
registered, and what is written down of the question that it puts itself. -/
structure Bearing (κ : Type) where
  aim : Option (MapperId × Mapper.Action κ) := none
  deed : Option (Nat × Registry.Deed κ) := none
  conversion : Option (Conversion κ) := none
  posed : List Question := []

theorem Registry.get?_of_lookup {registry rest : Registry κ} {pair : ValueType × ValueType}
    {entry : Entry κ} (lookup : registry.lookup pair = (.ok entry, rest)) :
    registry.entries.get? pair = some entry := by
  unfold Registry.lookup guarded at lookup
  cases found : registry.entries.get? pair with
  | none => split at lookup <;> simp [found] at lookup
  | some other => split at lookup <;> simp_all

theorem Registry.guarded_same {action : Registry κ → Outcome α × Registry κ}
    (same : ∀ registry, (action registry).2 = registry) (registry : Registry κ) :
    (registry.guarded action).2 = registry := by
  unfold guarded
  split
  · rfl
  · exact same registry

namespace World

def bearing (world : World κ) (held : List Hold) (request : Request κ) : Bearing κ where
  aim := world.action? held request
  deed := world.deed? request
  conversion := world.conversion? request
  posed := world.posed request

def asked (world : World κ) (service : ServiceId) (question : Question) : World κ :=
  { world with surroundings := (world.surroundings.ask world.schema service question).2 }

variable [Closures κ]

/-- What a request may set going while the session stays as it is. What is held meanwhile has an
owner, if the request is grounded. -/
inductive Starts (world : World κ) (held : List Hold) (request : Request κ) :
    Launch κ Answer → Prop where
  | nothing {holds : List Hold} (outcome : Outcome Answer)
    (owners : request.Grounded held → ∀ hold ∈ holds, world.Holds held hold) :
    Starts world held request ⟨holds, Launch.ofOutcome outcome⟩
  | plan {name : String} {plan : Plan κ} (named : world.handles.get? name = some (.plan plan))
    (source : Record) (dest : Option Record) :
    Starts world held request
      ⟨[], (fun record => .value (.record record)) <$> plan.run world.schema source dest⟩
  | change (name : String) (type : ValueType) (value : Value) (change : κ) :
    Starts world held request
      ⟨[], ExceptT.lift (do
        let value ← Closures.compute change value
        let _ ← Script.ask (.keep name (world.schema.erase type value))
        return .flag true)⟩
  | clients {id : MapperId} (owned : request.Grounded held → world.Owned held id)
    (source : Value) (clients : Nat) :
    Starts world held request
      ⟨[.mapper id], do
        let replies ← ExceptT.lift (serveClients id source clients)
        Launch.ofOutcome (gather replies)⟩
  | computed {hold : Hold} (owned : world.Holds held hold) (input : κ) (scope : Scope)
    {next : Value → Request κ} (grounded : ∀ value, (next value).Grounded [hold]) :
    Starts world held request (withComputed hold input scope next)
  | custom {registry : Nat} (kept : request.Grounded held → world.Kept held registry)
    (mapper : CustomMapper κ) (input : Erased) (finish : Erased → Except MappingError Answer) :
    Starts world held request
      ⟨[.registry registry], ((world.runCustom mapper input).1.check finish).script⟩

/-- One step of a session, with what the request bears on. -/
inductive Step (world : World κ) (held : List Hold) (request : Request κ) :
    Bearing κ → Launch κ Answer × World κ → Prop where
  | start {launch : Launch κ Answer} (starts : world.Starts held request launch) :
    Step world held request {} (launch, world)
  | note (input : Erased) {launch : Launch κ Answer}
    (starts : world.Starts held request launch) :
    Step world held request {} (launch, world.write (.standIn input))
  | keep {name : String} {handle : Handle κ} (plain : handle.plain = true)
    (other : ∀ plan, handle ≠ .plan plan) (answer : Answer) :
    Step world held request {} (.now (.ok answer), world.keep name handle)
  | copy {name other : String} {handle : Handle κ}
    (named : world.handles.get? other = some handle) :
    Step world held request {} (.now (.ok .unit), world.keep name handle)
  | erased {name : String} {id : MapperId} {mapper : Mapper κ}
    (asks : world.Addresses request (.mapper id (.keepErased name)))
    (found : world.mappers[id]? = some mapper) :
    Step world held request {} (.now (.ok .unit), world.keep name (.erasedMapper id))
  | drop (name : String) (outcome : Outcome Answer) :
    Step world held request {} (.now outcome, world.drop name)
  | newTable (name : String) :
    Step world held request {}
      (.now (.ok .unit), world.newTable.2.keep name (.table world.newTable.1))
  | newService (name : String) (service : RuledService κ) :
    Step world held request {}
      (.now (.ok .unit),
        (world.newService service).2.keep name (.service (.ruled (world.newService service).1)))
  | newMapper (name : String) {base : World κ} (made : base = world ∨ base = world.newTable.2)
    (source dest : Slot) (service : ServiceId) :
    Step world held request {}
      (.now (.ok .unit),
        (base.newMapper (.new source dest service)).2.keep name (.mapper world.mappers.length))
  | newRegistry (name : String) :
    Step world held request {}
      (.now (.ok .unit),
        { world with registries := world.registries ++ [default] }.keep name
          (.registry world.registries.length))
  | enroll {id : Nat} {entry : Entry κ}
    (known : ∀ other source dest, entry = .mapper other source dest →
      ∃ mapper, world.mappers[other]? = some mapper ∧ mapper.source = source ∧
        mapper.dest = dest) :
    Step world held request { deed := some (id, .enroll entry) } (world.enroll id entry)
  | settle {id : Nat} {deed : Registry.Deed κ} (other : ∀ entry, deed ≠ .enroll entry)
    (outcome : Outcome Answer) :
    Step world held request { deed := some (id, deed) }
      (.now outcome, world.setRegistry id (deed.onto (world.registry id)))
  | convert {table : Nat} (source dest : ValueType) (convert : κ) :
    Step world held request
      { conversion := some ⟨table, source, dest, .function source dest convert⟩ }
      (.now (.ok .unit),
        world.registerConverter table source dest (.function source dest convert))
  | nest {table : Nat} {id : MapperId} {mapper : Mapper κ}
    (found : world.mappers[id]? = some mapper) :
    Step world held request
      { conversion := some ⟨table, .record mapper.source, .record mapper.dest, .nested id⟩ }
      (.now (.ok .unit),
        world.registerConverter table (.record mapper.source) (.record mapper.dest) (.nested id))
  | ask (service : ServiceId) (question : Question) (input : Erased) :
    Step world held request { posed := service.recorded [question] }
      (world.resolve service question input)
  | act {id : MapperId} {mapper : Mapper κ} {action : Mapper.Action κ}
    {served : Launch κ Answer × World κ} (found : world.mappers[id]? = some mapper)
    (owners : request.Grounded held → ∀ hold ∈ served.1.holds, world.Holds held hold)
    (comes : Comes Given (world.carryOut id mapper action) served) :
    Step world held request { aim := some (id, action) } served

section

variable {world : World κ} {held : List Hold} {request : Request κ} {id : MapperId}
  {mapper : Mapper κ}

theorem Step.answer (outcome : Outcome Answer) :
    world.Step held request {} (.now outcome, world) :=
  .start (.nothing outcome fun _ _ mem => absurd mem List.not_mem_nil)

omit [Closures κ] in
theorem mapper?_found {name : String} (named : world.mapper? name = some (id, mapper)) :
    world.handles.get? name = some (.mapper id) ∧ world.mappers[id]? = some mapper := by
  unfold mapper? at named
  split at named
  next other handle =>
    obtain ⟨_, found, same⟩ := Option.map_eq_some_iff.mp named
    obtain ⟨rfl, rfl⟩ := Prod.mk.inj same
    exact ⟨handle, found⟩
  next => simp at named

theorem runMapper_holds {source : Record} {dest : Option Record} {hold : Hold}
    (mem : hold ∈ (world.runMapper id mapper source dest).1.holds) : hold = .mapper id := by
  unfold runMapper at mem
  split at mem
  next => exact List.mem_singleton.mp mem
  all_goals exact absurd mem List.not_mem_nil

/-- A mapper maps an erased value of its source type, and turns away any other. -/
theorem runErased_step (found : world.mappers[id]? = some mapper)
    (owned : request.Grounded held → world.Owned held id) {holds : List Hold}
    (owners : request.Grounded held → ∀ hold ∈ holds, world.Holds held hold) (input : Erased)
    (finish : Erased → Except MappingError Answer)
    (hands : Answer.Hands fun record => finish (.ofRecord mapper.dest record)) :
    world.Step held request { aim := world.erasedAction? id input }
      (⟨holds ++ (world.runErased id mapper input).1.holds,
        ((world.runErased id mapper input).1.check finish).script⟩,
        (world.runErased id mapper input).2) := by
  by_cases fits : input.type = .record mapper.source
  · have comes := (world.runMapper_comes id mapper input.value.fields none).check
      fun record => .ok (Erased.ofRecord mapper.dest record)
    simp only [erasedAction?, found, Mapper.erasedAction?, fits, if_true, Option.map_some,
      runErased, Erased.valueAs, Launch.map_eq_check]
    refine .act found (fun grounded hold mem => ?_)
      (((comes.check finish).holding _).runs hands).serves
    rcases List.mem_append.mp mem with mem | mem
    · exact owners grounded hold mem
    · obtain rfl := runMapper_holds mem
      exact .mapper (owned grounded)
  · simp only [erasedAction?, found, Mapper.erasedAction?, fits, if_false, Option.map_none,
      runErased, Erased.valueAs, Launch.now, List.append_nil]
    exact .start (.nothing (.error _) owners)

theorem callMapper_step {call : MapperCall κ} (asks : world.Addresses request (.mapper id call))
    (found : world.mappers[id]? = some mapper)
    (owned : request.Grounded held → world.Owned held id) :
    world.Step held request { aim := world.mapperAction? id call }
      (world.callMapper id mapper call) := by
  unfold mapperAction?
  rw [found]
  cases call with
  | ignore | assignMember | assignComputed | runBefore | runAfter | construct =>
    refine .act found (fun _ _ mem => absurd mem List.not_mem_nil) ?_
    exact act_comes callMapper.done (fun _ _ => .done) (fun _ _ => rfl) (fun _ _ => rfl) ..
  | assignSource dest expression =>
    dsimp only [Mapper.action?, callMapper]
    rcases world.handles.get? expression with _ | handle
    · exact .answer _
    · cases handle with
      | source source =>
        refine .act found (fun _ _ mem => absurd mem List.not_mem_nil) ?_
        exact act_comes callMapper.done (fun _ _ => .done) (fun _ _ => rfl) (fun _ _ => rfl) ..
      | _ => exact .answer _
  | compile keep | recompile keep =>
    refine .act found (fun _ _ mem => absurd mem List.not_mem_nil) ?_
    exact act_comes (fun done => callMapper.reply (present keep done))
      (fun _ _ => .plan (.plan keep)) (fun _ _ => rfl) (fun _ _ => rfl) ..
  | bindings =>
    refine .act found (fun _ _ mem => absurd mem List.not_mem_nil) ?_
    exact act_comes
      (fun done => (.now (done.1.map fun (plan : Plan κ) => .bindings plan.bindings), done.2))
      (fun _ _ => .plan .bindings) (fun _ _ => rfl) (fun _ _ => rfl) ..
  | map source dest =>
    have comes := (world.runMapper_comes id mapper (world.schema.record mapper.source source)
      (dest.map (world.schema.record mapper.dest))).check
        fun record => .ok (Answer.value (.record record))
    dsimp only [Mapper.action?, callMapper]
    rw [Launch.map_eq_check]
    refine .act found (fun grounded hold mem => ?_) (comes.runs .value).serves
    obtain rfl := runMapper_holds mem
    exact .mapper (owned grounded)
  | mapErased type source =>
    have step := runErased_step found owned (fun _ _ mem => absurd mem List.not_mem_nil)
      (world.schema.erase type source) (fun erased => .ok (.erased erased)) (.erased mapper.dest)
    simp only [erasedAction?, found] at step
    dsimp only [callMapper]
    rw [Launch.map_eq_check]
    exact step
  | mapConcurrently clients source => exact .start (.clients owned source clients)
  | keepErased keep => exact .erased asks found
  | keepService keep => exact .keep rfl (by simp) _
  | isCompiled | compileCount | types => exact .answer _

/-- A registry maps with the entry that it finds. -/
theorem dispatch_step {registry : Nat} (kept : request.Grounded held → world.Kept held registry)
    (dest : ValueType) (input : Erased) (finish : Erased → Except MappingError Answer)
    (hands : ∀ slot, Answer.Hands fun record => finish (.ofRecord slot record)) :
    world.Step held request { aim := world.dispatchAction? registry dest input }
      ((world.dispatch registry dest input).1.check finish,
        (world.dispatch registry dest input).2) := by
  -- What comes out without a run is only finished.
  have ended (outcome : Outcome Erased) :
      world.Starts held request ((Launch.now outcome).check finish) := by
    obtain ⟨checked, same⟩ := Launch.check_ofOutcome (κ := κ) outcome finish
    have checks : (Launch.now outcome : Launch κ Erased).check finish =
        ⟨[], Launch.ofOutcome checked⟩ := congrArg (Launch.mk []) same
    rw [checks]
    exact .nothing checked fun _ _ mem => absurd mem List.not_mem_nil
  obtain ⟨outcome, rest, lookup⟩ : ∃ outcome rest,
    (world.registry registry).lookup (input.type, dest) = (outcome, rest) := ⟨_, _, rfl⟩
  simp only [dispatchAction?, dispatch, lookup]
  rcases outcome with (⟨id, source, dest⟩ | double | custom) | cause | text
  · cases found : world.mappers[id]? with
    | none =>
      simp only [erasedAction?, found]
      exact .start (ended _)
    | some mapper =>
      have listed := OrderedMap.mem_of_get? (Registry.get?_of_lookup lookup)
      simp only [found]
      -- The mapper is owned by its entry, and that by a registry with an owner.
      exact runErased_step found (fun grounded => .entry (kept grounded) listed)
        (fun grounded => List.forall_mem_singleton.mpr (.registry (kept grounded))) input finish
        (hands mapper.dest)
  · exact .note input (ended _)
  · exact .start (.custom kept custom input finish)
  · exact .start (ended _)
  · exact .start (ended _)

omit [Closures κ] in
theorem setRegistry_self (world : World κ) (id : Nat) :
    world.setRegistry id (world.registry id) = world := by
  have same : world.registries.set id (world.registry id) = world.registries := by
    unfold registry
    by_cases bound : id < world.registries.length
    · simp [List.getD_eq_getElem?_getD, bound]
    · exact List.set_eq_of_length_le (by omega)
  rw [setRegistry, same]

omit [Closures κ] in
theorem consult_of_same {id : Nat} {action : Registry κ → Outcome α × Registry κ}
    (same : (action (world.registry id)).2 = world.registry id) :
    (world.consult id action).2 = world :=
  (congrArg (world.setRegistry id) same).trans (world.setRegistry_self id)

theorem callRegistry_step {id : Nat} (call : Registry.Call κ)
    (kept : request.Grounded held → world.Kept held id) :
    world.Step held request
      { aim := world.registryAction? id call
        deed := (world.callDeed? call).map fun deed => (id, deed) }
      (world.callRegistry id call) := by
  cases call with
  | map source dest value =>
    exact dispatch_step kept dest (world.schema.erase source value)
      (fun erased => (erased.valueAs dest).map .value) fun slot => .expected slot dest
  | mapErased source dest value =>
    dsimp only [callRegistry]
    rw [Launch.map_eq_check]
    exact dispatch_step kept dest (world.schema.erase source value)
      (fun erased => .ok (.erased erased)) .erased
  | register name =>
    dsimp only [callDeed?, callRegistry]
    rcases world.handles.get? name with _ | handle
    · exact .answer _
    · cases handle with
      | mapper other =>
        dsimp only
        cases found : world.mappers[other]? with
        | none => exact .answer _
        | some mapper =>
          refine .enroll fun target source dest same => ?_
          obtain ⟨rfl, rfl, rfl⟩ := Entry.mapper.inj same
          exact ⟨mapper, found, rfl, rfl⟩
      | _ => exact .answer _
  | registerStandIn double => exact .enroll fun _ _ _ same => by simp at same
  | registerCustom mapper => exact .enroll fun _ _ _ same => by simp at same
  | remove source dest => exact .settle (by simp) _
  | pairs => exact .settle (by simp) _
  | contains source dest =>
    -- A question leaves the registry as it is, so it counts as no deed.
    dsimp only [callRegistry, callRegistry.answering]
    have same : (world.consult id (·.contains (source, dest))).2 = world :=
      consult_of_same (Registry.guarded_same (fun _ => rfl) _)
    rw [same]
    exact .answer _
  | size | isEmpty =>
    dsimp only [callRegistry, callRegistry.answering]
    have same : (world.consult id (·.size)).2 = world :=
      consult_of_same (Registry.guarded_same (fun _ => rfl) _)
    rw [same]
    exact .answer _

theorem callTable_step {name : String} {table : Nat} (named : world.table? name = some table)
    (call : TableCall κ) :
    world.Step held request { conversion := world.conversion? (.operation (.table name call)) }
      (world.callTable table call) := by
  cases call with
  | register source dest convert =>
    simp only [conversion?, named]
    exact .convert source dest convert
  | registerMapper nested =>
    simp only [conversion?, named, callTable]
    cases nests : world.mapper? nested with
    | none => exact .answer _
    | some found =>
      obtain ⟨id, mapper⟩ := found
      exact .nest (mapper?_found nests).2
  | contains source dest => exact .answer _

theorem callErased_step (name : String) (erased : Erased) (call : ErasedCall κ) :
    world.Step held request {} (world.callErased name erased call) := by
  cases call with
  | modify type change =>
    dsimp only [callErased]
    split
    next => exact .start (.change name type erased.value change)
    next => exact .answer _
  | take type => exact .drop name _
  | isType | hasType | get => exact .answer _

theorem inspect_step (name : String) :
    world.Step held request { deed := world.deed? (.operation (.inspect name)) }
      (world.inspect name) := by
  dsimp only [deed?, inspect]
  rcases world.handles.get? name with _ | handle
  · exact .answer _
  · cases handle with
    | mapper id =>
      dsimp only
      split <;> exact .answer _
    | registry id =>
      have shown : (world.consult id (·.shown)).2 =
          world.setRegistry id (Registry.Deed.list.onto (world.registry id)) :=
        congrArg (world.setRegistry id) (world.registry id).shown_onto
      dsimp only [answered]
      rw [shown]
      exact .settle (by simp) _
    | _ => exact .answer _

theorem perform_step (operation : Operation κ) :
    world.Step held (.operation operation) (world.bearing held (.operation operation))
      (world.perform operation) := by
  cases operation with
  | mapper name call =>
    dsimp only [bearing, action?, operationAction?, perform, mapper?]
    cases named : world.handles.get? name with
    | none => exact .answer _
    | some handle =>
      cases handle with
      | mapper id =>
        dsimp only
        cases found : world.mappers[id]? with
        | some mapper =>
          -- The handle that names the mapper owns it.
          exact callMapper_step (.mapper call named found) found
            fun _ => .handle (OrderedMap.mem_of_get? named)
        | none =>
          simp only [mapperAction?, found]
          exact .answer _
      | _ => exact .answer _
  | callErased name type value =>
    dsimp only [bearing, action?, operationAction?, perform]
    cases named : world.handles.get? name with
    | none => exact .answer _
    | some handle =>
      cases handle with
      | erasedMapper id =>
        dsimp only
        cases found : world.mappers[id]? with
        | some mapper =>
          exact callMapper_step (.erased type value named found) found
            fun _ => .erased (OrderedMap.mem_of_get? named)
        | none =>
          simp only [mapperAction?, found]
          exact .answer _
      | _ => exact .answer _
  | registry name call =>
    dsimp only [bearing, action?, operationAction?, deed?, perform]
    cases named : world.handles.get? name with
    | none => exact .answer _
    | some handle =>
      cases handle with
      | registry id =>
        exact callRegistry_step call fun _ => .handle (OrderedMap.mem_of_get? named)
      | _ => exact .answer _
  | table name call =>
    dsimp only [bearing, perform]
    cases named : world.table? name with
    | some table => exact callTable_step named call
    | none =>
      cases call with
      | register | registerMapper =>
        simp only [conversion?, named]
        exact .answer _
      | contains => exact .answer _
  | resolve name question type value =>
    dsimp only [bearing, posed, perform]
    cases world.service? name with
    | some service => exact .ask service question _
    | none => exact .answer _
  | newService keep table rules =>
    dsimp only [perform]
    cases world.table? table with
    | some id => exact .newService keep ⟨id, rules⟩
    | none => exact .answer _
  | newMapper keep source dest service =>
    cases service with
    | none => exact .newMapper keep (.inr rfl) source dest _
    | some service =>
      dsimp only [perform]
      cases world.service? service with
      | some service => exact .newMapper keep (.inl rfl) source dest service
      | none => exact .answer _
  | planInfo name =>
    dsimp only [perform]
    rcases world.handles.get? name with _ | handle
    · exact .answer _
    · cases handle <;> exact .answer _
  | planRun name source dest =>
    dsimp only [perform]
    cases named : world.handles.get? name with
    | none => exact .answer _
    | some handle =>
      cases handle with
      | plan plan => exact .start (.plan named _ _)
      | _ => exact .answer _
  | memberSource keep slot name =>
    dsimp only [perform]
    split
    next => exact .keep rfl (by simp) _
    next => exact .answer _
  | erased name call =>
    dsimp only [perform]
    rcases world.handles.get? name with _ | handle
    · exact .answer _
    · cases handle with
      | erased erased => exact callErased_step name erased call
      | _ => exact .answer _
  | copy keep name =>
    dsimp only [perform]
    cases named : world.handles.get? name with
    | some handle => exact .copy named
    | none => exact .answer _
  | newTable keep => exact .newTable keep
  | newRegistry keep => exact .newRegistry keep
  | computedSource | newErased => exact .keep rfl (by simp) _
  | drop name => exact .drop name _
  | inspect name => exact inspect_step name
  | members | compareTypes | examine | same => exact .answer _

/-- Every request is a step, whatever is held. -/
theorem serve_step (world : World κ) (held : List Hold) (request : Request κ) :
    world.Step held request (world.bearing held request) (world.serve held request) := by
  cases request with
  | operation operation => exact perform_step operation
  | mapper id call =>
    dsimp only [bearing, action?, serve]
    cases found : world.mappers[id]? with
    | some mapper => exact callMapper_step (.itself _) found fun grounded => .running grounded
    | none =>
      simp only [mapperAction?, found]
      exact .answer _
  | convert id input =>
    dsimp only [bearing, action?, serve]
    cases found : world.mappers[id]? with
    | none =>
      simp only [erasedAction?, found, ite_self]
      exact .answer _
    | some mapper =>
      -- A converter gets at its mapper only while somebody else owns that.
      by_cases lives : world.alive held id = true
      · simp only [lives, if_true, Launch.map_eq_check]
        exact runErased_step found (fun _ => alive_iff.mp lives)
          (fun _ _ mem => absurd mem List.not_mem_nil) input (fun erased => .ok (.erased erased))
          (.erased mapper.dest)
      · simp only [lives]
        exact .answer _
  | registry id call => exact callRegistry_step call fun grounded => .running grounded
  | keep name erased => exact .keep rfl (by simp) _
  | mapComputed name input scope =>
    dsimp only [serve]
    cases named : world.handles.get? name with
    | none => exact .answer _
    | some handle =>
      cases handle with
      | mapper id =>
        exact .start (.computed (.mapper (.handle (OrderedMap.mem_of_get? named))) input scope
          fun _ => List.mem_cons_self)
      | _ => exact .answer _
  | dispatchComputed name source dest input scope =>
    dsimp only [serve]
    cases named : world.handles.get? name with
    | none => exact .answer _
    | some handle =>
      cases handle with
      | registry id =>
        exact .start (.computed (.registry (.handle (OrderedMap.mem_of_get? named))) input scope
          fun _ => List.mem_cons_self)
      | _ => exact .answer _

omit [Closures κ] in
/-- An entry is enrolled, and it may be reported. -/
theorem enroll_world (world : World κ) (id : Nat) (entry : Entry κ) :
    let enrolled := world.setRegistry id (Registry.Deed.onto (world.registry id) (.enroll entry))
    (world.enroll id entry).2 = enrolled ∨
      ∃ event, (world.enroll id entry).2 = enrolled.report event := by
  dsimp only [enroll, consult, Registry.Deed.onto]
  rcases (world.registry id).register entry with ⟨_ | _ | _, next⟩
  · exact .inr ⟨_, rfl⟩
  · exact .inl rfl
  · exact .inl rfl

theorem resolve_world (world : World κ) (service : ServiceId) (question : Question)
    (input : Erased) : (world.resolve service question input).2 = world.asked service question := by
  dsimp only [resolve, asked]
  rcases world.surroundings.ask world.schema service question with ⟨_ | _ | _, surroundings⟩ <;> rfl

/-- An action may end in a plan that its caller keeps; nothing else happens after it. -/
theorem Comes.later {done : Outcome (Option (Plan κ)) × World κ}
    {served : Launch κ Answer × World κ} (comes : Comes Given done served) :
    served.2 = done.2 ∨ ∃ plan name, done.1 = .ok (some plan) ∧
      served.2 = done.2.keep name (.plan plan) := by
  obtain ⟨outcome, next⟩ := done
  cases outcome with
  | error cause | panic text => exact .inl comes.2
  | ok result =>
    cases comes with
    | done => exact .inl rfl
    | @plan plan _ _ serves =>
      cases serves with
      | bindings => exact .inl rfl
      | run hands runs => exact .inl runs.world
      | plan keep =>
        cases keep with
        | none => exact .inl rfl
        | some name => exact .inr ⟨plan, name, rfl, rfl⟩

theorem Step.follows {bearing : Bearing κ} {served : Launch κ Answer × World κ}
    (step : world.Step held request bearing served) : world.Follows bearing.aim served := by
  cases step with
  | act found owners comes => exact ⟨_, found, comes⟩
  | newMapper name made source dest service =>
    have fresh : ∀ mapper ∈ [Mapper.new source dest service], ∃ source dest service,
        (mapper : Mapper κ) = .new source dest service :=
      fun _ mem => ⟨source, dest, service, List.mem_singleton.mp mem⟩
    rcases made with rfl | rfl <;> exact ⟨rfl, _, rfl, fresh⟩
  | @enroll id entry =>
    dsimp only [Follows]
    obtain same | ⟨event, same⟩ := world.enroll_world id entry <;>
      (rw [same]; exact .of_same rfl rfl)
  | ask service question input =>
    dsimp only [Follows]
    rw [resolve_world]
    exact .of_same rfl rfl
  | start | note | keep | copy | erased | drop | newTable | newService | newRegistry | settle
  | convert | nest => exact .of_same rfl rfl

/-- Every request follows from the action at which it aims. -/
theorem serve_follows (world : World κ) (held : List Hold) (request : Request κ) :
    world.Follows (world.action? held request) (world.serve held request) :=
  (world.serve_step held request).follows

end

end World

end RecordMapping
