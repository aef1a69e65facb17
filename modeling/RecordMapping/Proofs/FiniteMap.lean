import RecordMapping.Proofs.Standing

namespace RecordMapping

variable {κ α : Type}

open Registry (Deed Standing Present Brittle Spoiled)

namespace Registry

variable {registry : Registry κ} {deeds : List (Deed κ)} {pair : ValueType × ValueType}

theorem Reflects.contains_iff (reflects : registry.Reflects deeds) (unspoiled : ¬ Spoiled deeds) :
    registry.entries.contains pair = true ↔ Present deeds pair := by
  rw [← reflects.mem_keys unspoiled, OrderedMap.contains_iff_mem, OrderedMap.keys, List.mem_map]

theorem Reflects.absent (reflects : registry.Reflects deeds) (unspoiled : ¬ Spoiled deeds)
    (absent : ¬ Present deeds pair) : registry.entries.get? pair = none := by
  rw [Option.eq_none_iff_forall_ne_some]
  intro entry found
  exact absent ⟨entry, (reflects.standing (reflects.healthy unspoiled) pair entry).mp found⟩

/-- The pairs are listed without repetition, in the order of their names. -/
theorem Reflects.listed (reflects : registry.Reflects deeds) (unspoiled : ¬ Spoiled deeds)
    (sound : ¬ Brittle deeds) :
    ∃ listed, registry.pairs = (.ok listed, registry) ∧ listed.Nodup ∧
      (∀ pair, pair ∈ listed ↔ Present deeds pair) ∧ listed.length = registry.entries.size := by
  have healthy := reflects.healthy unspoiled
  have calm : registry.entries.values.any Entry.panics = false := by
    rw [← Bool.not_eq_true, reflects.brittle_iff healthy]
    exact sound
  refine ⟨registry.entries.keys.mergeSort inOrder, ?_, ?_, ?_, ?_⟩
  · simp [pairs, guarded, healthy, reported, calm, reflects.types_eq_keys, Outcome.map]
  · exact (List.mergeSort_perm _ _).nodup_iff.mpr reflects.distinct
  · intro pair
    rw [List.mem_mergeSort, reflects.mem_keys unspoiled]
  · simp [OrderedMap.keys, OrderedMap.size]

end Registry

def StandIn.reply (schema : Schema) (double : StandIn) : Reply :=
  match double.failure with
  | some cause => .error cause
  | none => .ok (.erased (schema.erase double.type double.value))

def CustomMapper.reply (custom : CustomMapper κ) : Except String Value → Reply
  | .ok result => .ofExcept ((custom.judge result).map .erased)
  | .error text => .panic text

namespace World

section

variable {world : World κ} {id : Nat}

theorem registry_setRegistry {id : Nat} (made : id < world.registries.length)
    (registry : Registry κ) : (world.setRegistry id registry).registry id = registry := by
  simp [World.registry, setRegistry, List.getD_eq_getElem?_getD, made]

theorem made_of_entry {pair : ValueType × ValueType} {entry : Entry κ}
    (found : (world.registry id).entries.get? pair = some entry) :
    id < world.registries.length := by
  refine Nat.lt_of_not_le fun beyond => ?_
  have empty : (world.registry id).entries.get? pair = none := by
    rw [registry, List.getD_eq_getElem?_getD, List.getElem?_eq_none beyond]
    rfl
  simp [empty] at found

end

variable [Closures κ] {world : World κ} {held : List Hold} {id : Nat} {request : Request κ}
  {deeds : List (Deed κ)}

/-- A call that only asks the registry is over at once. -/
theorem answer_answering {action : Registry κ → Outcome α × Registry κ} {f : α → Answer}
    {call : Registry.Call κ} (asks : world.Addresses request (.registry id call))
    (does : world.callRegistry id call = callRegistry.answering (world.consult id action) f)
    (depth : Nat) (held : List Hold) :
    world.answer (depth + 1) held request =
      some ((action (world.registry id)).1.map f,
        world.setRegistry id (action (world.registry id)).2) := by
  rw [asks.answer, answer_succ_eq]
  simp only [serve, does]
  exact Launch.outcome_now _ _ _ _

/-- A call that enrolls an entry does nothing else. -/
theorem callRegistry_of_enroll {call : Registry.Call κ} {entry : Entry κ}
    (enrolls : world.callDeed? call = some (.enroll entry)) :
    world.callRegistry id call = world.enroll id entry := by
  obtain ⟨name, mapperId, mapper, rfl, named, found, rfl⟩ | ⟨double, rfl, rfl⟩ |
    ⟨custom, rfl, rfl⟩ := enroll_cases enrolls
  · simp only [callRegistry, named, found]
  · rfl
  · rfl

theorem answer_register (unspoiled : (world.registry id).poisoned = false) {call : Registry.Call κ}
    {entry : Entry κ} (asks : world.Addresses request (.registry id call))
    (enrolls : world.callDeed? call = some (.enroll entry)) (depth : Nat) (held : List Hold) :
    ∃ later, world.answer (depth + 1) held request = some (.ok .unit, later) := by
  obtain ⟨later, enrolled⟩ : ∃ later, world.enroll id entry = (.now (.ok .unit), later) := by
    simp only [enroll, consult, Registry.register, Registry.guarded, unspoiled]
    exact ⟨_, rfl⟩
  refine ⟨later, ?_⟩
  rw [asks.answer, answer_succ_eq]
  simp only [serve, callRegistry_of_enroll enrolls, enrolled]
  exact Launch.outcome_now _ _ _ _

inductive Dispatches (world : World κ) (id : Nat) (source dest : ValueType) (value : Value)
    (request : Request κ) : Prop where
  | map (asks : world.Addresses request (.registry id (.map source dest value)))
  | erased (asks : world.Addresses request (.registry id (.mapErased source dest value)))

variable {source dest : ValueType} {value : Value}

/-- A typed mapping is an erased one, whose result has to be of the type that was asked for. -/
theorem answer_map {request' : Request κ}
    (asks : world.Addresses request (.registry id (.map source dest value)))
    (asks' : world.Addresses request' (.registry id (.mapErased source dest value)))
    (depth : Nat) (held : List Hold) :
    world.answer depth held request =
      (world.answer depth held request').map
        fun ended => (Outcome.expecting dest ended.1, ended.2) := by
  cases depth with
  | zero => rfl
  | succ depth =>
    rw [asks.answer, asks'.answer, answer_succ_eq, answer_succ_eq]
    exact Launch.outcome_expecting _ _ _ _

/-- A lookup that fails is the answer. -/
theorem answer_of_lookup_error (dispatches : world.Dispatches id source dest value request)
    {cause : MappingError} {rest : Registry κ}
    (failed : (world.registry id).lookup (source, dest) = (.error cause, rest)) (depth : Nat)
    (held : List Hold) : world.answer (depth + 1) held request = some (.error cause, world) := by
  have dispatched : world.dispatch id dest (world.schema.erase source value) =
      (.now (.error cause), world) := by
    have typed : (world.schema.erase source value).type = source := rfl
    rw [dispatch, typed, failed]
  cases dispatches with
  | map asks =>
    rw [asks.answer, answer_succ_eq]
    simp only [serve, callRegistry, dispatched]
    rfl
  | erased asks =>
    rw [asks.answer, answer_succ_eq]
    simp only [serve, callRegistry, dispatched]
    rfl

theorem answer_standIn
    (asks : world.Addresses request (.registry id (.mapErased source dest value)))
    {double : StandIn} {rest : Registry κ}
    (found : (world.registry id).lookup (source, dest) = (.ok (.standIn double), rest))
    (depth : Nat) (held : List Hold) :
    world.answer (depth + 1) held request =
      some (double.reply world.schema,
        world.write (.standIn (world.schema.erase source value))) := by
  have typed : (world.schema.erase source value).type = source := rfl
  rw [asks.answer, answer_succ_eq]
  simp only [serve, callRegistry, dispatch, typed, found, runStandIn, StandIn.reply]
  cases double.failure <;> rfl

/-- A custom mapper runs its closure on the value, while the registry is held. -/
theorem answer_custom (asks : world.Addresses request (.registry id (.mapErased source dest value)))
    {custom : CustomMapper κ} {rest : Registry κ}
    (found : (world.registry id).lookup (source, dest) = (.ok (.custom custom), rest))
    (depth : Nat) (held : List Hold) :
    world.answer (depth + 1) held request =
      ((Closures.compute custom.compute (world.schema.erase source value).value).exec
          (answer depth) (.registry id :: held) world).map
        fun ended => (custom.reply ended.1, ended.2) := by
  have typed : (world.schema.erase source value).type = source := rfl
  rw [asks.answer, answer_succ_eq]
  simp only [serve, callRegistry, dispatch, typed, found, runCustom, Launch.holding]
  unfold Launch.outcome Launch.map
  rw [Script.exec_run_map, Script.exec_run_bind, Script.exec_run_lift]
  simp only [List.singleton_append]
  rcases (Closures.compute custom.compute (world.schema.erase source value).value).exec
    (answer depth) (.registry id :: held) world with _ | ⟨_ | result, later⟩
  · rfl
  · rfl
  · simp only [Option.map_some, Except.map, Script.exec_run_liftM, CustomMapper.reply]
    cases custom.judge result <;> rfl

/-- The mapper that is looked up is run as if it were called itself, while the registry is held,
and whatever becomes of its entry meanwhile. -/
theorem answer_dispatched {mapperId : MapperId} {mapper : Mapper κ} {given wanted : Slot}
    {rest : Registry κ}
    (asks : world.Addresses request (.registry id (.mapErased source dest value)))
    (looked : (world.registry id).lookup (source, dest) =
      (.ok (.mapper mapperId given wanted), rest))
    (found : world.mappers[mapperId]? = some mapper) (depth : Nat) (held : List Hold) :
    world.answer depth held request =
      world.answer depth (.registry id :: held) (.mapper mapperId (.mapErased source value)) := by
  cases depth with
  | zero => rfl
  | succ depth =>
    have typed : (world.schema.erase source value).type = source := rfl
    rw [asks.answer, answer_succ_eq, answer_succ_eq]
    simp only [serve, found, callMapper, callRegistry, dispatch, typed, looked]
    generalize world.runErased mapperId mapper (world.schema.erase source value) = run
    have same (hold : Hold) : hold ∈ run.1.holds ++ (.registry id :: held) ↔
        hold ∈ .registry id :: run.1.holds ++ held := by
      simp only [List.mem_append, List.mem_cons, or_assoc]
      exact or_left_comm
    have all : ∀ moment ∈ (run.1.map Answer.erased).script.run.trace (answer depth) (trace depth)
        (.registry id :: run.1.holds ++ held) run.2, True := fun _ _ => trivial
    have alike := Script.exec_congr (fun _ _ _ => answer_congr_held same) all
    simp only [Launch.outcome, Launch.map, Launch.holding] at alike ⊢
    rw [← alike]

/-- A registry that is poisoned turns every call away. -/
theorem answer_of_poisoned (poisoned : (world.registry id).poisoned = true) {call : Registry.Call κ}
    (asks : world.Addresses request (.registry id call))
    (ready : ∀ name, call = .register name → ∃ entry, world.callDeed? call = some (.enroll entry))
    (depth : Nat) (held : List Hold) :
    world.answer (depth + 1) held request = some (.error .lockPoisoned, world) := by
  have locked : world.setRegistry id (world.registry id) = world := world.setRegistry_self id
  have enrolled (entry : Entry κ) :
      world.enroll id entry = (.now (.error .lockPoisoned), world) := by
    simp only [enroll, consult, Registry.register, Registry.guarded, poisoned, if_true, locked]
    rfl
  cases call with
  | map source dest value =>
    exact answer_of_lookup_error (.map asks) (Registry.lookup_of_poisoned poisoned) depth held
  | mapErased source dest value =>
    exact answer_of_lookup_error (.erased asks) (Registry.lookup_of_poisoned poisoned) depth held
  | register name =>
    obtain ⟨entry, enrolls⟩ := ready name rfl
    rw [asks.answer, answer_succ_eq]
    simp only [serve, callRegistry_of_enroll enrolls, enrolled]
    exact Launch.outcome_now _ _ _ _
  | registerStandIn | registerCustom =>
    rw [asks.answer, answer_succ_eq]
    simp only [serve, callRegistry, enrolled]
    exact Launch.outcome_now _ _ _ _
  | contains source dest =>
    rw [answer_answering asks rfl]
    simp [Registry.contains, Registry.guarded, poisoned, locked, Outcome.map]
  | remove source dest =>
    rw [answer_answering asks rfl]
    simp [Registry.remove, Registry.guarded, poisoned, locked, Outcome.map]
  | size | isEmpty =>
    rw [answer_answering asks rfl]
    simp [Registry.size, Registry.guarded, poisoned, locked, Outcome.map]
  | pairs =>
    rw [answer_answering asks rfl]
    simp [Registry.pairs, Registry.guarded, poisoned, locked, Outcome.map]

/-- What the debugging form of a registry answers. -/
theorem answer_inspect {name : String} (named : world.handles.get? name = some (.registry id))
    (depth : Nat) (held : List Hold) :
    world.answer (depth + 1) held (.operation (.inspect name)) =
      some ((world.registry id).shown.1.map .text,
        world.setRegistry id (world.registry id).shown.2) := by
  rw [answer_succ_eq]
  simp only [serve, perform, inspect, named]
  exact Launch.outcome_now _ _ _ _

/-- The request lists the registry, for its pairs or in its debugging form. -/
inductive Lists (world : World κ) (id : Nat) : Request κ → Prop where
  | pairs {request : Request κ} (asks : world.Addresses request (.registry id .pairs)) :
    Lists world id request
  | inspect {name : String} (named : world.handles.get? name = some (.registry id)) :
    Lists world id (.operation (.inspect name))

theorem answer_of_brittle (healthy : (world.registry id).poisoned = false)
    (brittle : (world.registry id).entries.values.any Entry.panics = true)
    (lists : world.Lists id request) (depth : Nat) (held : List Hold) :
    world.answer (depth + 1) held request =
      some (.panic StandIn.panicText,
        world.setRegistry id { world.registry id with poisoned := true }) := by
  cases lists with
  | pairs asks =>
    rw [answer_answering asks rfl]
    simp [Registry.pairs, Registry.guarded, healthy, Registry.reported, brittle, Outcome.map]
  | inspect named =>
    rw [answer_inspect named]
    simp [Registry.shown, healthy, Registry.reported, brittle, Outcome.map]

/-- A registry answers as the finite map that is left of the deeds that were done to it. -/
structure Refines (world : World κ) (id : Nat) (deeds : List (Deed κ)) : Prop where
  /-- What is registered for a pair is what was enrolled for it last and not removed since. -/
  standing : ¬ Spoiled deeds → ∀ pair entry,
    (world.registry id).entries.get? pair = some entry ↔ Standing deeds pair entry
  registers : ¬ Spoiled deeds → ∀ depth held request call entry,
      world.Addresses request (.registry id call) → world.callDeed? call = some (.enroll entry) →
    ∃ later, world.answer (depth + 1) held request = some (.ok .unit, later)
  contains : ¬ Spoiled deeds → ∀ depth held request source dest,
      world.Addresses request (.registry id (.contains source dest)) →
    ∃ present, world.answer (depth + 1) held request = some (.ok (.flag present), world) ∧
      (present = true ↔ Present deeds (source, dest))
  removes : ¬ Spoiled deeds → ∀ depth held request source dest,
      world.Addresses request (.registry id (.remove source dest)) →
    ∃ present later, world.answer (depth + 1) held request = some (.ok (.flag present), later) ∧
      (present = true ↔ Present deeds (source, dest))
  size : ¬ Spoiled deeds → ∃ listed : List (ValueType × ValueType),
    listed.Nodup ∧ (∀ pair, pair ∈ listed ↔ Present deeds pair) ∧
      (∀ depth held request, world.Addresses request (.registry id .size) →
        world.answer (depth + 1) held request =
          some (.ok (.size listed.length (listed.length == 0)), world)) ∧
      ∀ depth held request, world.Addresses request (.registry id .isEmpty) →
        world.answer (depth + 1) held request = some (.ok (.flag (listed.length == 0)), world)
  pairs : ¬ Spoiled deeds → ¬ Brittle deeds → ∃ listed : List (ValueType × ValueType),
    listed.Nodup ∧ (∀ pair, pair ∈ listed ↔ Present deeds pair) ∧
      ∀ depth held request, world.Addresses request (.registry id .pairs) →
        world.answer (depth + 1) held request = some (.ok (.pairs listed), world)
  absent : ¬ Spoiled deeds → ∀ depth held request source dest value,
      ¬ Present deeds (source, dest) → world.Dispatches id source dest value request →
    world.answer (depth + 1) held request =
      some (.error (.noMapper source.name dest.name), world)
  /-- The mapper that stands when the call is made is run as if it were called itself, with the
  registry held, and whatever its run does to the registry. -/
  mapper : ¬ Spoiled deeds → ∀ source dest mapperId given wanted,
      Standing deeds (source, dest) (.mapper mapperId given wanted) →
    (source, dest) = (.record given, .record wanted) ∧
      (∃ mapper, world.mappers[mapperId]? = some mapper ∧ mapper.source = given ∧
        mapper.dest = wanted) ∧
      ∀ depth held request value,
        world.Addresses request (.registry id (.mapErased source dest value)) →
          world.answer depth held request =
            world.answer depth (.registry id :: held) (.mapper mapperId (.mapErased source value))
  standIn : ¬ Spoiled deeds → ∀ source dest double,
      Standing deeds (source, dest) (.standIn double) → ∀ depth held request value,
        world.Addresses request (.registry id (.mapErased source dest value)) →
    world.answer (depth + 1) held request =
      some (double.reply world.schema,
        world.write (.standIn (world.schema.erase source value)))
  /-- A custom mapper runs its closure, whatever that does, and judges what it comes to. -/
  custom : ¬ Spoiled deeds → ∀ source dest custom,
      Standing deeds (source, dest) (.custom custom) → ∀ depth held request value,
        world.Addresses request (.registry id (.mapErased source dest value)) →
    world.answer (depth + 1) held request =
      ((Closures.compute custom.compute (world.schema.erase source value).value).exec
          (answer depth) (.registry id :: held) world).map
        fun ended => (custom.reply ended.1, ended.2)
  /-- A typed mapping succeeds only with a value of the type that was asked for. -/
  typed : ∀ depth held request request' source dest value,
      world.Addresses request (.registry id (.map source dest value)) →
      world.Addresses request' (.registry id (.mapErased source dest value)) →
    world.answer depth held request =
      (world.answer depth held request').map
        fun ended => (Outcome.expecting dest ended.1, ended.2)
  /-- A panic while the registry is listed poisons it, and nothing else does. -/
  poisoned : (world.registry id).poisoned = true ↔ Spoiled deeds
  panics : ¬ Spoiled deeds → Brittle deeds → ∀ depth held request, world.Lists id request →
    ∃ later, world.answer (depth + 1) held request = some (.panic StandIn.panicText, later) ∧
      (later.registry id).poisoned = true
  locked : Spoiled deeds → ∀ depth held request call,
      world.Addresses request (.registry id call) →
      (∀ name, call = .register name → ∃ entry, world.callDeed? call = some (.enroll entry)) →
    world.answer (depth + 1) held request = some (.error .lockPoisoned, world)
  shown : Spoiled deeds → ∀ depth held name,
      world.handles.get? name = some (.registry id) →
    world.answer (depth + 1) held (.operation (.inspect name)) =
      some (.ok (.text (Text.shownList [])), world)
  /-- Only deeds change the registry, and they count whatever the requests come to in which they
  are done: a mapper that fails or panics leaves it as it is otherwise. -/
  later : ∀ depth held request reply later,
      world.answer depth held request = some (reply, later) →
    later.registry id = (Registry.deeds id (world.trace depth held request)).foldl Deed.onto
        (world.registry id) ∧
      (later.registry id).Reflects (deeds ++ Registry.deeds id (world.trace depth held request))

/-- A registry that reflects its deeds, and whose mappers are there, is the finite map. -/
theorem Refines.of_reflects (reflects : (world.registry id).Reflects deeds)
    (known : ∀ pair mapper given wanted, Standing deeds pair (.mapper mapper given wanted) →
      world.slots? mapper = some (given, wanted)) : world.Refines id deeds where
  standing unspoiled := reflects.standing (reflects.healthy unspoiled)
  registers unspoiled depth held request call entry asks enrolls :=
    answer_register (reflects.healthy unspoiled) asks enrolls depth held
  contains unspoiled depth held request source dest asks := by
    refine ⟨(world.registry id).entries.contains (source, dest), ?_,
      reflects.contains_iff unspoiled⟩
    rw [answer_answering asks rfl]
    simp [Registry.contains, Registry.guarded, reflects.healthy unspoiled, Outcome.map,
      setRegistry_self]
  removes unspoiled depth held request source dest asks := by
    have removed : (world.registry id).remove (source, dest) =
        (.ok ((world.registry id).entries.contains (source, dest)),
          { world.registry id with
            entries := (world.registry id).entries.erase (source, dest) }) := by
      simp [Registry.remove, Registry.guarded, reflects.healthy unspoiled]
    have answered := answer_answering asks rfl depth held
    rw [removed] at answered
    exact ⟨_, _, answered, reflects.contains_iff unspoiled⟩
  size unspoiled := by
    refine ⟨(world.registry id).entries.keys, reflects.distinct,
      fun pair => reflects.mem_keys unspoiled, ?_, ?_⟩
    all_goals
      intro depth held request asks
      rw [answer_answering asks rfl]
      simp [Registry.size, Registry.guarded, reflects.healthy unspoiled, Outcome.map,
        setRegistry_self, OrderedMap.keys, OrderedMap.size]
  pairs unspoiled sound := by
    obtain ⟨listed, told, distinct, present, -⟩ := reflects.listed unspoiled sound
    refine ⟨listed, distinct, present, fun depth held request asks => ?_⟩
    rw [answer_answering asks rfl, told, setRegistry_self]
    rfl
  absent unspoiled depth held request source dest value absent dispatches :=
    answer_of_lookup_error dispatches (Registry.lookup_of_absent (reflects.healthy unspoiled)
      (reflects.absent unspoiled absent)) depth held
  mapper unspoiled source dest mapperId given wanted standing := by
    have healthy := reflects.healthy unspoiled
    have entry := (reflects.standing healthy _ _).mpr standing
    obtain ⟨mapper, found, slots⟩ :=
      Option.map_eq_some_iff.mp (known _ mapperId given wanted standing)
    obtain ⟨given, wanted⟩ := Prod.mk.inj slots
    obtain ⟨-, -, -, types, -⟩ := standing
    refine ⟨types.symm, ⟨mapper, found, given, wanted⟩, fun depth held request value asks => ?_⟩
    exact answer_dispatched asks (Registry.lookup_of_found healthy entry) found depth held
  standIn unspoiled source dest double standing depth held request value asks := by
    have healthy := reflects.healthy unspoiled
    have entry := (reflects.standing healthy _ _).mpr standing
    exact answer_standIn asks (Registry.lookup_of_found healthy entry) depth held
  custom unspoiled source dest custom standing depth held request value asks := by
    have healthy := reflects.healthy unspoiled
    have entry := (reflects.standing healthy _ _).mpr standing
    exact answer_custom asks (Registry.lookup_of_found healthy entry) depth held
  typed depth held request request' source dest value asks asks' := answer_map asks asks' depth held
  poisoned := reflects.poisoned
  panics unspoiled brittle depth held request lists := by
    have healthy := reflects.healthy unspoiled
    refine ⟨_, answer_of_brittle healthy ((reflects.brittle_iff healthy).mpr brittle) lists depth
      held, ?_⟩
    obtain ⟨pair, entry, standing, -⟩ := brittle
    rw [registry_setRegistry (made_of_entry ((reflects.standing healthy _ _).mpr standing))]
  locked spoiled depth held request call asks ready :=
    answer_of_poisoned (reflects.poisoned.mpr spoiled) asks ready depth held
  shown spoiled depth held name named := by
    rw [answer_inspect named]
    simp [Registry.shown, reflects.poisoned.mpr spoiled, Outcome.map, setRegistry_self]
  later depth held request reply later answered := by
    have changed := (history_trace answered).registry id
    exact ⟨changed, changed ▸ reflects.foldl _⟩

variable {schema : Schema} {tracing : Bool} {past : List (Moment κ)}

/-- The mappers that were enrolled are still there, for the types that they were enrolled for. -/
theorem History.enrolled (history : History (initial schema tracing) past world)
    {mapper : MapperId} {given wanted : Slot}
    (mem : Deed.enroll (.mapper mapper given wanted) ∈ Registry.deeds id past) :
    world.slots? mapper = some (given, wanted) := by
  obtain ⟨moment, mem, done⟩ := List.mem_filterMap.mp mem
  obtain ⟨early, late, rfl⟩ := List.append_of_mem mem
  obtain ⟨-, onward⟩ := history.split
  unfold Moment.deed? at done
  split at done
  next aim deed told =>
    split at done
    next =>
      obtain rfl := Option.some.inj done
      exact onward.slots? (slots?_serve (named_of_enroll told).2)
    next => simp at done
  next => simp at done

/-- In every session that has come of an empty one, registries are finite maps. -/
theorem registry_refines_finite_map (history : History (initial schema tracing) past world)
    (id : Nat) :
    world.Refines id (Registry.deeds id past) := by
  refine .of_reflects (history.reflects id) fun pair mapper given wanted standing => ?_
  obtain ⟨before, after, split, -⟩ := standing
  exact history.enrolled (split ▸ List.mem_append_right _ List.mem_cons_self)

/-- A stand-in that answers with a value of another type, a mapper that takes itself out of the
registry while it runs for it, and a custom one that calls back before it lies about its type. -/
theorem registry_refines_finite_map_of_meddling :
    let double : StandIn := ⟨.i32, .text, .bool, .bool true, none, false⟩
    let custom : CustomMapper Closure :=
      ⟨.text, .i32, .value (.dispatch "g" .i32 .text (.literal (.int 1))),
        fun value => .ok ⟨.text, value⟩, false⟩
    let mismatch (expected actual : ValueType) : MappingError :=
      .typeMismatch expected.name actual.name
    let meddle : Closure := .hook [.perform (.registry "g" (.remove (.record 0) (.record 1)))]
    let operations : List (Operation Closure) :=
      [.newRegistry "g", .copy "h" "g", .registry "h" (.registerStandIn double),
        .registry "g" (.registerCustom custom), .newMapper "m" 0 1 none,
        .registry "g" (.register "m"), .mapper "m" (.runBefore meddle)]
    let first : World Closure := .initial .linked false
    let world := first.after operations
    History first (first.moments operations) world ∧
      world.Refines 0 (Registry.deeds 0 (first.moments operations)) ∧
      (world.answer 4 [] (.operation (.registry "g" (.map .i32 .text (.int 1))))).map (·.1) =
        some (.error (mismatch .text .bool)) ∧
      (world.answer 4 [] (.operation (.registry "h" (.mapErased .text .i32 (.str ""))))).map (·.1) =
        some (.ok (.erased ⟨.text, .str (mismatch .text .bool).message⟩)) ∧
      (world.answer 4 [] (.operation (.registry "h" (.map .text .i32 (.str ""))))).map (·.1) =
        some (.error (mismatch .i32 .text)) ∧
      (world.answer 4 []
          (.operation (.registry "h" (.mapErased (.record 0) (.record 1) (.record []))))).map
        (fun ended => (ended.1, (ended.2.registry 0).entries.keys)) =
        some (.ok (.erased (.ofRecord 1 [])), [(.i32, .text), (.text, .i32)]) := by
  intro double custom mismatch meddle operations first world
  have history : History first (first.moments operations) world := .of_operations first operations
  exact ⟨history, registry_refines_finite_map history 0, by decide +kernel, by decide +kernel,
    by decide +kernel, by decide +kernel⟩

end World

end RecordMapping
