import RecordMapping.Proofs.History

namespace RecordMapping

variable {κ α β : Type}

theorem Outcome.ofRun_eq_ok {ended : Except String (Except MappingError α)} {result : α} :
    Outcome.ofRun ended = .ok result ↔ ended = .ok (.ok result) := by
  rcases ended with _ | _ | _ <;> simp [Outcome.ofRun, Outcome.ofExcept]

theorem Outcome.map_map {γ : Type} (f : α → β) (g : β → γ) (outcome : Outcome α) :
    (outcome.map f).map g = outcome.map fun result => g (f result) := by
  cases outcome <;> rfl

theorem Outcome.ofRun_map (f : α → β) (ended : Except String (Except MappingError α)) :
    Outcome.ofRun (ended.map (Except.map f)) = (Outcome.ofRun ended).map f := by
  rcases ended with _ | _ | _ <;> rfl

namespace Script

section Run

variable {ε : Type} {server : Server κ} {held : List Hold} {world later : World κ}

theorem exec_run_bind (script : ExceptT ε (Script κ) α) (f : α → ExceptT ε (Script κ) β) :
    (script >>= f).run.exec server held world =
      match script.run.exec server held world with
      | some (.ok (.ok result), later) => (f result).run.exec server held later
      | some (.ok (.error cause), later) => some (.ok (.error cause), later)
      | some (.error text, later) => some (.error text, later)
      | none => none := by
  have bound := exec_bind server held script.run (ExceptT.bindCont f) world
  refine Eq.trans bound ?_
  rcases script.run.exec server held world with _ | ⟨_ | _ | _, later⟩ <;> rfl

theorem exec_run_map (f : α → β) (script : ExceptT ε (Script κ) α) :
    (f <$> script).run.exec server held world =
      (script.run.exec server held world).map fun ended =>
        (ended.1.map (Except.map f), ended.2) := by
  rw [map_eq_pure_bind, exec_run_bind]
  rcases script.run.exec server held world with _ | ⟨_ | _ | _, later⟩ <;> rfl

theorem exec_run_lift (script : Script κ α) :
    (ExceptT.lift script : ExceptT ε (Script κ) α).run.exec server held world =
      (script.exec server held world).map fun ended => (ended.1.map .ok, ended.2) := by
  have bound := exec_bind server held script
    (fun result => .done (.ok result : Except ε α)) world
  refine Eq.trans bound ?_
  rcases script.exec server held world with _ | ⟨_ | _, later⟩ <;> rfl

@[simp] theorem exec_pure (result : α) :
    (pure result : Script κ α).exec server held world = some (.ok result, world) :=
  rfl

theorem exec_run_liftM (checked : Except ε α) :
    (liftM checked : ExceptT ε (Script κ) α).run.exec server held world =
      some (.ok checked, world) :=
  rfl

theorem exec_run_bind_ok {script : ExceptT ε (Script κ) α} {f : α → ExceptT ε (Script κ) β}
    {result : β} :
    (script >>= f).run.exec server held world = some (.ok (.ok result), later) ↔
      ∃ first middle, script.run.exec server held world = some (.ok (.ok first), middle) ∧
        (f first).run.exec server held middle = some (.ok (.ok result), later) := by
  rw [exec_run_bind]
  rcases script.run.exec server held world with _ | ⟨_ | _ | first, middle⟩
  · simp
  · simp
  · simp
  · constructor
    · exact fun rest => ⟨first, middle, rfl, rest⟩
    · rintro ⟨_, _, same, rest⟩
      obtain ⟨rfl, rfl⟩ : first = _ ∧ middle = _ := by simpa using same
      exact rest

theorem exec_run_lift_ok {script : Script κ α} {result : α} :
    (ExceptT.lift script : ExceptT ε (Script κ) α).run.exec server held world =
        some (.ok (.ok result), later) ↔
      script.exec server held world = some (.ok result, later) := by
  rw [exec_run_lift]
  rcases script.exec server held world with _ | ⟨_ | _, middle⟩ <;> simp [Except.map]

end Run

/-- A script that asks for nothing comes to one end, with the same entries in the log, wherever it
is run. -/
theorem Quiet.exec_writes {script : Script κ α} (quiet : script.Quiet) :
    ∃ (ended : Except String α) (entries : List LogEntry), ∀ server held world,
      script.exec server held world = some (ended, entries.foldl World.write world) := by
  induction quiet with
  | done result => exact ⟨.ok result, [], fun _ _ _ => rfl⟩
  | panic text => exact ⟨.error text, [], fun _ _ _ => rfl⟩
  | log entry _ ih =>
    obtain ⟨ended, entries, writes⟩ := ih
    exact ⟨ended, entry :: entries, fun server held world => writes server held (world.write entry)⟩

/-- The requests of a script in the order of its run, each with those of the run that it sets
going. -/
def trace (server : Server κ) (inner : World κ → List Hold → Request κ → List (Moment κ))
    (held : List Hold) : Script κ α → World κ → List (Moment κ)
  | .done _, _ | .panic _, _ => []
  | .log entry next, world => next.trace server inner held (world.write entry)
  | .call request next, world =>
    inner world held request ++
      match server world held request with
      | some (reply, later) => (next reply).trace server inner held later
      | none => []

theorem trace_bind (server : Server κ)
    (inner : World κ → List Hold → Request κ → List (Moment κ)) (held : List Hold)
    (script : Script κ α) (f : α → Script κ β) (world : World κ) :
    (script.bind f).trace server inner held world =
      script.trace server inner held world ++
        match script.exec server held world with
        | some (.ok result, later) => (f result).trace server inner held later
        | _ => [] := by
  induction script generalizing world with
  | done result => rfl
  | panic text => rfl
  | log entry next ih => exact ih (world.write entry)
  | call request next ih =>
    simp only [Script.bind, trace, exec]
    cases served : server world held request with
    | none => simp
    | some answered => simpa only [List.append_assoc] using congrArg _ (ih answered.1 answered.2)

theorem trace_run_bind {ε : Type} (server : Server κ)
    (inner : World κ → List Hold → Request κ → List (Moment κ)) (held : List Hold)
    (script : ExceptT ε (Script κ) α) (f : α → ExceptT ε (Script κ) β) (world : World κ) :
    (script >>= f).run.trace server inner held world =
      script.run.trace server inner held world ++
        match script.run.exec server held world with
        | some (.ok (.ok result), later) => (f result).run.trace server inner held later
        | _ => [] := by
  have bound := trace_bind server inner held script.run (ExceptT.bindCont f) world
  refine Eq.trans bound ?_
  rcases script.run.exec server held world with _ | ⟨_ | _ | _, later⟩ <;> rfl

end Script

def Launch.outcome (server : Server κ) (held : List Hold) (served : Launch κ α × World κ) :
    Option (Outcome α × World κ) :=
  (served.1.script.run.exec server (served.1.holds ++ held) served.2).map fun ended =>
    (.ofRun ended.1, ended.2)

namespace Launch

variable (server : Server κ) (held : List Hold)

theorem outcome_now (outcome : Outcome α) (world : World κ) :
    Launch.outcome server held (.now outcome, world) = some (outcome, world) := by
  cases outcome <;> rfl

theorem outcome_map (f : α → β) (served : Launch κ α × World κ) :
    Launch.outcome server held (served.1.map f, served.2) =
      (Launch.outcome server held served).map fun ended => (ended.1.map f, ended.2) := by
  simp only [Launch.outcome, Launch.map, Script.exec_run_map, Option.map_map]
  congr 1
  funext ended
  exact congrArg (·, ended.2) (Outcome.ofRun_map f ended.1)

end Launch

namespace World

variable [Closures κ]

def trace : Nat → World κ → List Hold → Request κ → List (Moment κ)
  | 0, _, _, _ => []
  | depth + 1, world, held, request =>
    ⟨world, held, request⟩ ::
      (world.serve held request).1.script.run.trace (answer depth) (trace depth)
        ((world.serve held request).1.holds ++ held) (world.serve held request).2

theorem runMapper_world (world : World κ) (id : MapperId) (mapper : Mapper κ) (source : Record)
    (dest : Option Record) :
    (world.runMapper id mapper source dest).2 = (world.compile id mapper).2 := by
  unfold runMapper
  split <;> simp [*]

theorem runErased_of_match (world : World κ) (id : MapperId) {mapper : Mapper κ} {input : Erased}
    (fits : input.type = .record mapper.source) :
    world.runErased id mapper input =
      ((world.runMapper id mapper input.value.fields none).1.map (Erased.ofRecord mapper.dest),
        (world.runMapper id mapper input.value.fields none).2) := by
  have checked : input.valueAs (.record mapper.source) = .ok input.value := if_pos fits
  rw [runErased, checked]
  rfl

/-- A value of another type is turned away with nothing done. -/
theorem runErased_of_mismatch (world : World κ) (id : MapperId) {mapper : Mapper κ}
    {input : Erased} (other : input.type ≠ .record mapper.source) :
    world.runErased id mapper input =
      (.now (.error (.typeMismatch (Slot.typeName mapper.source) input.type.name)), world) := by
  have checked : input.valueAs (.record mapper.source) =
      .error (.typeMismatch (Slot.typeName mapper.source) input.type.name) := if_neg other
  rw [runErased, checked]

theorem serve_convert_of_alive {world : World κ} {held : List Hold} {id : MapperId}
    {mapper : Mapper κ} (found : world.mappers[id]? = some mapper)
    (lives : world.alive held id = true) (input : Erased) :
    world.serve held (.convert id input) =
      ((world.runErased id mapper input).1.map .erased, (world.runErased id mapper input).2) := by
  simp only [serve, found, lives, if_true]

theorem serve_convert_of_dead {world : World κ} {held : List Hold} {id : MapperId}
    {mapper : Mapper κ} (found : world.mappers[id]? = some mapper)
    (dead : world.alive held id = false) (input : Erased) :
    world.serve held (.convert id input) =
      (.now (.error (.mapperDropped (Slot.typeName mapper.source) (Slot.typeName mapper.dest))),
        world) := by
  simp only [serve, found, dead]
  rfl

theorem answer_succ_eq (depth : Nat) (world : World κ) (held : List Hold) (request : Request κ) :
    world.answer (depth + 1) held request =
      Launch.outcome (answer depth) held (world.serve held request) := by
  simp only [answer, Launch.outcome]
  cases (world.serve held request).1.script.run.exec (answer depth)
    ((world.serve held request).1.holds ++ held) (world.serve held request).2 <;> rfl

theorem answer_eq_some {depth : Nat} {world later : World κ} {held : List Hold}
    {request : Request κ} {reply : Reply} :
    world.answer (depth + 1) held request = some (reply, later) ↔
      ∃ ended, (world.serve held request).1.script.run.exec (answer depth)
          ((world.serve held request).1.holds ++ held) (world.serve held request).2 =
        some (ended, later) ∧ Outcome.ofRun ended = reply := by
  simp [answer_succ_eq, Launch.outcome]

/-- The trace of a script is the history of its run, if that of every request is. -/
theorem History.of_trace {server : Server κ}
    {inner : World κ → List Hold → Request κ → List (Moment κ)} {held : List Hold}
    (answered : ∀ world held request reply later,
      server world held request = some (reply, later) →
        History world (inner world held request) later)
    {script : Script κ α} {world later : World κ} {ended : Except String α}
    (ends : script.exec server held world = some (ended, later)) :
    History world (script.trace server inner held world) later := by
  induction script generalizing world with
  | done result =>
    obtain ⟨-, rfl⟩ := Prod.mk.inj (Option.some.inj ends)
    exact .start
  | panic text =>
    obtain ⟨-, rfl⟩ := Prod.mk.inj (Option.some.inj ends)
    exact .start
  | log entry next ih => exact (History.write entry .start).trans (ih ends)
  | call request next ih =>
    simp only [Script.exec] at ends
    cases served : server world held request with
    | none => simp [served] at ends
    | some replied =>
      rw [served] at ends
      have early := answered _ _ _ _ _ served
      have late := ih replied.1 ends
      simpa only [Script.trace, served] using early.trans late

theorem history_trace {depth : Nat} {world later : World κ} {held : List Hold}
    {request : Request κ} {reply : Reply}
    (answered : world.answer depth held request = some (reply, later)) :
    History world (world.trace depth held request) later := by
  induction depth generalizing world held request reply later with
  | zero => simp [answer] at answered
  | succ depth ih =>
    obtain ⟨ended, ends, -⟩ := answer_eq_some.mp answered
    have served : ∀ world held request reply later,
        answer depth world held request = some (reply, later) →
          History world (trace depth world held request) later := fun _ _ _ _ _ => ih
    have late := History.of_trace served ends
    simpa only [trace, List.nil_append, List.singleton_append] using
      (History.serve held request .start).trans late

/-- The history of a script's run in which requests nest at most `depth` deep. -/
theorem History.of_run {depth : Nat} {held : List Hold} {script : Script κ α}
    {world later : World κ} {ended : Except String α}
    (ends : script.exec (answer depth) held world = some (ended, later)) :
    History world (script.trace (answer depth) (trace depth) held world) later :=
  .of_trace (fun _ _ _ _ _ => history_trace) ends

/-- Sessions that have come of one in which nothing had happened. -/
def Reachable (world : World κ) : Prop :=
  ∃ schema tracing past, History (.initial schema tracing) past world

theorem Reachable.trans {world later : World κ} {past : List (Moment κ)}
    (reachable : world.Reachable) (history : History world past later) : later.Reachable := by
  obtain ⟨schema, tracing, early, before⟩ := reachable
  exact ⟨schema, tracing, early ++ past, before.trans history⟩

theorem Addresses.answer {world : World κ} {request core : Request κ}
    (addresses : world.Addresses request core) (depth : Nat) (held : List Hold) :
    world.answer depth held request = world.answer depth held core := by
  cases depth with
  | zero => rfl
  | succ depth => simp only [World.answer, addresses.serve held]

end World

end RecordMapping
