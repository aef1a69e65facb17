import RecordMapping.Proofs.Course

namespace RecordMapping

variable {κ α β : Type}

/-- Every request of the script is one of these, whatever is replied to those before. -/
inductive Script.Only (P : Request κ → Prop) : Script κ α → Prop where
  | done (result : α) : Only P (.done result)
  | panic (text : String) : Only P (.panic text)
  | log (entry : LogEntry) {next : Script κ α} : Only P next → Only P (.log entry next)
  | call {request : Request κ} {next : Reply → Script κ α} (asks : P request)
    (rest : ∀ reply, Only P (next reply)) : Only P (.call request next)

namespace Script.Only

variable {P Q : Request κ → Prop}

theorem mono {script : Script κ α} (only : script.Only P)
    (weaker : ∀ request, P request → Q request) : script.Only Q := by
  induction only with
  | done result => exact .done result
  | panic text => exact .panic text
  | log entry _ ih => exact .log entry ih
  | call asks _ ih => exact .call (weaker _ asks) ih

theorem of_quiet {script : Script κ α} (quiet : script.Quiet) : script.Only P := by
  induction quiet with
  | done result => exact .done result
  | panic text => exact .panic text
  | log entry _ ih => exact .log entry ih

theorem bind {script : Script κ α} {f : α → Script κ β} (only : script.Only P)
    (rest : ∀ result, (f result).Only P) : (script.bind f).Only P := by
  induction only with
  | done result => exact rest result
  | panic text => exact .panic text
  | log entry _ ih => exact .log entry ih
  | call asks _ ih => exact .call asks ih

section Run

variable {ε : Type}

theorem run_lift {script : Script κ α} (only : script.Only P) :
    (ExceptT.lift script : ExceptT ε (Script κ) α).run.Only P :=
  only.bind fun result => .done (Except.ok result)

theorem run_bind {script : ExceptT ε (Script κ) α} {f : α → ExceptT ε (Script κ) β}
    (only : script.run.Only P) (rest : ∀ result, (f result).run.Only P) :
    (script >>= f).run.Only P := by
  refine only.bind fun result => ?_
  cases result with
  | ok result => exact rest result
  | error cause => exact .done (Except.error cause)

theorem run_map {script : ExceptT ε (Script κ) α} (only : script.run.Only P) (f : α → β) :
    (f <$> script).run.Only P := by
  rw [map_eq_pure_bind]
  exact run_bind only fun _ => .done _

end Run

end Script.Only

theorem Script.quiet_iff {script : Script κ α} : script.Quiet ↔ script.Only fun _ => False := by
  refine ⟨.of_quiet, fun only => ?_⟩
  induction only with
  | done result => exact .done result
  | panic text => exact .panic text
  | log entry _ ih => exact .log entry ih
  | call asks => exact asks.elim

theorem Launch.ofOutcome_only {P : Request κ → Prop} (outcome : Outcome α) :
    (ofOutcome outcome : ExceptT MappingError (Script κ) α).run.Only P := by
  cases outcome with
  | ok result => exact .done _
  | error cause => exact .done _
  | panic text => exact .panic text

theorem Converter.received_only {P : Request κ → Prop} (reply : Reply) :
    (received reply : Script κ (Except MappingError Erased)).Only P := by
  unfold received
  split
  all_goals first | exact .done _ | exact .panic _

theorem Property.store_only {P : Request κ → Prop} (property : Property Record) (value : Erased)
    (dest : Record) :
    (property.store value dest : ExceptT MappingError (Script κ) Record).run.Only P := by
  unfold Property.store
  refine .run_bind (.done _) fun value => ?_
  split
  next => exact .run_bind (.run_lift (.log _ (.done ()))) fun _ => .done _
  next => exact .done _

section Runs

variable [Closures κ] {P : Request κ → Prop} {schema : Schema} {source : Record}

/-- Whatever the closure sees, it makes no other requests than these. -/
def Closures.Only (P : Request κ → Prop) (closure : κ) : Prop :=
  ∀ scope, (Closures.run closure scope).Only P

theorem Source.evaluate_only {expr : Source κ}
    (asks : ∀ closure ∈ expr.closures, Closures.Only P closure) :
    (expr.evaluate schema source).Only P := by
  cases expr with
  | member property =>
    obtain ⟨value, read | ⟨entry, read⟩⟩ := evaluate_member κ schema source property
    · exact read ▸ .done _
    · exact read ▸ .log entry (.done _)
  | computed label valueType compute =>
    rw [evaluate_computed]
    exact (asks compute (List.mem_singleton_self compute) _).bind fun _ => .done _

/-- A converter makes the requests of its closure, and a nested mapper is a request itself. -/
theorem Converter.apply_only {converter : Converter κ}
    (asks : ∀ closure ∈ converter.closures, Closures.Only P closure)
    (nests : ∀ mapper input, converter = .nested mapper → P (.convert mapper input))
    (input : Erased) : (converter.apply schema input).run.Only P := by
  cases converter with
  | identity | constant output | fail error => exact .done _
  | nested mapper => exact .call (nests mapper input rfl) received_only
  | function source dest convert =>
    refine .run_bind (.done _) fun value => .run_bind (.run_lift ?_) fun result => .done _
    exact asks convert (List.mem_singleton_self convert) _

namespace Act

theorem run_only {act : Act κ} (asks : ∀ closure ∈ act.closures, Closures.Only P closure)
    (nests : ∀ mapper input, act = .convert (.nested mapper) → P (.convert mapper input))
    (hand : Hand) : (act.run schema source hand).run.Only P := by
  cases act with
  | construct slot closure =>
    have made := asks closure (List.mem_singleton_self closure)
    exact .run_bind (.run_lift ((made _).bind fun _ => .done _)) fun _ => .done _
  | before hook | after hook =>
    have amended := asks hook (List.mem_singleton_self hook)
    exact .run_bind (.run_lift ((amended _).bind fun _ => .done _)) fun _ => .done _
  | read expr => exact .run_bind (.run_lift (Source.evaluate_only asks)) fun _ => .done _
  | convert converter =>
    have applied : (converter.apply schema hand.value).run.Only P :=
      Converter.apply_only asks
        (fun mapper input same => nests mapper input (congrArg convert same)) hand.value
    exact .run_bind applied fun _ => .done _
  | write member => exact .run_bind (member.store_only hand.value hand.dest) fun _ => .done _

theorem runAll_only {acts : List (Act κ)}
    (only : ∀ act ∈ acts, ∀ hand, (act.run schema source hand).run.Only P) (hand : Hand) :
    (runAll schema source acts hand).run.Only P := by
  induction acts generalizing hand with
  | nil => exact .done _
  | cons act rest ih =>
    exact .run_bind (only act List.mem_cons_self hand) fun out =>
      ih (fun other mem => only other (List.mem_cons_of_mem _ mem)) out

end Act

namespace Plan

variable {plan : Plan κ}

/-- A run of a plan makes the requests of the plan's closures and those for its nested mappers. -/
theorem run_only (asks : ∀ closure ∈ plan.closures, Closures.Only P closure)
    (nests : ∀ assignment ∈ plan.assignments, ∀ mapper input,
      assignment.converter = .nested mapper → P (.convert mapper input)) (dest : Option Record) :
    (plan.run schema source dest).run.Only P := by
  rw [run_eq_acts]
  refine .run_map (Act.runAll_only (fun act mem => Act.run_only (fun closure runs => ?_) ?_) _) _
  · exact asks closure (mem_closures_of_act mem runs)
  · rintro mapper input rfl
    obtain ⟨assignment, listed, same⟩ := converter_of_act mem
    exact nests assignment listed mapper input same

end Plan

/-- A closure that asks the session for nothing, whatever it sees. -/
def Closures.Silent (closure : κ) : Prop := ∀ scope, (Closures.run closure scope).Quiet

theorem Closures.Silent.only {closure : κ} (silent : Closures.Silent closure) :
    Closures.Only P closure :=
  fun scope => .of_quiet (silent scope)

/-- Nothing in a run of the plan asks the session for anything: its closures are silent, and none of
its converters is a mapper. -/
structure Plan.Quiet (plan : Plan κ) : Prop where
  silent : ∀ closure ∈ plan.closures, Closures.Silent closure
  flat : ∀ assignment ∈ plan.assignments, ∀ mapper, assignment.converter ≠ .nested mapper

theorem Plan.Quiet.run {plan : Plan κ} (quiet : plan.Quiet) (dest : Option Record) :
    (plan.run schema source dest).run.Quiet :=
  Script.quiet_iff.mpr (run_only (fun closure mem => (quiet.silent closure mem).only)
    (fun assignment mem mapper _ same => quiet.flat assignment mem mapper same) dest)

end Runs

end RecordMapping
