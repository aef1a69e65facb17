import RecordMapping.Proofs.Agenda
import RecordMapping.Proofs.Turn

namespace RecordMapping

variable {σ κ : Type}

def LogEntry.question? : LogEntry → Option Question
  | .asked question => some question
  | _ => none

theorem ServiceId.recorded_append (service : ServiceId) (first second : List Question) :
    service.recorded (first ++ second) = service.recorded first ++ service.recorded second := by
  cases service <;> rfl

namespace Surroundings

def questions (surroundings : Surroundings κ) : List Question :=
  surroundings.log.filterMap LogEntry.question?

theorem questions_write (surroundings : Surroundings κ) {entry : LogEntry}
    (other : entry.question? = none) : (surroundings.write entry).questions =
      surroundings.questions := by
  simp [questions, write, other]

theorem questions_report (surroundings : Surroundings κ) (event : Event) :
    (surroundings.report event).questions = surroundings.questions := by
  unfold report
  split
  next => exact questions_write surroundings rfl
  next => rfl

theorem questions_ask (schema : Schema) (service : ServiceId) (question : Question)
    (surroundings : Surroundings κ) :
    (ask schema service question surroundings).2.questions =
      surroundings.questions ++ service.recorded [question] := by
  cases service with
  | table id => exact (List.append_nil _).symm
  | ruled id =>
    have written : (surroundings.write (.asked question)).questions =
        surroundings.questions ++ [question] := by
      simp [questions, write, LogEntry.question?]
    unfold ask
    dsimp only
    split <;> exact written

/-- What is written down in a dialogue is what is asked in it. -/
theorem questions_of_reaches {schema : Schema} {service : ServiceId} {first : Surroundings κ}
    {noted : Surroundings κ × List (Exchange κ)}
    (reach : (dialogue schema service).transcribed.Reaches (first, []) noted) :
    noted.1.questions = first.questions ++ service.recorded (noted.2.map (·.question)) := by
  induction reach with
  | start => cases service <;> simp [ServiceId.recorded]
  | @ask noted question _ ih =>
    obtain ⟨state, past⟩ := noted
    have asked := questions_ask schema service question state
    simp only [Dialogue.transcribed, List.map_append, ServiceId.recorded_append]
    rw [← List.append_assoc, ← ih]
    exact asked
  | @report noted event _ ih =>
    exact (questions_report noted.1 event).trans ih

end Surroundings

/-- An action writes down what its mapper asks. -/
theorem Mapper.Action.perform_questions (schema : Schema) (service : ServiceId) (id : MapperId)
    (action : Action κ) (mapper : Mapper κ) (surroundings : Surroundings κ) :
    (action.perform schema (Surroundings.dialogue schema service) id mapper
        surroundings).2.2.questions =
      surroundings.questions ++ service.recorded
        ((action.exchanges schema (Surroundings.dialogue schema service) id mapper
          surroundings).map (·.question)) := by
  -- The same action with a transcript ends in the same surroundings; every step on the way there
  -- adds alike to the log and to the transcript.
  have reach := perform_reaches schema (Surroundings.dialogue schema service).transcribed id action
    mapper (surroundings, [])
  have start : ((surroundings, []) : Surroundings κ × List (Exchange κ)).1 = surroundings := rfl
  have alike := (Surroundings.dialogue schema service).transcribed_similar.perform schema id action
    mapper start
  rw [← alike.state]
  exact Surroundings.questions_of_reaches reach

/-- No build and no use of a cached plan ends in an error of the service. -/
theorem Mapper.Action.error_of_uses {schema : Schema} {dialogue : Dialogue σ κ} {id : MapperId}
    {action : Action κ} {mapper : Mapper κ} {state : σ} {cause : MappingError}
    (uses : action.configures = false)
    (failed : (action.perform schema dialogue id mapper state).1 = .error cause) :
    cause = .lockPoisoned ∧ mapper.poisoned = true := by
  have effect : action.Effect schema dialogue id mapper state
      (action.perform schema dialogue id mapper state).1
      (action.perform schema dialogue id mapper state).2.1 := use_effect uses
  generalize (action.perform schema dialogue id mapper state).1 = outcome at effect failed
  generalize (action.perform schema dialogue id mapper state).2.1 = later at effect
  cases effect with
  | objected configures => simp [uses] at configures
  | set _ _ sets => simp [sets.configures] at uses
  | locked _ poisoned => exact ⟨(Outcome.error.inj failed).symm, poisoned⟩
  | reused | built | aborted => simp at failed

namespace World

def questions (world : World κ) : List Question := world.surroundings.questions

def recorded (world : World κ) : Option (MapperId × Mapper.Action κ) → List Question
  | some (id, action) =>
    match world.mappers[id]? with
    | some mapper => mapper.service.recorded ((action.exchanges world.schema
        (Surroundings.dialogue world.schema mapper.service) id mapper
          world.surroundings).map (·.question))
    | none => []
  | none => []

theorem questions_carryOut {world : World κ} {id : MapperId} {mapper : Mapper κ}
    (found : world.mappers[id]? = some mapper) (action : Mapper.Action κ) :
    (world.carryOut id mapper action).2.questions =
      world.questions ++ world.recorded (some (id, action)) := by
  simp only [recorded, found]
  exact action.perform_questions world.schema mapper.service id mapper world.surroundings

theorem questions_report (world : World κ) (event : Event) :
    (world.report event).questions = world.questions :=
  Surroundings.questions_report world.surroundings event

theorem questions_registerConverter (world : World κ) (table : Nat) (source dest : ValueType)
    (converter : Converter κ) :
    (world.registerConverter table source dest converter).questions = world.questions :=
  Surroundings.questions_report _ _

theorem error_of_present {keep : Option String} {done : Outcome (Plan κ) × World κ}
    {cause : MappingError} (presented : (present keep done).1 = .error cause) :
    done.1 = .error cause := by
  obtain ⟨outcome, next⟩ := done
  cases outcome with
  | error other => exact congrArg _ (Outcome.error.inj presented)
  | ok plan | panic text => simp [present] at presented

section Serve

variable [Closures κ] {world : World κ} {id : MapperId} {mapper : Mapper κ}

/-- What a step has written down is what its mapper asks, or the very question that it puts. -/
theorem Step.questions {held : List Hold} {request : Request κ} {bearing : Bearing κ}
    {served : Launch κ Answer × World κ} (step : world.Step held request bearing served) :
    served.2.questions = world.questions ++
      match bearing.aim with
      | some aim => world.recorded (some aim)
      | none => bearing.posed := by
  have unchanged {later : World κ} (same : later.questions = world.questions) :
      later.questions = world.questions ++ [] := same.trans (List.append_nil _).symm
  cases step with
  | note input => exact unchanged (Surroundings.questions_write world.surroundings rfl)
  | newMapper name made => rcases made with rfl | rfl <;> exact unchanged rfl
  | @enroll id entry =>
    obtain same | ⟨event, same⟩ := world.enroll_world id entry
    · rw [same]
      exact unchanged rfl
    · rw [same]
      exact unchanged (questions_report _ event)
  | convert | nest => exact unchanged (questions_registerConverter ..)
  | ask service question input =>
    rw [resolve_world]
    exact Surroundings.questions_ask world.schema service question world.surroundings
  | @act id mapper action _ found owners comes =>
    -- To keep the plan under a name writes nothing down.
    have asked := questions_carryOut found action
    obtain same | ⟨plan, name, -, same⟩ := comes.later <;> exact same ▸ asked
  | start | keep | copy | erased | drop | newTable | newService | newRegistry | settle =>
    exact unchanged rfl

/-- What a request has written down is what its mapper asks, or the very question that it asks. -/
theorem serve_questions (world : World κ) (held : List Hold) (request : Request κ) :
    (world.serve held request).2.questions = world.questions ++
      match world.action? held request with
      | some aim => world.recorded (some aim)
      | none => world.posed request :=
  (world.serve_step held request).questions

/-- Whoever asks for a plan or for its bindings is never given an error of the service. -/
theorem error_of_answer {held : List Hold} {request : Request κ} {call : MapperCall κ}
    (found : world.mappers[id]? = some mapper)
    (asks : world.Addresses request (.mapper id call))
    (plan : call = .bindings ∨ ∃ keep, call = .compile keep ∨ call = .recompile keep)
    {depth : Nat} {cause : MappingError} {later : World κ}
    (answered : world.answer depth held request = some (.error cause, later)) :
    cause = .lockPoisoned ∧ mapper.poisoned = true := by
  cases depth with
  | zero => simp [answer] at answered
  | succ depth =>
    have fails (action : Mapper.Action κ) (uses : action.configures = false)
        {outcome : Outcome (Plan κ)} (failed : outcome = .error cause)
        (comes : (world.performed id mapper action).1 = outcome.map some) :
        cause = .lockPoisoned ∧ mapper.poisoned = true := by
      rw [failed] at comes
      exact Mapper.Action.error_of_uses uses comes
    rw [asks.answer, answer_succ_eq] at answered
    rcases plan with rfl | ⟨keep, rfl | rfl⟩
    · simp only [serve, found, callMapper, Launch.outcome_now, Option.some.injEq,
        Prod.mk.injEq] at answered
      exact fails .compile rfl (Outcome.map_eq_error.mp answered.1) rfl
    · simp only [serve, found, callMapper, callMapper.reply, Launch.outcome_now, Option.some.injEq,
        Prod.mk.injEq] at answered
      exact fails .compile rfl (error_of_present answered.1) rfl
    · simp only [serve, found, callMapper, callMapper.reply, Launch.outcome_now, Option.some.injEq,
        Prod.mk.injEq] at answered
      exact fails .recompile rfl (error_of_present answered.1) rfl

/-- Who asks a service, and what. -/
structure Inquires (world : World κ) : Prop where
  /-- Whatever the service and its state, an action asks what stands on its agenda: in order, to its
  end or to the first question at which the service panics. -/
  agenda : ∀ {σ : Type} (dialogue : Dialogue σ κ) (id : MapperId) (action : Mapper.Action κ)
      (mapper : Mapper κ) (state : σ),
    Exhausts (action.exchanges world.schema dialogue id mapper state)
      (action.agenda world.schema mapper)
  /-- On the agenda of a build stands a question for every source member that can be read, has no
  key with a source of its own, is not ignored, and has a counterpart that can be written. -/
  matching : ∀ (dests : List (Property Record)) (config : Config κ) (source : Property Record)
      (question : Question),
    Plan.inquiry? dests config source = some question ↔
      source.isReadable = true ∧ config.custom.contains (Text.fold source.name) = false ∧
        config.ignored.contains (Text.fold source.name) = false ∧
        ∃ dest, Property.named? dests source.name = some dest ∧ dest.isWritable = true ∧
          question = .member dest.signature source.signature
  silent : ∀ {σ : Type} (dialogue : Dialogue σ κ) (id : MapperId) (action : Mapper.Action κ)
      (mapper : Mapper κ) (state : σ),
      (∃ dest, action = .ignore dest) ∨
        (∃ closure, action = .runBefore closure ∨ action = .runAfter closure ∨
          action = .construct closure) ∨
        action = .compile ∧ mapper.compiled.isSome = true →
    action.exchanges world.schema dialogue id mapper state = []
  builds : ∀ {σ : Type} (dialogue : Dialogue σ κ) (id : MapperId) (action : Mapper.Action κ)
      (mapper : Mapper κ) (state : σ) (cause : MappingError), action.configures = false →
      (action.perform world.schema dialogue id mapper state).1 = .error cause →
    cause = .lockPoisoned ∧ mapper.poisoned = true
  /-- A caller who asks for a plan or its bindings is given no error but that of the lock. -/
  answers : ∀ {held : List Hold} {request : Request κ} {call : MapperCall κ} {id : MapperId}
      {mapper : Mapper κ}, world.mappers[id]? = some mapper →
      world.Addresses request (.mapper id call) →
      (call = .bindings ∨ ∃ keep, call = .compile keep ∨ call = .recompile keep) →
    ∀ depth cause later, world.answer depth held request = some (.error cause, later) →
      cause = .lockPoisoned ∧ mapper.poisoned = true
  /-- A request has written down what the mapper asks that acts for it, or its own question. -/
  log : ∀ held request, (world.serve held request).2.questions = world.questions ++
    match world.action? held request with
    | some aim => world.recorded (some aim)
    | none => world.posed request
  /-- No mapper acts when a plan is run, but for what its closures and conversions request. -/
  runs : ∀ held name source dest,
    world.action? held (.operation (.planRun name source dest)) = none ∧
      (world.serve held (.operation (.planRun name source dest))).2.questions = world.questions

/-- In every session the questions are exactly those on the agendas of the mappers' actions. -/
theorem questions_follow_agenda (world : World κ) : Inquires world where
  agenda := fun dialogue id action mapper state =>
    Mapper.Action.exchanges_exhaust world.schema dialogue id action mapper state
  matching := fun dests config source question => Plan.inquiry?_eq_some
  silent := by
    intro σ dialogue id action mapper state quiet
    have exhausts :=
      Mapper.Action.exchanges_exhaust world.schema dialogue id action mapper state
    have nothing : action.agenda world.schema mapper = [] := by
      rcases quiet with ⟨dest, rfl⟩ | ⟨closure, rfl | rfl | rfl⟩ | ⟨rfl, compiled⟩
      · rfl
      · rfl
      · rfl
      · rfl
      · simp [Mapper.Action.agenda, compiled]
    simpa [nothing] using exhausts.asked
  builds := fun dialogue id action mapper state cause uses failed =>
    Mapper.Action.error_of_uses uses failed
  answers := fun found asks plan depth cause later answered =>
    error_of_answer found asks plan answered
  log := world.serve_questions
  runs := fun held name source dest =>
    ⟨rfl, by simpa [action?, operationAction?, posed] using
      world.serve_questions held (.operation (.planRun name source dest))⟩

end Serve

end World

def Schema.paired : Schema where
  layout
    | 0 | 1 => ⟨[.field ⟨"x", .i32, .readWrite, "x", false⟩,
        .field ⟨"y", .i32, .readWrite, "y", false⟩], []⟩
    | _ => ⟨[], []⟩

/-- A service that panics at the first member is not asked about the second. -/
theorem World.questions_end_with_panic :
    let world := (World.initial Schema.paired false : World Closure).after
      [.newTable "t", .newService "s" "t" [⟨"x", .panic, none⟩], .newMapper "m" 0 1 (some "s")]
    let question (name : String) : Question := .member ⟨name, .i32⟩ ⟨name, .i32⟩
    ∃ mapper, world.mappers[0]? = some mapper ∧
      Mapper.Action.compile.agenda world.schema mapper = [question "x", question "y"] ∧
      (world.answer 1 [] (.operation (.mapper "m" (.compile none)))).map
          (fun ended => (ended.1, ended.2.questions)) =
        some (.panic "service panic on x", [question "x"]) := by
  intro world question
  exact ⟨.new 0 1 (.ruled 0), rfl, by decide +kernel, by decide +kernel⟩

end RecordMapping
