import RecordMapping.Expression
import RecordMapping.Session

namespace RecordMapping

variable {κ α β : Type}

/-- The same outcome, but for the spelling of a name that no member has. -/
inductive Outcome.Alike : Outcome α → Outcome α → Prop where
  | same (outcome : Outcome α) : Alike outcome outcome
  | unknown (type : String) {name other : String} (same : Text.fold name = Text.fold other) :
    Alike (.error (.unknownMember type name)) (.error (.unknownMember type other))

inductive LogEntry.Alike : LogEntry → LogEntry → Prop where
  | same (entry : LogEntry) : Alike entry entry
  | performed {reply other : Reply} (alike : reply.Alike other) :
    Alike (.performed reply) (.performed other)

inductive MapperCall.Respelled : MapperCall κ → MapperCall κ → Prop where
  | ignore {dest dest' : String} (same : Text.fold dest = Text.fold dest') :
    Respelled (.ignore dest) (.ignore dest')
  | assignMember {dest dest' source source' : String} (same : Text.fold dest = Text.fold dest')
    (same' : Text.fold source = Text.fold source') :
    Respelled (.assignMember dest source) (.assignMember dest' source')
  | assignSource {dest dest' : String} (expression : String)
    (same : Text.fold dest = Text.fold dest') :
    Respelled (.assignSource dest expression) (.assignSource dest' expression)
  | assignComputed {dest dest' : String} (type : ValueType) (compute : κ)
    (same : Text.fold dest = Text.fold dest') :
    Respelled (.assignComputed dest type compute) (.assignComputed dest' type compute)

inductive Operation.Respelled : Operation κ → Operation κ → Prop where
  | itself (operation : Operation κ) : Respelled operation operation
  | mapper (handle : String) {call other : MapperCall κ} (respelled : call.Respelled other) :
    Respelled (.mapper handle call) (.mapper handle other)
  | memberSource (keep : String) (slot : Slot) {name name' : String}
    (same : Text.fold name = Text.fold name') :
    Respelled (.memberSource keep slot name) (.memberSource keep slot name')

inductive Request.Respelled : Request κ → Request κ → Prop where
  | operation {operation other : Operation κ} (respelled : operation.Respelled other) :
    Respelled (.operation operation) (.operation other)
  | mapper (id : MapperId) {call other : MapperCall κ} (respelled : call.Respelled other) :
    Respelled (.mapper id call) (.mapper id other)

/-- Two scripts that ask for the same, each in its own spelling, and come to the same result. A
request that is spelled alike in both is answered alike; otherwise both have to cope with a name
in the reply that is not the same. -/
inductive Script.Respelled : Script κ α → Script κ α → Prop where
  | done (result : α) : Respelled (.done result) (.done result)
  | panic (text : String) : Respelled (.panic text) (.panic text)
  | log {entry entry' : LogEntry} {next next' : Script κ α} (alike : entry.Alike entry')
    (rest : Respelled next next') : Respelled (.log entry next) (.log entry' next')
  | call (request : Request κ) {next next' : Reply → Script κ α}
    (rest : ∀ reply, Respelled (next reply) (next' reply)) :
    Respelled (.call request next) (.call request next')
  | respell {request request' : Request κ} {next next' : Reply → Script κ α}
    (respelled : request.Respelled request')
    (rest : ∀ reply reply', reply.Alike reply' → Respelled (next reply) (next' reply')) :
    Respelled (.call request next) (.call request' next')

namespace Script.Respelled

theorem refl (script : Script κ α) : script.Respelled script := by
  induction script with
  | done result => exact .done result
  | panic text => exact .panic text
  | log entry next ih => exact .log (.same entry) ih
  | call request next ih => exact .call request ih

theorem bind {script script' : Script κ α} {f f' : α → Script κ β}
    (respelled : script.Respelled script') (rest : ∀ result, (f result).Respelled (f' result)) :
    (script.bind f).Respelled (script'.bind f') := by
  induction respelled with
  | done result => exact rest result
  | panic text => exact .panic text
  | log alike _ ih => exact .log alike ih
  | call request _ ih => exact .call request ih
  | respell respelled _ ih => exact .respell respelled ih

section Run

variable {ε : Type}

theorem run_lift {script script' : Script κ α} (respelled : script.Respelled script') :
    (ExceptT.lift script : ExceptT ε (Script κ) α).run.Respelled (ExceptT.lift script').run :=
  respelled.bind fun result => refl (.done (Except.ok result))

theorem run_bind {script script' : ExceptT ε (Script κ) α} {f f' : α → ExceptT ε (Script κ) β}
    (respelled : script.run.Respelled script'.run)
    (rest : ∀ result, (f result).run.Respelled (f' result).run) :
    (script >>= f).run.Respelled (script' >>= f').run := by
  refine respelled.bind fun result => ?_
  cases result with
  | ok result => exact rest result
  | error cause => exact refl (.done (Except.error cause))

theorem run_map {script script' : ExceptT ε (Script κ) α}
    (respelled : script.run.Respelled script'.run) (f : α → β) :
    (f <$> script).run.Respelled (f <$> script').run := by
  simp only [map_eq_pure_bind]
  exact respelled.run_bind fun result => refl _

end Run

end Script.Respelled

/-- Two languages in which every closure says the same, in its own spelling in each. One language
may be taken twice. -/
def Closures.Respelled (first second : Closures κ) : Prop :=
  ∀ closure scope, (first.run closure scope).Respelled (second.run closure scope)

section Plans

variable {first second : Closures κ} (respelled : first.Respelled second)

include respelled

theorem Closures.Respelled.amend (hook : κ) (source dest : Record) :
    (@Closures.amend κ first hook source dest).Respelled
      (@Closures.amend κ second hook source dest) :=
  .bind (respelled hook _) fun _ => .refl _

theorem Source.evaluate_respelled (schema : Schema) (record : Record) (expr : Source κ) :
    (@Source.evaluate κ first schema record expr).Respelled
      (@Source.evaluate κ second schema record expr) := by
  cases expr with
  | member property => exact .refl _
  | computed label valueType compute => exact .bind (respelled compute _) fun _ => .refl _

theorem Converter.apply_respelled (schema : Schema) (input : Erased) (converter : Converter κ) :
    (@Converter.apply κ first schema input converter).run.Respelled
      (@Converter.apply κ second schema input converter).run := by
  cases converter with
  | identity | nested mapper | constant output | fail error => exact .refl _
  | function source dest convert =>
    exact .run_bind (.refl _) fun value =>
      .run_bind (.run_lift (respelled convert _)) fun _ => .refl _

theorem Assignment.runAll_respelled (schema : Schema) (source : Record)
    (assignments : List (Assignment κ)) (dest : Record) :
    (@Assignment.runAll κ first schema source assignments dest).run.Respelled
      (@Assignment.runAll κ second schema source assignments dest).run := by
  induction assignments generalizing dest with
  | nil => exact .refl _
  | cons assignment rest ih =>
    have run : (@Assignment.run κ first schema source dest assignment).run.Respelled
        (@Assignment.run κ second schema source dest assignment).run :=
      .run_bind (.run_lift (assignment.source.evaluate_respelled respelled schema source))
        fun value => .run_bind (assignment.converter.apply_respelled respelled schema value)
          fun value => .refl _
    exact .run_bind run ih

/-- The runs of a plan in the two languages. -/
theorem Plan.run_respelled (schema : Schema) (plan : Plan κ) (source : Record)
    (dest : Option Record) :
    (@Plan.run κ first schema plan source dest).run.Respelled
      (@Plan.run κ second schema plan source dest).run := by
  have amended (hook : Option κ) (dest : Record) :
      (@Plan.amend κ first hook source dest).Respelled
        (@Plan.amend κ second hook source dest) := by
    cases hook with
    | none => exact .refl _
    | some hook => exact respelled.amend hook source dest
  have created : (dest.elim (@Plan.create κ first schema plan source) pure).Respelled
      (dest.elim (@Plan.create κ second schema plan source) pure) := by
    cases dest with
    | some dest => exact .refl _
    | none =>
      unfold Plan.create Option.elim
      cases plan.constructor with
      | none => exact .refl _
      | some constructor => exact .bind (respelled constructor _) fun _ => .refl _
  exact .run_bind (.run_lift created) fun dest => .run_bind (.run_lift (amended _ dest))
    fun dest => .run_bind (Assignment.runAll_respelled respelled schema source _ dest)
      fun dest => .run_lift (amended _ dest)

end Plans

def MapperCall.respell (spell : String → String) : MapperCall κ → MapperCall κ
  | .ignore dest => .ignore (spell dest)
  | .assignMember dest source => .assignMember (spell dest) (spell source)
  | .assignSource dest expression => .assignSource (spell dest) expression
  | .assignComputed dest type compute => .assignComputed (spell dest) type compute
  | call => call

def Operation.respell (spell : String → String) : Operation κ → Operation κ
  | .mapper handle call => .mapper handle (call.respell spell)
  | .memberSource keep slot name => .memberSource keep slot (spell name)
  | operation => operation

def Action.respell (spell : String → String) : Action → Action
  | .perform operation => .perform (operation.respell spell)
  | action => action

def Closure.respell (spell : String → String) : Closure → Closure
  | .hook actions => .hook (actions.map (·.respell spell))
  | .value expr => .value expr

/-- The language in which each closure selects members by its names in another spelling. Closures
that its operations hand on are respelled when they come to run. -/
abbrev Closure.respelling (spell : String → String) : Closures Closure where
  run closure scope := Closures.run (closure.respell spell) scope

section Respell

variable {spell : String → String} (same : ∀ name, Text.fold (spell name) = Text.fold name)

include same

theorem Operation.respelled (operation : Operation κ) :
    operation.Respelled (operation.respell spell) := by
  cases operation with
  | mapper handle call =>
    cases call with
    | ignore => exact .mapper handle (.ignore (same _).symm)
    | assignMember => exact .mapper handle (.assignMember (same _).symm (same _).symm)
    | assignSource => exact .mapper handle (.assignSource _ (same _).symm)
    | assignComputed => exact .mapper handle (.assignComputed _ _ (same _).symm)
    | _ => exact .itself _
  | memberSource keep slot name => exact .memberSource keep slot (same _).symm
  | _ => exact .itself _

theorem Action.run_respelled (source dest : Value) (action : Action) :
    (action.run source dest).Respelled ((action.respell spell).run source dest) := by
  cases action with
  | perform operation =>
    exact .respell (.operation (operation.respelled same)) fun _ _ alike =>
      .log (.performed alike) (.refl _)
  | set | unset | log | panic => exact .refl _

theorem Action.runAll_respelled (source : Value) (actions : List Action) (dest : Value) :
    (Action.runAll source actions dest).Respelled
      (Action.runAll source (actions.map (·.respell spell)) dest) := by
  induction actions generalizing dest with
  | nil => exact .refl _
  | cons action rest ih => exact .bind (action.run_respelled same source dest) ih

/-- Closures whose actions are respelled say the same. -/
theorem Closure.respelled : Closures.Respelled inferInstance (Closure.respelling spell) := by
  intro closure scope
  cases closure with
  | value expr => exact .refl _
  | hook actions => exact Action.runAll_respelled same scope.source actions scope.dest

end Respell

end RecordMapping
