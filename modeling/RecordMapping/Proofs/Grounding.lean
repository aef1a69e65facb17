import RecordMapping.Proofs.Asking
import RecordMapping.Proofs.Routes
import RecordMapping.Proofs.Turn

namespace RecordMapping

variable {κ α β : Type}

/-- Closures that get at mappers and registries by handles only. -/
class Closures.Grounded (κ : Type) [Closures κ] : Prop where
  run (closure : κ) (scope : Scope) : (Closures.run closure scope).Only (Request.Grounded [])

abbrev Script.Open (script : Script κ α) : Prop := script.Only (Request.Grounded [])

theorem Script.Only.weaken {script : Script κ α} (only : script.Open) (held : List Hold) :
    script.Only (Request.Grounded held) :=
  only.mono fun _ grounded => grounded.mono (List.nil_subset _)

theorem Script.mapped_open (reply : Reply) : (mapped reply : Script κ Value).Open := by
  unfold mapped
  split
  all_goals first | exact .done _ | exact .panic _

theorem Script.mapItems_open {f : α → Script κ β} (body : ∀ item, (f item).Open) :
    ∀ items, (mapItems f items).Open
  | [] => .done _
  | item :: rest =>
    .bind (body item) fun _ => .bind (mapItems_open body rest) fun _ => .done _

namespace Expr

mutual

theorem eval_open (scope : Scope) : ∀ expr : Expr, (expr.eval scope).Open
  | .literal _ | .source | .dest => .done _
  | .get owner key => .bind (eval_open scope owner) fun _ => .done _
  | .concat parts => .bind (evalAll_open scope parts) fun _ => .done _
  | .scale number factor offset => .bind (eval_open scope number) fun value => by
      cases value <;> exact .done _
  | .length whole => .bind (eval_open scope whole) fun _ => .done _
  | .record fields => .bind (evalFields_open scope fields) fun _ => .done _
  | .choose condition yes no => .bind (eval_open scope condition) fun value => by
      split
      · exact eval_open scope yes
      · exact eval_open scope no
  | .equal left right =>
    .bind (eval_open scope left) fun _ => .bind (eval_open scope right) fun _ => .done _
  | .each list body => .bind (eval_open scope list) fun value => by
      split
      · exact .bind (Script.mapItems_open (fun item =>
          eval_open { scope with source := item } body) _) fun _ => .done _
      · exact .done _
  | .map mapper input => .call trivial Script.mapped_open
  | .dispatch registry given wanted input => .call trivial Script.mapped_open
  | .log entry body =>
    .bind (eval_open scope entry) fun value => .log (.computed value) (eval_open scope body)
  | .panic text => .panic text

theorem evalAll_open (scope : Scope) : ∀ exprs : List Expr, (evalAll scope exprs).Open
  | [] => .done _
  | expr :: rest =>
    .bind (eval_open scope expr) fun _ => .bind (evalAll_open scope rest) fun _ => .done _

theorem evalFields_open (scope : Scope) :
    ∀ fields : List (String × Expr), (evalFields scope fields).Open
  | [] => .done _
  | (_, expr) :: rest =>
    .bind (eval_open scope expr) fun _ => .bind (evalFields_open scope rest) fun _ => .done _

end

end Expr

theorem Action.run_open (source dest : Value) (action : Action) :
    (action.run source dest).Open := by
  cases action with
  | set key value => exact .bind (value.eval_open _) fun _ => .done _
  | unset key => exact .done _
  | log value => exact .bind (value.eval_open _) fun value => .log (.hooked value) (.done _)
  | perform operation => exact .call trivial fun reply => .log (.performed reply) (.done _)
  | panic text => exact .panic text

theorem Action.runAll_open (source : Value) :
    ∀ (actions : List Action) (dest : Value), (Action.runAll source actions dest).Open
  | [], _ => .done _
  | action :: rest, dest =>
    .bind (action.run_open source dest) fun _ => runAll_open source rest _

instance : Closures.Grounded Closure where
  run closure scope := by
    cases closure with
    | value expr => exact expr.eval_open scope
    | hook actions => exact Action.runAll_open scope.source actions scope.dest

section Runs

variable [Closures κ] [Closures.Grounded κ] {schema : Schema}

theorem Converter.apply_open (converter : Converter κ) (input : Erased) :
    (converter.apply schema input).run.Open :=
  converter.apply_only (fun closure _ => Closures.Grounded.run closure)
    (fun _ _ _ => trivial) input

theorem Plan.run_open (plan : Plan κ) (source : Record) (dest : Option Record) :
    (plan.run schema source dest).run.Open :=
  plan.run_only (fun closure _ => Closures.Grounded.run closure) (fun _ _ _ _ _ => trivial) dest

end Runs

namespace Launch

variable {world : World κ} {held : List Hold}

/-- What the launch goes on to hold has an owner, and its script is grounded in that. -/
structure Proper (world : World κ) (held : List Hold) (launch : Launch κ α) : Prop where
  holds : ∀ hold ∈ launch.holds, world.Holds held hold
  script : launch.script.run.Only (Request.Grounded launch.holds)

theorem Proper.now (outcome : Outcome α) : (Launch.now outcome : Launch κ α).Proper world held :=
  ⟨by simp [Launch.now], ofOutcome_only outcome⟩

end Launch

namespace World

variable {world : World κ} {held : List Hold}

theorem serveClients_grounded (id : MapperId) (source : Value) :
    ∀ clients, (serveClients id source clients : Script κ _).Only (Request.Grounded [.mapper id])
  | 0 => .done _
  | clients + 1 => by
    have asked (call : MapperCall κ) :
        (Script.ask (.mapper id call) : Script κ Reply).Only (Request.Grounded [.mapper id]) :=
      .call List.mem_cons_self fun _ => .done _
    exact (asked _).bind fun _ => (asked _).bind fun _ =>
      (serveClients_grounded id source clients).bind fun _ => .done _

variable [Closures κ] [Closures.Grounded κ] {request : Request κ}

/-- Whatever a caller is given asks for nothing but by handles and converters. -/
theorem Comes.script_open {done : Outcome (Option (Plan κ)) × World κ}
    {served : Launch κ Answer × World κ} (comes : Comes Given done served) :
    served.1.script.run.Open := by
  obtain ⟨outcome, next⟩ := done
  cases outcome with
  | error cause =>
    rw [comes.1]
    exact .done _
  | panic text =>
    rw [comes.1]
    exact .panic text
  | ok result =>
    cases comes with
    | done => exact .done _
    | @plan plan _ _ serves =>
      cases serves with
      | plan | bindings => exact .done _
      | @run finish _ hands runs =>
        obtain ⟨source, dest, script⟩ := runs.script
        rw [script]
        exact .run_bind (plan.run_open source dest) fun record => .done (finish record)

theorem Starts.proper {launch : Launch κ Answer} (starts : world.Starts held request launch)
    (grounded : request.Grounded held) : launch.Proper world held := by
  cases starts with
  | nothing outcome owners => exact ⟨owners grounded, Launch.ofOutcome_only outcome⟩
  | @plan name plan named source dest =>
    exact ⟨by simp, .run_map (plan.run_open source dest) _⟩
  | change name type value change =>
    refine ⟨by simp, .run_lift (.bind (Closures.Grounded.run change _) fun value => ?_)⟩
    exact .call trivial fun _ => .done _
  | @clients id owned source clients =>
    refine ⟨List.forall_mem_singleton.mpr (.mapper (owned grounded)),
      .run_bind (.run_lift (serveClients_grounded id source clients)) fun replies => ?_⟩
    exact Launch.ofOutcome_only (gather replies)
  | @computed hold owned input scope next grounds =>
    -- The closure asks by handles alone, and the request after it for what is held by then.
    refine ⟨List.forall_mem_singleton.mpr owned,
      .run_bind (.run_lift ((Closures.Grounded.run input scope).weaken _)) fun value =>
        .run_bind (.run_lift (.call (grounds value) fun _ => .done _)) fun reply => ?_⟩
    exact Launch.ofOutcome_only reply
  | custom kept mapper input finish =>
    refine ⟨List.forall_mem_singleton.mpr (.registry (kept grounded)), ?_⟩
    refine .run_bind (.run_bind (.run_lift ?_) fun value => ?_) fun erased => ?_
    · exact (Closures.Grounded.run mapper.compute _).weaken _
    · exact .done (mapper.judge value)
    · exact .done (finish erased)

theorem Step.proper {bearing : Bearing κ} {served : Launch κ Answer × World κ}
    (step : world.Step held request bearing served) (grounded : request.Grounded held) :
    served.1.Proper world held := by
  cases step with
  | start starts | note input starts => exact starts.proper grounded
  | @enroll id entry =>
    unfold World.enroll
    split <;> exact .now _
  | ask service question input =>
    unfold resolve
    dsimp only
    split
    next converter told => exact ⟨by simp, .run_map (converter.apply_open input) _⟩
    next => exact .now _
    next => exact .now _
  | act found owners comes => exact ⟨owners grounded, comes.script_open.weaken _⟩
  | _ => exact .now _

/-- Whatever is asked for by a handle, by a converter or because it is held, what it goes on to hold
had an owner. -/
theorem serve_proper (grounded : request.Grounded held) :
    (world.serve held request).1.Proper world held :=
  (world.serve_step held request).proper grounded

end World

end RecordMapping
