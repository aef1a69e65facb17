import RecordMapping.Expression
import RecordMapping.Proofs.Asking
import RecordMapping.Proofs.Provenance

namespace RecordMapping

variable {κ : Type}

def Outcome.replied (outcome : Outcome Record) : Reply :=
  outcome.map fun record => .value (.record record)

theorem Mapper.compiled_of_compile {σ : Type} {schema : Schema} {dialogue : Dialogue σ κ}
    {id : MapperId} {mapper later : Mapper κ} {state next : σ} {plan : Plan κ}
    (compiled : mapper.compile schema dialogue id state = (.ok plan, later, next)) :
    later.compiled = some plan := by
  unfold compile rebuild at compiled
  split at compiled
  next => simp at compiled
  next =>
    split at compiled
    next cached =>
      obtain ⟨rfl, rfl, -⟩ := by simpa using compiled
      exact cached
    next =>
      split at compiled
      next => simp at compiled
      next =>
        obtain ⟨rfl, rfl, -⟩ := by simpa using compiled
        rfl

namespace World

section Answers

variable {world last : World κ} {depth : Nat} {held : List Hold} {reply : Reply} {plan : Plan κ}

/-- The plan that a mapper runs is the one that it has from then on. -/
theorem compiled_of_compile {id : MapperId} {mapper : Mapper κ} {start : World κ}
    (found : world.mappers[id]? = some mapper)
    (compiled : world.compile id mapper = (.ok plan, start)) :
    ∃ later, start.mappers[id]? = some later ∧ later.compiled = some plan := by
  obtain ⟨bound, -⟩ := List.getElem?_eq_some_iff.mp found
  obtain ⟨outcome, later, surroundings, done⟩ : ∃ outcome later surroundings,
      mapper.compile world.schema (Surroundings.dialogue world.schema mapper.service) id
        world.surroundings = (outcome, later, surroundings) := ⟨_, _, _, rfl⟩
  simp only [compile, act, done, Prod.mk.injEq] at compiled
  obtain ⟨rfl, rfl⟩ := compiled
  exact ⟨later, List.getElem?_set_self bound, Mapper.compiled_of_compile done⟩

variable [Closures κ]

/-- A run of a plan that a handle names takes the plan's course. -/
theorem answer_planRun_iff {name : String} (named : world.handles.get? name = some (.plan plan))
    (source : Value) (dest : Option Value) :
    world.answer (depth + 1) held (.operation (.planRun name source dest)) = some (reply, last) ↔
      ∃ made outcome, plan.Course world.schema (world.schema.record plan.source source)
          (dest.map (world.schema.record plan.dest)) (answer depth) held world made outcome last ∧
        (outcome.map Hand.dest).replied = reply := by
  rw [answer_succ_eq]
  simp only [serve, perform, named, Outcome.replied, Outcome.map_map]
  exact Plan.outcome_run_iff

/-- A mapping takes the course of the plan that its mapper has when it starts. -/
theorem answer_map_iff {id : MapperId} {mapper : Mapper κ} {start : World κ}
    (found : world.mappers[id]? = some mapper)
    (compiled : world.compile id mapper = (.ok plan, start)) (source : Value)
    (dest : Option Value) :
    world.answer (depth + 1) held (.mapper id (.map source dest)) = some (reply, last) ↔
      ∃ made outcome, plan.Course world.schema (world.schema.record mapper.source source)
          (dest.map (world.schema.record mapper.dest)) (answer depth) (.mapper id :: held) start
          made outcome last ∧
        (outcome.map Hand.dest).replied = reply := by
  have same : start.schema = world.schema := (congrArg (·.2.schema) compiled).symm
  rw [answer_succ_eq]
  simp only [serve, found, callMapper, runMapper, compiled, same, Outcome.replied, Outcome.map_map]
  exact Plan.outcome_run_iff

/-- Whatever the acts of a run do to the session is a further part of its history. -/
theorem History.of_walk {schema : Schema} {source : Record} {acts made : List (Act κ)} {hand : Hand}
    {outcome : Outcome Hand}
    (walk : Act.Walk schema source (answer depth) held acts hand world made outcome last) :
    ∃ more, History world more last := by
  induction walk with
  | done hand world => exact ⟨[], .start⟩
  | next ran _ ih =>
    obtain ⟨more, late⟩ := ih
    exact ⟨_, (History.of_run ran).trans late⟩
  | failed ran | panicked ran => exact ⟨_, History.of_run ran⟩

/-- A run that asks the session for nothing ends alike wherever it takes place, and leaves nothing
behind but entries in the log. -/
theorem answer_planRun_of_quiet {schema : Schema} {source : Value} {dest : Option Value}
    (quiet : (plan.run schema (schema.record plan.source source)
      (dest.map (schema.record plan.dest))).run.Quiet) :
    ∃ (outcome : Outcome Record) (entries : List LogEntry),
      ∀ (world : World κ) (name : String), world.schema = schema →
        world.handles.get? name = some (.plan plan) → ∀ depth held,
          world.answer (depth + 1) held (.operation (.planRun name source dest)) =
            some (outcome.replied, entries.foldl World.write world) := by
  obtain ⟨ended, entries, writes⟩ := quiet.exec_writes
  refine ⟨.ofRun ended, entries, ?_⟩
  rintro world name rfl named depth held
  let launch : Launch κ Record :=
    ⟨[], plan.run world.schema (world.schema.record plan.source source)
      (dest.map (world.schema.record plan.dest))⟩
  have ends : Launch.outcome (answer depth) held (launch, world) =
      some (.ofRun ended, entries.foldl World.write world) :=
    congrArg (Option.map _) (writes (answer depth) held world)
  rw [answer_succ_eq]
  simp only [serve, perform, named]
  refine (Launch.outcome_map (answer depth) held _ (launch, world)).trans ?_
  rw [ends]
  rfl

end Answers

section Frozen

variable [Closures κ] {schema : Schema} {tracing : Bool} {past : List (Moment κ)} {world : World κ}

/-- Plans are frozen, from what a history has left of them: they are as they were built, and remain
so through all that may follow. -/
structure Frozen (past : List (Moment κ)) (world : World κ) : Prop where
  /-- Whatever plan is at hand was built at some moment, of what there was then. -/
  origin : ∀ plan, world.Offers plan → ∃ moment ∈ past, plan.MadeAt moment
  /-- Whatever follows, a plan that is built remains what it is. -/
  kept : ∀ more last, History world more last → ∀ plan other : Plan κ, plan.BuiltIn past →
    last.Offers other → plan.is other = true → other = plan
  /-- Whatever follows, a run of a plan makes the acts that the plan was built of, in order and in
  whatever session they find. -/
  runs : ∀ more last, History world more last → ∀ (plan other : Plan κ) name,
    plan.BuiltIn past → last.handles.get? name = some (.plan other) → plan.is other = true →
    ∀ depth held source dest reply final,
      last.answer (depth + 1) held (.operation (.planRun name source dest)) =
          some (reply, final) ↔
        ∃ made outcome, plan.Course world.schema (world.schema.record plan.source source)
            (dest.map (world.schema.record plan.dest)) (answer depth) held last made outcome final ∧
          (outcome.map Hand.dest).replied = reply
  maps : ∀ held request id mapper (plan : Plan κ) start source dest,
    world.mappers[id]? = some mapper → world.Addresses request (.mapper id (.map source dest)) →
    world.compile id mapper = (.ok plan, start) →
    (∃ later, start.mappers[id]? = some later ∧ later.compiled = some plan) ∧
    ∀ depth reply final, world.answer (depth + 1) held request = some (reply, final) ↔
      ∃ made outcome, plan.Course world.schema (world.schema.record mapper.source source)
          (dest.map (world.schema.record mapper.dest)) (answer depth) (.mapper id :: held) start
          made outcome final ∧
        (outcome.map Hand.dest).replied = reply
  during : ∀ depth held schema source acts hand made outcome final,
    Act.Walk schema source (answer depth) held acts hand world made outcome final →
    ∃ more, History world more final
  /-- A run that asks the session for nothing ends alike whatever follows, and leaves nothing behind
  but entries in the log. -/
  alike : ∀ (plan : Plan κ) source dest, plan.BuiltIn past →
    (plan.run world.schema (world.schema.record plan.source source)
      (dest.map (world.schema.record plan.dest))).run.Quiet →
    ∃ (outcome : Outcome Record) (entries : List LogEntry),
      ∀ more last, History world more last → ∀ other name,
        last.handles.get? name = some (.plan other) → plan.is other = true → ∀ depth held,
          last.answer (depth + 1) held (.operation (.planRun name source dest)) =
            some (outcome.replied, entries.foldl World.write last)
  /-- Every run is such if the closures of the plan are silent and no converter is a mapper. -/
  quiet : ∀ plan : Plan κ, plan.Quiet → ∀ source dest,
    (plan.run world.schema source dest).run.Quiet

/-- However a session has come about, what its plans were built of is all that their runs go by. -/
theorem plans_run_as_built (history : History (initial schema tracing) past world) :
    Frozen past world := by
  have kept : ∀ more last, History world more last → ∀ plan other : Plan κ, plan.BuiltIn past →
      last.Offers other → plan.is other = true → other = plan := by
    -- A plan at hand was built, and one mapper never gives a number twice.
    intro more last late plan other built offers same
    have whole := history.trans late
    exact whole.built_once (built.mono (List.subset_append_left _ _)) (whole.built offers) same
  constructor
  · intro plan offers
    obtain ⟨moment, mem, made⟩ := history.built offers
    exact ⟨moment, mem, .of_built made⟩
  · exact kept
  · intro more last late plan other name built named same depth held source dest reply final
    obtain rfl := kept more last late plan other built (.inl ⟨name, named⟩) same
    rw [← late.schema]
    exact answer_planRun_iff named source dest
  · intro held request id mapper plan start source dest found addresses compiled
    refine ⟨compiled_of_compile found compiled, fun depth reply final => ?_⟩
    rw [addresses.answer]
    exact answer_map_iff found compiled source dest
  · exact fun depth held schema source acts hand made outcome final walk => History.of_walk walk
  · intro plan source dest built quiet
    obtain ⟨outcome, entries, alike⟩ := answer_planRun_of_quiet quiet
    refine ⟨outcome, entries, fun more last late other name named same => ?_⟩
    obtain rfl := kept more last late plan other built (.inl ⟨name, named⟩) same
    exact alike last name late.schema named
  · exact fun plan quiet source dest => quiet.run dest

end Frozen

/-- A mapper whose hooks change the mapper itself, while a plan of it is being run. -/
def meddling (slot : Slot) : World Closure :=
  (initial Schema.twins false).after
    [.newMapper "mapper" slot slot none,
      .mapper "mapper" (.runBefore (.hook
        [.perform (.mapper "mapper" (.ignore "a")),
          .perform (.mapper "mapper" (.runAfter (.hook [.set "x" (.literal (.str "second"))]))),
          .perform (.mapper "mapper" (.recompile none))])),
      .mapper "mapper" (.runAfter (.hook [.set "x" (.literal (.str "first"))])),
      .mapper "mapper" (.compile (some "plan"))]

/-- The run goes on as its plan has it, and only the next mapping is another. -/
theorem plans_run_as_built_of_meddling :
    let run : Request Closure := .operation (.planRun "plan" (.record [("a", .int 1)]) none)
    let map : Request Closure :=
      .operation (.mapper "mapper" (.map (.record [("a", .int 1)]) none))
    let world := meddling 1
    ∃ past plan, History (initial Schema.twins false) past world ∧ Frozen past world ∧
      world.handles.get? "plan" = some (.plan plan) ∧ (∃ moment ∈ past, plan.MadeAt moment) ∧
      ((world.answer 3 [] run).map fun ended =>
        (ended.1, ended.2.mappers.map (·.builds), (ended.2.answer 3 [] map).map (·.1))) =
      some (.ok (.value (.record [("a", .int 1), ("x", .str "first")])), [2],
        some (.ok (.value (.record [("x", .str "second")])))) := by
  intro run map world
  obtain ⟨past, history⟩ : ∃ past, History (initial Schema.twins false) past world :=
    ⟨_, History.of_operations _ _⟩
  have frozen := plans_run_as_built history
  have named : world.handles.get? "plan" = some (.plan _) := rfl
  exact ⟨past, _, history, frozen, named, frozen.origin _ (.inl ⟨"plan", named⟩), by decide +kernel⟩

end World

end RecordMapping
