import RecordMapping.Expression
import RecordMapping.Proofs.Chronicle
import RecordMapping.Proofs.Routes
import RecordMapping.Proofs.Substitution

namespace RecordMapping

variable {κ : Type}

/-- A build ends in a panic just when the service panics at one of its questions. -/
theorem Plan.Built.panics_iff {σ : Type} {dialogue : Dialogue σ κ}
    {sources dests : List (Property Record)} {config later : Config κ} {heard : List (Exchange κ)}
    {composed : Except String (Composition κ)}
    (built : Built dialogue sources dests config heard composed later) :
    (∃ text, composed = .error text) ↔
      ∃ exchange ∈ heard, ∃ text, exchange.answer = .panic text := by
  have outcome := built.outcome
  cases found : heard.findSome? (·.answer.panic?) with
  | none =>
    rw [found] at outcome
    constructor
    · rintro ⟨text, same⟩
      exact absurd (outcome.symm.trans same) (by simp)
    · rintro ⟨exchange, mem, text, answer⟩
      have calm := List.findSome?_eq_none_iff.mp found exchange mem
      rw [answer] at calm
      simp [Resolution.panic?] at calm
  | some text =>
    rw [found] at outcome
    obtain ⟨exchange, mem, same⟩ := List.exists_of_findSome?_eq_some found
    refine ⟨fun _ => ⟨exchange, mem, ?_⟩, fun _ => ⟨text, outcome⟩⟩
    cases answer : exchange.answer with
    | panic text => exact ⟨text, rfl⟩
    | convert | refuse => simp [answer, Resolution.panic?] at same

def Moment.Panics (id : MapperId) (moment : Moment κ) : Prop :=
  ∃ exchange ∈ moment.heard id, ∃ text, exchange.answer = .panic text

namespace Moment

variable {id : MapperId} {mapper later : Mapper κ} {moment : Moment κ}

theorem not_panics_of_idle (idle : moment.composition? id = none) : ¬moment.Panics id := by
  rintro ⟨exchange, mem, -⟩
  rw [heard_of_idle idle] at mem
  exact absurd mem List.not_mem_nil

theorem Does.poisoned_iff (does : Does id mapper moment later) :
    later.poisoned = true ↔ mapper.poisoned = true ∨ moment.Panics id := by
  cases does with
  | nothing idle | set idle => simp [not_panics_of_idle idle]
  | built building healthy uses composes =>
    have calm : ¬moment.Panics id := fun panics => by
      obtain ⟨text, same⟩ := composes.panics_iff.mpr panics
      simp at same
    simp [calm]
  | aborted building healthy uses composes =>
    have panics : moment.Panics id := composes.panics_iff.mp ⟨_, rfl⟩
    simp [panics]

theorem Does.same_of_poisoned (does : Does id mapper moment later)
    (poisoned : mapper.poisoned = true) : later = mapper := by
  cases does with
  | nothing => rfl
  | set _ healthy | built _ healthy | aborted _ healthy =>
    exact absurd (poisoned.symm.trans healthy) (by simp)

end Moment

namespace World

theorem addresses_of_peeks {world : World κ} {id : MapperId} {mapper : Mapper κ}
    {request : Request κ} (found : world.mappers[id]? = some mapper)
    (peeks : world.peeks? request = some id) :
    world.Addresses request (.mapper id .isCompiled) := by
  unfold peeks? operationPeeks? at peeks
  split at peeks
  next operation =>
    split at peeks
    next name =>
      split at peeks
      next other named =>
        obtain rfl := Option.some.inj peeks
        exact .mapper .isCompiled named found
      next => simp at peeks
    next => simp at peeks
  next other =>
    obtain rfl := Option.some.inj peeks
    exact .itself _
  next => simp at peeks

section Histories

variable [Closures κ] {schema : Schema} {tracing : Bool} {past more : List (Moment κ)}
  {first world last : World κ} {id : MapperId} {mapper : Mapper κ}

/-- A mapper is poisoned at the end of a history if it was so before, or its service panics during
one of its builds. -/
theorem History.poisoned (history : History first more last)
    (found : first.mappers[id]? = some mapper) :
    ∃ later, last.mappers[id]? = some later ∧
      (later.poisoned = true ↔ mapper.poisoned = true ∨ ∃ moment ∈ more, moment.Panics id) := by
  refine history.onward (P := fun past later =>
    later.poisoned = true ↔ mapper.poisoned = true ∨ ∃ moment ∈ past, moment.Panics id) found
    (by simp) ?_
  intro past moment middle later before does
  simp only [does.poisoned_iff, before, List.mem_append, List.mem_singleton, or_and_right,
    exists_or, exists_eq_left, or_assoc]

theorem History.poisoned_iff (history : History (initial schema tracing) past world)
    (found : world.mappers[id]? = some mapper) :
    mapper.poisoned = true ↔ ∃ moment ∈ past, moment.Panics id := by
  refine history.since (P := fun past mapper =>
    mapper.poisoned = true ↔ ∃ moment ∈ past, moment.Panics id) ?_ ?_ found
  · intro past source dest service idle
    refine ⟨nofun, fun ⟨moment, mem, panics⟩ => absurd panics ?_⟩
    exact Moment.not_panics_of_idle (Moment.composition?_of_no_action (idle moment mem))
  · intro past moment middle later before does
    simp only [does.poisoned_iff, before, List.mem_append, List.mem_singleton, or_and_right,
      exists_or, exists_eq_left]

/-- Nothing changes a poisoned mapper. -/
theorem History.same_of_poisoned (history : History first more last)
    (found : first.mappers[id]? = some mapper) (poisoned : mapper.poisoned = true) :
    last.mappers[id]? = some mapper := by
  obtain ⟨later, found', rfl⟩ := history.onward (P := fun _ later => later = mapper) found rfl
    fun before does => before ▸ does.same_of_poisoned (before ▸ poisoned)
  exact found'

/-- An action that fails, be it before the lock or there, is over at once, and no mapper changes. -/
theorem serve_failed {held : List Hold} {request : Request κ} {action : Mapper.Action κ}
    {failure : Failure} (found : world.mappers[id]? = some mapper)
    (aimed : world.action? held request = some (id, action))
    (failed : (world.performed id mapper action).1 = failure.outcome ∧
      (world.performed id mapper action).2.1 = mapper) (depth : Nat) :
    ∃ later, world.answer (depth + 1) held request = some (failure.outcome, later) ∧
      later.mappers = world.mappers := by
  have comes := serve_comes found aimed
  rw [carryOut_eq, failed.1, failed.2] at comes
  refine ⟨_, answer_of_failure comes depth, ?_⟩
  obtain ⟨bound, rfl⟩ := List.getElem?_eq_some_iff.mp found
  exact List.set_getElem_self bound

/-- Poisoning, from what a history has left of a mapper: what leads to it, and what it leads to. -/
structure Poisoning (past : List (Moment κ)) (world : World κ) (id : MapperId)
    (mapper : Mapper κ) : Prop where
  origin : mapper.poisoned = true ↔ ∃ moment ∈ past, moment.Panics id
  builds : ∀ held request, Moment.Panics id ⟨world, held, request⟩ → mapper.poisoned = false ∧
    (world.action? held request = some (id, .compile) ∧ mapper.compiled = none ∨
      world.action? held request = some (id, .recompile))
  /-- However a script ends, in a panic of its own or not, only such panics poison the mapper. -/
  runs : ∀ {α : Type} depth held (script : Script κ α) ended last,
    script.exec (answer depth) held world = some (ended, last) →
    ∃ later, last.mappers[id]? = some later ∧
      (later.poisoned = true ↔ mapper.poisoned = true ∨
        ∃ moment ∈ script.trace (answer depth) (trace depth) held world, moment.Panics id)
  answers : ∀ depth held request reply last,
    world.answer depth held request = some (reply, last) →
    ∃ later, last.mappers[id]? = some later ∧
      (later.poisoned = true ↔ mapper.poisoned = true ∨
        ∃ moment ∈ world.trace depth held request, moment.Panics id)
  /-- Wrong members and whatever the service answers to a configuring action, a panic as well, come
  first and change no mapper. -/
  objected : ∀ held request action failure, world.action? held request = some (id, action) →
    action.objection? world.schema (Surroundings.dialogue world.schema mapper.service) mapper
      world.surroundings = some failure →
    ∀ depth, ∃ later, world.answer (depth + 1) held request = some (failure.outcome, later) ∧
      later.mappers = world.mappers
  locked : mapper.poisoned = true → ∀ held request action,
    world.action? held request = some (id, action) →
    action.objection? world.schema (Surroundings.dialogue world.schema mapper.service) mapper
      world.surroundings = none →
    ∀ depth, ∃ later, world.answer (depth + 1) held request = some (.error .lockPoisoned, later) ∧
      later.mappers = world.mappers
  peeked : mapper.poisoned = true → ∀ held request, world.peeks? request = some id →
    ∀ depth, world.answer (depth + 1) held request = some (.error .lockPoisoned, world)
  mismatched : ∀ held request input, world.Erases held id request input →
    input.type ≠ .record mapper.source → ∀ depth, world.answer (depth + 1) held request =
      some (.error (.typeMismatch (Slot.typeName mapper.source) input.type.name), world)
  stays : mapper.poisoned = true → ∀ more last, History world more last →
    last.mappers[id]? = some mapper
  /-- What there is behind the lock of a poisoned mapper makes no difference to anything. -/
  hidden : mapper.poisoned = true → ∀ other, mapper.Resembles other → other.poisoned = true →
    ∀ depth held request, (world.replaced id other).answer depth held request =
      (world.answer depth held request).map (replacing id other)
  /-- A plan runs to the end to which it would run if the mapper were not poisoned, unless the run
  itself comes to the mapper's lock. -/
  plans : ∀ name plan, world.handles.get? name = some (.plan plan) →
    ∀ other, mapper.Resembles other → ∀ depth held source dest,
      let healthy := world.replaced id other
      let run := plan.run world.schema (world.schema.record plan.source source)
        (dest.map (world.schema.record plan.dest))
      (∀ moment ∈ run.run.trace (answer depth) (trace depth) held healthy,
        moment.Unreached id other mapper) →
      world.answer (depth + 1) held (.operation (.planRun name source dest)) =
        (healthy.answer (depth + 1) held (.operation (.planRun name source dest))).map
          (replacing id mapper)

/-- A mapper is poisoned by nothing but a panic of its service in the middle of a build, and is of
no more use from then on, while its plans are as good as ever. -/
theorem poisoned_iff_service_panicked (history : History (initial schema tracing) past world)
    (found : world.mappers[id]? = some mapper) : Poisoning past world id mapper := by
  constructor
  · exact history.poisoned_iff found
  · intro held request panics
    refine (composition?_isSome_iff found held request).mp (Option.isSome_iff_ne_none.mpr ?_)
    exact fun idle => Moment.not_panics_of_idle idle panics
  · exact fun depth held script ended last ends => (History.of_run ends).poisoned found
  · exact fun depth held request reply last answered => (history_trace answered).poisoned found
  · exact fun held request action failure aimed told =>
      serve_failed found aimed (Mapper.Action.perform_objected told)
  · intro poisoned held request action aimed told
    have failed : (world.performed id mapper action).1 =
        Failure.outcome (.error .lockPoisoned) ∧ _ := Mapper.Action.perform_locked told poisoned
    exact serve_failed found aimed failed
  · intro poisoned held request peeks depth
    rw [(addresses_of_peeks found peeks).answer, answer_succ_eq]
    simp only [serve, found, callMapper, poisoned, if_true]
    exact Launch.outcome_now _ _ _ _
  · exact fun held request input erases other depth => erases.mismatched found other
  · exact fun poisoned more last history => history.same_of_poisoned found poisoned
  · intro poisoned other resembles poisoned' depth held request
    refine (answer_replaced resembles found fun moment _ => ?_).1
    exact .of_shut ⟨poisoned, poisoned'⟩ moment
  · intro name plan named other resembles depth held source dest healthy run unreached
    have found' : healthy.mappers[id]? = some other := by
      obtain ⟨bound, -⟩ := List.getElem?_eq_some_iff.mp found
      exact List.getElem?_set_self bound
    -- The hypothesis is about the healthy session, so the poisoned mapper is put back into it.
    have same : healthy.replaced id mapper = world := replaced_replaced found other
    have all : ∀ moment ∈ healthy.trace (depth + 1) held (.operation (.planRun name source dest)),
        moment.Unreached id other mapper := by
      refine List.forall_mem_cons.mpr ⟨⟨fun action acts => ?_, fun peeks => ?_⟩, ?_⟩
      · simp [Moment.action?, action?, operationAction?] at acts
      · simp [peeks?, operationPeeks?] at peeks
      · have named' : healthy.handles.get? name = some (.plan plan) := named
        have traced : Script.trace (answer depth) (trace depth) held
            ((fun record => Answer.value (.record record)) <$> run).run healthy =
          Script.trace (answer depth) (trace depth) held run.run healthy :=
            Launch.trace_map _ ⟨[], run⟩
        simp only [serve, perform, named']
        intro moment mem
        exact unreached moment (Eq.mp (congrArg (moment ∈ ·) traced) mem)
    have spares := answer_replaced resembles.symm found' all
    rw [same] at spares
    exact spares.1

end Histories

/-- A mapper whose hook maps something else with the mapper itself, once it has built its plan. Its
service has answered once, and panics at every further question. -/
def nesting (slot : Slot) : World Closure :=
  (initial Schema.twins false).after
    [.newTable "table",
      .newService "service" "table"
        [⟨"a", .supply .i32 (.int 1), some 1⟩, ⟨"a", .panic, none⟩],
      .newMapper "mapper" slot slot (some "service"),
      .mapper "mapper" (.runBefore (.hook [.set "x"
        (.choose (.get .source "leaf") (.literal (.str "leaf"))
          (.map "mapper" (.record [("leaf", .literal (.bool true))])))])),
      .mapper "mapper" (.compile (some "plan"))]

theorem poisoned_iff_service_panicked_of_nesting :
    let world := (nesting 1).after [.mapper "mapper" (.recompile none)]
    ∃ past mapper, History (initial Schema.twins false) past world ∧
      world.mappers[0]? = some mapper ∧ Poisoning past world 0 mapper ∧ mapper.poisoned = true ∧
      ∃ moment ∈ past, moment.Panics 0 := by
  intro world
  have history := (History.of_operations (initial Schema.twins false : World Closure) _).trans
    (History.of_operations (nesting 1) [.mapper "mapper" (.recompile none)])
  have found : world.mappers[0]? = some _ := rfl
  have poisoning := poisoned_iff_service_panicked history found
  exact ⟨_, _, history, found, poisoning, rfl, poisoning.origin.mp rfl⟩

/-- The hook of a plan runs into the lock of the mapper that built the plan, so the plan does not
end as it did before the mapper was poisoned. -/
theorem plan_meets_poisoned_mapper :
    let poisoned := (nesting 1).after [.mapper "mapper" (.recompile none)]
    let run : Request Closure := .operation (.planRun "plan" (.record []) none)
    (∃ past, History (initial Schema.twins false) past poisoned) ∧
      (∃ plan, (nesting 1).handles.get? "plan" = some (.plan plan) ∧
        poisoned.handles.get? "plan" = some (.plan plan)) ∧
      ((nesting 1).mappers.map (·.poisoned), poisoned.mappers.map (·.poisoned)) =
        ([false], [true]) ∧
      ((nesting 1).answer 4 [] run).map (·.1) = some (.ok (.value (.record
        [("a", .int 1), ("x", .record [("a", .int 1), ("x", .str "leaf")])]))) ∧
      (poisoned.answer 4 [] run).map (·.1) = some (.ok (.value (.record
        [("a", .int 1), ("x", .str MappingError.lockPoisoned.message)]))) := by
  intro poisoned run
  refine ⟨⟨_, (History.of_operations (initial Schema.twins false : World Closure) _).trans
    (History.of_operations (nesting 1) [.mapper "mapper" (.recompile none)])⟩, ⟨_, rfl, rfl⟩, ?_⟩
  decide +kernel

end World

end RecordMapping
