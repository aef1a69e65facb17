import RecordMapping.Expression
import RecordMapping.Proofs.Construction
import RecordMapping.Proofs.History

namespace RecordMapping

variable {σ κ : Type}

namespace Mapper

structure SameCache (mapper later : Mapper κ) : Prop where
  compiled : later.compiled = mapper.compiled
  builds : later.builds = mapper.builds

/-- A build of `composition` has put a new plan in the place of what was cached. -/
structure Replaced (id : MapperId) (mapper : Mapper κ) (composition : Composition κ)
    (plan : Plan κ) (later : Mapper κ) : Prop where
  owner : plan.mapper = id
  build : plan.build = mapper.builds + 1
  assignments : plan.assignments = composition.assignments
  bindings : plan.bindings = composition.bindings
  compiled : later.compiled = some plan
  builds : later.builds = mapper.builds + 1
  poisoned : later.poisoned = mapper.poisoned

namespace Action

variable {schema : Schema} {dialogue : Dialogue σ κ} {id : MapperId} {action : Action κ}
  {mapper : Mapper κ} {state : σ}

theorem perform_of_configures (id : MapperId) (configures : action.configures = true) :
    ∃ config, (action.perform schema dialogue id mapper state).2.1 =
      { mapper with config := config } := by
  obtain ⟨change, _, same⟩ :=
    perform_change schema dialogue mapper.source mapper.dest state configures
  rw [same id mapper rfl rfl, revise]
  split
  next => exact ⟨mapper.config, rfl⟩
  next => exact ⟨change mapper.config, rfl⟩

def composition? (schema : Schema) (dialogue : Dialogue σ κ) (action : Action κ)
    (mapper : Mapper κ) (state : σ) : Option (Except String (Composition κ)) :=
  if mapper.poisoned then none
  else match action with
    | .compile => if mapper.compiled.isSome then none else some (composed state)
    | .recompile =>
      some (composed (dialogue.report (.recompileForced mapper.source mapper.dest) state))
    | _ => none
where
  composed (state : σ) : Except String (Composition κ) :=
    (Plan.compose dialogue (schema.properties mapper.source) (schema.properties mapper.dest)
      mapper.config state).1

theorem perform_compile_of_compiled {plan : Plan κ} (healthy : mapper.poisoned = false)
    (cached : mapper.compiled = some plan) :
    perform schema dialogue id .compile mapper state = (.ok (some plan), mapper, state) := by
  simp [perform, perform.given, Mapper.compile, healthy, cached, Outcome.map]

theorem perform_of_poisoned (uses : action.configures = false) (poisoned : mapper.poisoned = true) :
    action.perform schema dialogue id mapper state =
      (.error .lockPoisoned, mapper, state) := by
  cases action with
  | compile => simp [perform, perform.given, Mapper.compile, poisoned, Outcome.map]
  | recompile => simp [perform, perform.given, Mapper.recompile, poisoned, Outcome.map]
  | _ => simp [Action.configures] at uses

theorem rebuild_of_composed (id : MapperId) {composition : Composition κ}
    (composed : composition?.composed schema dialogue mapper state = .ok composition) :
    ∃ plan later next, mapper.rebuild schema dialogue id state = (.ok plan, later, next) ∧
      Replaced id mapper composition plan later := by
  obtain ⟨outcome, config, next, built⟩ : ∃ outcome config next,
      Plan.compose dialogue (schema.properties mapper.source) (schema.properties mapper.dest)
        mapper.config state = (outcome, config, next) := ⟨_, _, _, rfl⟩
  simp only [composition?.composed, built] at composed
  subst composed
  simp only [rebuild, built]
  exact ⟨_, _, _, rfl, rfl, rfl, rfl, rfl, rfl, rfl, rfl⟩

theorem rebuild_of_panic (id : MapperId) {text : String}
    (composed : composition?.composed schema dialogue mapper state = .error text) :
    ∃ later next, mapper.rebuild schema dialogue id state = (.panic text, later, next) ∧
      SameCache mapper later ∧ later.poisoned = true := by
  obtain ⟨outcome, config, next, built⟩ : ∃ outcome config next,
      Plan.compose dialogue (schema.properties mapper.source) (schema.properties mapper.dest)
        mapper.config state = (outcome, config, next) := ⟨_, _, _, rfl⟩
  simp only [composition?.composed, built] at composed
  subst composed
  simp only [rebuild, built]
  exact ⟨_, _, rfl, ⟨rfl, rfl⟩, rfl⟩

/-- An action that carries out a build is `Mapper.rebuild`, after a report if it is forced. -/
theorem perform_of_composition (id : MapperId) {composed : Except String (Composition κ)}
    (building : action.composition? schema dialogue mapper state = some composed) :
    mapper.poisoned = false ∧ (action = .compile ∧ mapper.compiled = none ∨ action = .recompile) ∧
      ∃ start, composition?.composed schema dialogue mapper start = composed ∧
        action.perform schema dialogue id mapper state =
          ((mapper.rebuild schema dialogue id start).1.map some,
            (mapper.rebuild schema dialogue id start).2) := by
  unfold composition? at building
  split at building
  next => simp at building
  next healthy =>
    have healthy : mapper.poisoned = false := by simpa using healthy
    refine ⟨healthy, ?_⟩
    cases action with
    | compile =>
      simp only at building
      split at building
      next => simp at building
      next uncached =>
        have uncached : mapper.compiled = none := by simpa using uncached
        refine ⟨.inl ⟨rfl, uncached⟩, state, Option.some.inj building, ?_⟩
        simp [perform, perform.given, Mapper.compile, healthy, uncached]
    | recompile =>
      refine ⟨.inr rfl, _, Option.some.inj building, ?_⟩
      simp [perform, perform.given, Mapper.recompile, healthy]
    | _ => simp at building

/-- An action that carries out no build changes nothing but the configuration. -/
theorem perform_of_no_composition (id : MapperId)
    (idle : action.composition? schema dialogue mapper state = none) :
    ∃ config, (action.perform schema dialogue id mapper state).2.1 =
      { mapper with config := config } := by
  by_cases configures : action.configures = true
  · exact perform_of_configures id configures
  · have uses : action.configures = false := by simpa using configures
    suffices kept : (action.perform schema dialogue id mapper state).2.1 = mapper from
      ⟨mapper.config, kept⟩
    cases poisoned : mapper.poisoned with
    | true => rw [perform_of_poisoned uses poisoned]
    | false =>
      cases action with
      | compile =>
        cases cached : mapper.compiled with
        | some plan => rw [perform_compile_of_compiled poisoned cached]
        | none => simp [composition?, poisoned, cached] at idle
      | recompile => simp [composition?, poisoned] at idle
      | _ => simp [Action.configures] at uses

end Action

end Mapper

def Moment.composition? (id : MapperId) (moment : Moment κ) :
    Option (Except String (Composition κ)) :=
  match moment.world.mappers[id]?, moment.action? id with
  | some mapper, some action =>
    action.composition? moment.world.schema
      (Surroundings.dialogue moment.world.schema mapper.service) mapper moment.world.surroundings
  | _, _ => none

def Moment.completes (id : MapperId) (moment : Moment κ) : Bool :=
  match moment.composition? id with
  | some (.ok _) => true
  | _ => false

def Moment.aborts (id : MapperId) (moment : Moment κ) : Bool :=
  match moment.composition? id with
  | some (.error _) => true
  | _ => false

namespace World

open Mapper

theorem afterwards_cache {world : World κ} {id : MapperId} {mapper : Mapper κ}
    (found : world.mappers[id]? = some mapper) (held : List Hold) (request : Request κ) :
    let moment : Moment κ := ⟨world, held, request⟩
    let later := world.afterwards id mapper (moment.action? id)
    match moment.composition? id with
    | none => SameCache mapper later ∧ later.poisoned = mapper.poisoned
    | some (.error _) => SameCache mapper later ∧ later.poisoned = true
    | some (.ok composition) => ∃ plan, Replaced id mapper composition plan later := by
  intro moment later
  simp only [Moment.composition?, moment, found]
  simp only [later, moment]
  cases Moment.action? id ⟨world, held, request⟩ with
  | none => exact ⟨⟨rfl, rfl⟩, rfl⟩
  | some action =>
    simp only [afterwards, performed]
    cases building : action.composition? world.schema
        (Surroundings.dialogue world.schema mapper.service) mapper world.surroundings with
    | none =>
      obtain ⟨config, same⟩ := Action.perform_of_no_composition id building
      rw [same]
      exact ⟨⟨rfl, rfl⟩, rfl⟩
    | some composed =>
      obtain ⟨_, _, start, same, performed⟩ := Action.perform_of_composition id building
      rw [performed]
      cases composed with
      | error text =>
        obtain ⟨later, next, rebuilt, kept⟩ := Action.rebuild_of_panic id same
        simpa only [rebuilt] using kept
      | ok composition =>
        obtain ⟨plan, later, next, rebuilt, replaced⟩ :=
          Action.rebuild_of_composed id same
        exact ⟨plan, by simpa only [rebuilt] using replaced⟩

theorem afterwards_of_incomplete {world : World κ} {id : MapperId} {mapper : Mapper κ}
    {held : List Hold} {request : Request κ} (found : world.mappers[id]? = some mapper)
    (incomplete : Moment.completes id ⟨world, held, request⟩ = false) :
    let moment : Moment κ := ⟨world, held, request⟩
    let later := world.afterwards id mapper (moment.action? id)
    SameCache mapper later ∧ later.poisoned = (mapper.poisoned || moment.aborts id) := by
  intro moment later
  have cache := afterwards_cache found held request
  dsimp only at cache
  cases building : Moment.composition? id ⟨world, held, request⟩ with
  | none =>
    simp only [building] at cache
    exact ⟨cache.1, by simpa [Moment.aborts, building, moment] using cache.2⟩
  | some composed =>
    cases composed with
    | error text =>
      simp only [building] at cache
      exact ⟨cache.1, by simpa [Moment.aborts, building, moment] using cache.2⟩
    | ok composition => simp [Moment.completes, building] at incomplete

theorem afterwards_of_complete {world : World κ} {id : MapperId} {mapper : Mapper κ}
    {held : List Hold} {request : Request κ} (found : world.mappers[id]? = some mapper)
    (complete : Moment.completes id ⟨world, held, request⟩ = true) :
    let moment : Moment κ := ⟨world, held, request⟩
    ∃ composition plan, moment.composition? id = some (.ok composition) ∧
      Replaced id mapper composition plan (world.afterwards id mapper (moment.action? id)) := by
  have cache := afterwards_cache found held request
  dsimp only at cache
  cases building : Moment.composition? id ⟨world, held, request⟩ with
  | none => simp [Moment.completes, building] at complete
  | some composed =>
    cases composed with
    | error text => simp [Moment.completes, building] at complete
    | ok composition =>
      simp only [building] at cache
      obtain ⟨plan, replaced⟩ := cache
      exact ⟨composition, plan, building, replaced⟩

theorem composition?_eq {world : World κ} {id : MapperId} {mapper : Mapper κ} {held : List Hold}
    {request : Request κ} {action : Mapper.Action κ} (found : world.mappers[id]? = some mapper)
    (aimed : world.action? held request = some (id, action)) :
    Moment.composition? id ⟨world, held, request⟩ =
      action.composition? world.schema (Surroundings.dialogue world.schema mapper.service) mapper
        world.surroundings := by
  simp [Moment.composition?, Moment.action?, found, aimed]

theorem action?_of_composition {world : World κ} {id : MapperId} {held : List Hold}
    {request : Request κ} {composed : Except String (Composition κ)}
    (building : Moment.composition? id ⟨world, held, request⟩ = some composed) :
    ∃ action, world.action? held request = some (id, action) := by
  unfold Moment.composition? at building
  split at building
  next mapper action found acts =>
    unfold Moment.action? at acts
    split at acts
    next aim action' aimed =>
      split at acts
      next here => exact ⟨action', by rw [aimed, here]⟩
      next => simp at acts
    next => simp at acts
  next => simp at building

theorem carryOut_of_idle {world : World κ} {id : MapperId} {mapper : Mapper κ}
    {action : Mapper.Action κ} {outcome : Outcome (Option (Plan κ))}
    (found : world.mappers[id]? = some mapper)
    (idle : world.performed id mapper action = (outcome, mapper, world.surroundings)) :
    world.carryOut id mapper action = (outcome, world) := by
  obtain ⟨bound, same⟩ := List.getElem?_eq_some_iff.mp found
  rw [carryOut_eq, idle]
  subst same
  simp

theorem composition?_isSome_iff {world : World κ} {id : MapperId} {mapper : Mapper κ}
    (found : world.mappers[id]? = some mapper) (held : List Hold) (request : Request κ) :
    (Moment.composition? id ⟨world, held, request⟩).isSome = true ↔
      mapper.poisoned = false ∧
        (world.action? held request = some (id, .compile) ∧ mapper.compiled = none ∨
          world.action? held request = some (id, .recompile)) := by
  constructor
  · intro some
    obtain ⟨composed, building⟩ := Option.isSome_iff_exists.mp some
    obtain ⟨action, aimed⟩ := action?_of_composition building
    rw [composition?_eq found aimed] at building
    obtain ⟨healthy, uses, _⟩ := Action.perform_of_composition id building
    refine ⟨healthy, ?_⟩
    rcases uses with ⟨rfl, uncached⟩ | rfl
    · exact .inl ⟨aimed, uncached⟩
    · exact .inr aimed
  · rintro ⟨healthy, ⟨aimed, uncached⟩ | aimed⟩
    · simp [composition?_eq found aimed, Action.composition?, healthy, uncached]
    · simp [composition?_eq found aimed, Action.composition?, healthy]

section Serve

variable [Closures κ]

theorem serve_comes {world : World κ} {id : MapperId} {mapper : Mapper κ} {held : List Hold}
    {request : Request κ} {action : Mapper.Action κ} (found : world.mappers[id]? = some mapper)
    (aimed : world.action? held request = some (id, action)) :
    Comes Given (world.carryOut id mapper action) (world.serve held request) := by
  have follows := world.serve_follows held request
  rw [aimed] at follows
  obtain ⟨target, found', comes⟩ := follows
  obtain rfl : target = mapper := Option.some.inj (found'.symm.trans found)
  exact comes

theorem serve_reused {world : World κ} {id : MapperId} {mapper : Mapper κ} {held : List Hold}
    {request : Request κ} {plan : Plan κ} (found : world.mappers[id]? = some mapper)
    (aimed : world.action? held request = some (id, .compile)) (healthy : mapper.poisoned = false)
    (cached : mapper.compiled = some plan) : plan.Serves world (world.serve held request) := by
  have comes := serve_comes found aimed
  rw [carryOut_of_idle found (Action.perform_compile_of_compiled healthy cached)] at comes
  cases comes with
  | plan serves => exact serves

theorem serve_locked {world : World κ} {id : MapperId} {mapper : Mapper κ} {held : List Hold}
    {request : Request κ} {action : Mapper.Action κ} (found : world.mappers[id]? = some mapper)
    (aimed : world.action? held request = some (id, action)) (uses : action.configures = false)
    (poisoned : mapper.poisoned = true) :
    (world.serve held request).1.script = throw .lockPoisoned ∧
      (world.serve held request).2 = world := by
  have comes := serve_comes found aimed
  rwa [carryOut_of_idle found (Action.perform_of_poisoned uses poisoned)] at comes

theorem serve_rebuilt {world : World κ} {id : MapperId} {mapper : Mapper κ} {held : List Hold}
    {request : Request κ} {composed : Except String (Composition κ)}
    (found : world.mappers[id]? = some mapper)
    (building : Moment.composition? id ⟨world, held, request⟩ = some composed) :
    let dialogue := Surroundings.dialogue world.schema mapper.service
    ∃ start, Action.composition?.composed world.schema dialogue mapper start = composed ∧
      ∀ outcome later next,
        mapper.rebuild world.schema dialogue id start = (outcome, later, next) →
        Comes Given
          (outcome.map some,
            { world with mappers := world.mappers.set id later, surroundings := next })
          (world.serve held request) := by
  obtain ⟨action, aimed⟩ := action?_of_composition building
  rw [composition?_eq found aimed] at building
  obtain ⟨_, _, start, same, performed⟩ := Action.perform_of_composition id building
  refine ⟨start, same, ?_⟩
  intro outcome later next rebuilt
  have comes := serve_comes found aimed
  rw [rebuilt] at performed
  rwa [carryOut_eq, World.performed, performed] at comes

theorem serve_built {world : World κ} {id : MapperId} {mapper : Mapper κ} {held : List Hold}
    {request : Request κ} {composition : Composition κ}
    (found : world.mappers[id]? = some mapper)
    (building : Moment.composition? id ⟨world, held, request⟩ = some (.ok composition)) :
    ∃ plan later next, Replaced id mapper composition plan later ∧
      next.mappers = world.mappers.set id later ∧ plan.Serves next (world.serve held request) := by
  obtain ⟨start, same, serves⟩ := serve_rebuilt found building
  obtain ⟨plan, later, next, rebuilt, replaced⟩ := Action.rebuild_of_composed id same
  have comes := serves _ _ _ rebuilt
  cases comes with
  | plan serves => exact ⟨plan, later, _, replaced, rfl, serves⟩

theorem serve_aborted {world : World κ} {id : MapperId} {mapper : Mapper κ} {held : List Hold}
    {request : Request κ} {text : String} (found : world.mappers[id]? = some mapper)
    (building : Moment.composition? id ⟨world, held, request⟩ = some (.error text)) :
    (world.serve held request).1.script = ExceptT.mk (.panic text) ∧
      ∃ later, (world.serve held request).2.mappers[id]? = some later ∧
        SameCache mapper later ∧ later.poisoned = true := by
  have cache := afterwards_cache found held request
  simp only [building] at cache
  refine ⟨?_, _, serve_mapper found held request, cache⟩
  obtain ⟨start, same, serves⟩ := serve_rebuilt found building
  obtain ⟨later, next, rebuilt, _⟩ := Action.rebuild_of_panic id same
  exact (serves _ _ _ rebuilt).1

structure Progress (id : MapperId) (mapper : Mapper κ) (more : List (Moment κ))
    (later : Mapper κ) : Prop where
  builds : later.builds = mapper.builds + more.countP (·.completes id)
  kept : more.countP (·.completes id) = 0 → SameCache mapper later

theorem History.progress {first last : World κ} {more : List (Moment κ)} {id : MapperId}
    {mapper : Mapper κ} (history : History first more last)
    (found : first.mappers[id]? = some mapper) :
    ∃ later, last.mappers[id]? = some later ∧ Progress id mapper more later := by
  induction history with
  | start => exact ⟨mapper, found, rfl, fun _ => ⟨rfl, rfl⟩⟩
  | write entry _ ih => exact ih
  | clear _ ih => exact ih
  | @serve past world held request _ ih =>
    obtain ⟨middle, found', builds, kept⟩ := ih
    refine ⟨_, serve_mapper found' held request, ?_⟩
    cases completed : Moment.completes id ⟨world, held, request⟩ with
    | false =>
      have same := (afterwards_of_incomplete found' completed).1
      constructor
      · simp [same.builds, builds, completed]
      · intro none
        have kept := kept (by simpa [completed] using none)
        exact ⟨same.compiled.trans kept.compiled, same.builds.trans kept.builds⟩
    | true =>
      obtain ⟨composition, plan, _, replaced⟩ := afterwards_of_complete found' completed
      constructor
      · simp [replaced.builds, builds, completed, Nat.add_assoc]
      · intro none
        simp [completed] at none

/-- The link between a mapper's cache, its count and what it has built so far. -/
structure Tally (past : List (Moment κ)) (id : MapperId) (mapper : Mapper κ) : Prop where
  cached : mapper.compiled.isSome = true ↔ 1 ≤ mapper.builds
  counted : mapper.builds = past.countP (·.completes id)
  owned : ∀ plan, mapper.compiled = some plan → plan.mapper = id ∧ plan.build = mapper.builds
  poisoned : mapper.poisoned = past.any (·.aborts id)

theorem History.tally {schema : Schema} {tracing : Bool} {past : List (Moment κ)} {world : World κ}
    (history : History (initial schema tracing) past world) (id : MapperId) :
    match world.mappers[id]? with
    | some mapper => Tally past id mapper
    | none => ∀ moment ∈ past, moment.composition? id = none := by
  induction history with
  | start => simp [initial]
  | write entry _ ih => exact ih
  | clear _ ih => exact ih
  | @serve past world held request _ ih =>
    cases found : world.mappers[id]? with
    | none =>
      rw [found] at ih
      -- The request may make this very mapper, but then nothing has been built of it before.
      obtain ⟨idle, fresh⟩ := serve_fresh found held request
      have before : ∀ moment ∈ past ++ [⟨world, held, request⟩], moment.composition? id = none := by
        intro moment mem
        rcases List.mem_append.mp mem with earlier | now
        · exact ih moment earlier
        · obtain rfl := List.mem_singleton.mp now
          simp [Moment.composition?, found]
      cases made : (world.serve held request).2.mappers[id]? with
      | none => exact before
      | some mapper =>
        obtain ⟨source, dest, service, rfl⟩ := fresh mapper made
        refine ⟨by simp [Mapper.new], ?_, by simp [Mapper.new], ?_⟩
        · refine (List.countP_eq_zero.mpr fun moment mem => ?_).symm
          simp [Moment.completes, before moment mem]
        · refine (List.any_eq_false.mpr fun moment mem => ?_).symm
          simp [Moment.aborts, before moment mem]
    | some mapper =>
      rw [found] at ih
      rw [serve_mapper found]
      cases completed : Moment.completes id ⟨world, held, request⟩ with
      | false =>
        obtain ⟨⟨compiled, builds⟩, poisoned⟩ := afterwards_of_incomplete found completed
        constructor
        · rw [compiled, builds]
          exact ih.cached
        · simp [builds, completed, ih.counted]
        · rw [compiled, builds]
          exact ih.owned
        · simp [poisoned, ih.poisoned]
      | true =>
        obtain ⟨composition, plan, building, replaced⟩ := afterwards_of_complete found completed
        constructor
        · simp [replaced.compiled, replaced.builds]
        · simp [replaced.builds, completed, ih.counted]
        · intro other cached
          rw [replaced.compiled] at cached
          cases cached
          exact ⟨replaced.owner, replaced.build.trans replaced.builds.symm⟩
        · simp [replaced.poisoned, ih.poisoned, Moment.aborts, building]

/-- Compilation happens once, and once more each time that it is forced. The fields say what a
history has left of a mapper, what any further request does to it, and that every run extends the
history. -/
structure CompilesOnce (first : World κ) (past : List (Moment κ)) (world : World κ)
    (id : MapperId) (mapper : Mapper κ) : Prop where
  cached : mapper.compiled.isSome = true ↔ 1 ≤ mapper.builds
  counted : mapper.builds = past.countP (·.completes id)
  owned : ∀ plan, mapper.compiled = some plan → plan.mapper = id ∧ plan.build = mapper.builds
  poisoned : mapper.poisoned = past.any (·.aborts id)
  /-- A use of a mapper that has a plan is served by this plan, and nothing else happens. -/
  reused : ∀ held request plan, world.action? held request = some (id, .compile) →
    mapper.poisoned = false → mapper.compiled = some plan →
    plan.Serves world (world.serve held request)
  builds : ∀ held request, (Moment.composition? id ⟨world, held, request⟩).isSome = true ↔
    mapper.poisoned = false ∧
      (world.action? held request = some (id, .compile) ∧ mapper.compiled = none ∨
        world.action? held request = some (id, .recompile))
  /-- A completed build replaces the plan, raises the count by one, and serves its caller. -/
  built : ∀ held request composition,
    Moment.composition? id ⟨world, held, request⟩ = some (.ok composition) →
    ∃ plan later next, Replaced id mapper composition plan later ∧
      next.mappers = world.mappers.set id later ∧ plan.Serves next (world.serve held request)
  /-- A build in which the service panics changes neither, and its panic reaches the caller. -/
  aborted : ∀ held request text,
    Moment.composition? id ⟨world, held, request⟩ = some (.error text) →
    (world.serve held request).1.script = ExceptT.mk (.panic text) ∧
      ∃ later, (world.serve held request).2.mappers[id]? = some later ∧ SameCache mapper later ∧
        later.poisoned = true
  locked : ∀ held request action, world.action? held request = some (id, action) →
    action.configures = false → mapper.poisoned = true →
    (world.serve held request).1.script = throw .lockPoisoned ∧
      (world.serve held request).2 = world
  untouched : ∀ held request, Moment.completes id ⟨world, held, request⟩ = false →
    ∃ later, (world.serve held request).2.mappers[id]? = some later ∧ SameCache mapper later
  /-- However a script ends, only the builds completed while it runs change either. -/
  runs : ∀ {α : Type} depth held (script : Script κ α) ended last,
    script.exec (answer depth) held world = some (ended, last) →
    ∃ more later, History first (past ++ more) last ∧ last.mappers[id]? = some later ∧
      Progress id mapper more later
  answers : ∀ depth held request reply last, world.answer depth held request = some (reply, last) →
    ∃ more, History first (past ++ ⟨world, held, request⟩ :: more) last
  operates : ∀ depth operation reply last, world.operate depth operation = some (reply, last) →
    ∃ more, History first (past ++ more) last

theorem plan_built_once {schema : Schema} {tracing : Bool} {past : List (Moment κ)}
    {world : World κ} {id : MapperId} {mapper : Mapper κ}
    (history : History (initial schema tracing) past world)
    (found : world.mappers[id]? = some mapper) :
    CompilesOnce (initial schema tracing) past world id mapper := by
  have tally : Tally past id mapper := by
    have tally := history.tally id
    rwa [found] at tally
  constructor
  · exact tally.cached
  · exact tally.counted
  · exact tally.owned
  · exact tally.poisoned
  · intro held request plan aimed healthy cached
    exact serve_reused found aimed healthy cached
  · exact composition?_isSome_iff found
  · intro held request composition building
    exact serve_built found building
  · intro held request text building
    exact serve_aborted found building
  · intro held request action aimed uses poisoned
    exact serve_locked found aimed uses poisoned
  · intro held request incomplete
    exact ⟨_, serve_mapper found held request, (afterwards_of_incomplete found incomplete).1⟩
  · intro α depth held script ended last ends
    obtain ⟨more, late⟩ := History.of_exec (fun _ _ _ _ _ => History.of_answer) ends
    obtain ⟨later, found', progress⟩ := late.progress found
    exact ⟨more, later, history.trans late, found', progress⟩
  · intro depth held request reply last answered
    obtain ⟨more, late⟩ := History.of_answer answered
    exact ⟨more, history.trans late⟩
  · intro depth operation reply last operated
    obtain ⟨more, late⟩ := History.of_operate operated
    exact ⟨_, history.trans late⟩

end Serve

/-- A mapper that has been compiled and recompiled has completed two builds. -/
theorem plan_built_once_of_recompiled :
    let world := (initial Schema.twins false : World Closure).after
      [.newMapper "mapper" 1 1 none, .mapper "mapper" (.compile none),
        .mapper "mapper" (.recompile none)]
    ∃ past mapper, History (initial Schema.twins false) past world ∧
      world.mappers[0]? = some mapper ∧
      CompilesOnce (initial Schema.twins false) past world 0 mapper ∧
      past.countP (·.completes 0) = 2 := by
  intro world
  obtain ⟨past, history⟩ : ∃ past, History (initial Schema.twins false) past world :=
    ⟨_, History.of_operations _ _⟩
  have once := plan_built_once history (show world.mappers[0]? = _ from rfl)
  exact ⟨past, _, history, rfl, once, once.counted.symm⟩

/-- After a forced build in which the service panics, the cached plan is there but of no use. -/
theorem compiled_mapper_locked :
    let world := (initial Schema.twins false : World Closure).after
      [.newTable "table",
        .newService "service" "table"
          [⟨"a", .supply .i32 (.int 1), some 1⟩, ⟨"a", .panic, none⟩],
        .newMapper "mapper" 1 1 (some "service"), .mapper "mapper" (.compile none),
        .mapper "mapper" (.recompile none)]
    ∃ past mapper plan reply last,
      History (initial Schema.twins false) past world ∧ world.mappers[0]? = some mapper ∧
      mapper.compiled = some plan ∧
      world.answer 1 [] (.operation (.mapper "mapper" (.compile none))) = some (reply, last) ∧
      reply = .error .lockPoisoned ∧
      reply ≠ .ok (.summary plan.build plan.assignments.length plan.bindings) := by
  intro world
  obtain ⟨past, history⟩ : ∃ past, History (initial Schema.twins false) past world :=
    ⟨_, History.of_operations _ _⟩
  exact ⟨past, _, _, .error .lockPoisoned, _, history, rfl, rfl, rfl, rfl, nofun⟩

end World

end RecordMapping
