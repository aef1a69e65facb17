import RecordMapping.Proofs.Chronicle
import RecordMapping.Proofs.Trace

namespace RecordMapping

variable {κ : Type}

namespace World

def Names (world : World κ) (plan : Plan κ) : Prop :=
  ∃ name, world.handles.get? name = some (.plan plan)

/-- The plan is at hand: a handle names it, or a mapper has it as its own. -/
def Offers (world : World κ) (plan : Plan κ) : Prop :=
  world.Names plan ∨ ∃ (id : MapperId) (mapper : Mapper κ), world.mappers[id]? = some mapper ∧
    mapper.compiled = some plan

theorem names_keep {world : World κ} {name : String} {handle : Handle κ} {plan : Plan κ}
    (named : (world.keep name handle).Names plan) : handle = .plan plan ∨ world.Names plan := by
  obtain ⟨other, named⟩ := named
  by_cases same : name = other
  · simp only [keep, same, OrderedMap.get?_insert, if_true, Option.some.injEq] at named
    exact .inl named
  · simp only [keep, OrderedMap.get?_insert, if_neg same] at named
    exact .inr ⟨other, named⟩

theorem names_drop {world : World κ} {name : String} {plan : Plan κ}
    (named : (world.drop name).Names plan) : world.Names plan := by
  obtain ⟨other, named⟩ := named
  by_cases same : name = other
  · simp [drop, same] at named
  · simp only [drop, OrderedMap.get?_erase, if_neg same] at named
    exact ⟨other, named⟩

end World

namespace Plan

def BuiltIn (past : List (Moment κ)) (plan : Plan κ) : Prop :=
  ∃ moment ∈ past, moment.built? plan.mapper = some plan

/-- The plan is what its mapper builds at a moment: its closures are those that the mapper is
configured with then, and its assignments go by what is configured and by what the service answers
then. -/
structure MadeAt (moment : Moment κ) (plan : Plan κ) : Prop where
  built : moment.built? plan.mapper = some plan
  made : ∃ mapper, moment.world.mappers[plan.mapper]? = some mapper ∧
    plan = mapper.assembled plan.mapper (.ofSteps (reference
      (moment.world.schema.properties mapper.source) (moment.world.schema.properties mapper.dest)
      mapper.config ((moment.heard plan.mapper).map (·.answer))))

theorem BuiltIn.mono {past more : List (Moment κ)} {plan : Plan κ} (built : plan.BuiltIn past)
    (subset : past ⊆ more) : plan.BuiltIn more := by
  obtain ⟨moment, mem, made⟩ := built
  exact ⟨moment, subset mem, made⟩

theorem MadeAt.of_built {moment : Moment κ} {plan : Plan κ}
    (built : moment.built? plan.mapper = some plan) : plan.MadeAt moment := by
  obtain ⟨mapper, composition, found, building, same⟩ := Moment.built?_eq_some.mp built
  obtain ⟨later, composes⟩ := World.composes_of_composition found building
  have outcome := composes.outcome
  refine ⟨built, mapper, found, ?_⟩
  split at outcome
  next => simp at outcome
  next =>
    rw [← Except.ok.inj outcome]
    exact same.symm

end Plan

/-- A place in a list is found again by how many before it pass a test that it passes itself. -/
theorem eq_of_countP_eq {α : Type} {p : α → Bool} {x y : α} {early other late rest : List α}
    (same : early ++ x :: late = other ++ y :: rest) (passes : p x = true) (passes' : p y = true)
    (counts : early.countP p = other.countP p) : x = y := by
  induction early generalizing other with
  | nil =>
    cases other with
    | nil => exact (List.cons.inj same).1
    | cons z other =>
      obtain rfl : x = z := (List.cons.inj same).1
      simp [passes] at counts
  | cons z early ih =>
    cases other with
    | nil =>
      obtain rfl : z = y := (List.cons.inj same).1
      simp [passes'] at counts
    | cons z' other =>
      obtain ⟨rfl, rest⟩ := List.cons.inj same
      exact ih rest (by simpa [List.countP_cons] using counts)

namespace World

section Built

variable {schema : Schema} {tracing : Bool} {past : List (Moment κ)} {world : World κ}
  {plan other : Plan κ}

/-- A plan that an action yields is the one that its mapper has, or is built by the action. -/
theorem built_of_performed {id : MapperId} {mapper : Mapper κ} {action : Mapper.Action κ}
    {held : List Hold} {request : Request κ} (found : world.mappers[id]? = some mapper)
    (aimed : world.action? held request = some (id, action))
    (yields : (world.performed id mapper action).1 = .ok (some plan)) :
    mapper.compiled = some plan ∨ Moment.built? id ⟨world, held, request⟩ = some plan := by
  have effect := action.perform_effect world.schema
    (Surroundings.dialogue world.schema mapper.service) id mapper world.surroundings
  dsimp only [performed] at effect yields
  generalize (action.perform world.schema (Surroundings.dialogue world.schema mapper.service) id
    mapper world.surroundings).2.1 = later at effect
  rw [yields] at effect
  generalize outcome : Outcome.ok (some plan) = ended at effect
  cases effect with
  | @objected failure => exact absurd outcome.symm (failure.outcome_ne_ok (some plan))
  | locked | set | aborted => simp at outcome
  | reused uses healthy cached =>
    obtain rfl := by simpa using outcome
    exact .inl cached
  | built builds =>
    obtain rfl := by simpa using outcome
    refine .inr (Moment.built?_eq_some.mpr ⟨mapper, _, found, ?_, rfl⟩)
    exact (composition?_eq found aimed).trans builds.building

variable [Closures κ]

/-- A plan that a step leaves named had a name before, or is the one that an action yields. -/
theorem Step.names {held : List Hold} {request : Request κ} {bearing : Bearing κ}
    {served : Launch κ Answer × World κ} (step : world.Step held request bearing served)
    (named : served.2.Names plan) :
    world.Names plan ∨ ∃ id mapper action, world.mappers[id]? = some mapper ∧
      bearing.aim = some (id, action) ∧
      (world.performed id mapper action).1 = .ok (some plan) := by
  cases step with
  | @act id mapper action _ found owners comes =>
    -- Only an action can bring a plan that had no name: the one that it yields.
    obtain same | ⟨given, name, yields, same⟩ := comes.later
    · rw [same] at named
      exact .inl named
    · rw [same] at named
      refine (names_keep named).symm.imp_right fun told => ?_
      exact ⟨id, mapper, action, found, rfl, Handle.plan.inj told ▸ yields⟩
  | keep plain other => exact .inl ((names_keep named).resolve_left (other plan))
  | @copy name other _ handle =>
    -- The copy may itself name a plan, but that plan had a name before.
    rcases names_keep named with rfl | before
    · exact .inl ⟨other, handle⟩
    · exact .inl before
  | drop name => exact .inl (names_drop named)
  | newMapper name made =>
    have before := (names_keep named).resolve_left (by simp)
    rcases made with rfl | rfl <;> exact .inl before
  | erased | newTable | newService | newRegistry =>
    exact .inl ((names_keep named).resolve_left (by simp))
  | @enroll id entry =>
    obtain same | ⟨event, same⟩ := world.enroll_world id entry <;>
      (rw [same] at named; exact .inl named)
  | ask service question input =>
    rw [resolve_world] at named
    exact .inl named
  | start | note | settle | convert | nest => exact .inl named

/-- A plan that a request leaves named had a name before, or is the one that an action yields. -/
theorem names_serve {held : List Hold} {request : Request κ}
    (named : (world.serve held request).2.Names plan) :
    world.Names plan ∨ ∃ id mapper action, world.mappers[id]? = some mapper ∧
      world.action? held request = some (id, action) ∧
      (world.performed id mapper action).1 = .ok (some plan) :=
  (world.serve_step held request).names named

/-- A plan that a request leaves at hand was at hand before, or is built at that moment. -/
theorem offers_serve {held : List Hold} {request : Request κ}
    (offers : (world.serve held request).2.Offers plan) :
    world.Offers plan ∨ Moment.built? plan.mapper ⟨world, held, request⟩ = some plan := by
  rcases offers with named | ⟨id, later, found, cached⟩
  · rcases names_serve named with before | ⟨id, mapper, action, found, aimed, yields⟩
    · exact .inl (.inl before)
    · rcases built_of_performed found aimed yields with cached | built
      · exact .inl (.inr ⟨id, mapper, found, cached⟩)
      · obtain ⟨_, _, _, _, rfl⟩ := Moment.built?_eq_some.mp built
        exact .inr built
  · cases before : world.mappers[id]? with
    | none =>
      obtain ⟨source, dest, service, rfl⟩ := (serve_fresh before held request).2 later found
      simp [Mapper.new] at cached
    | some mapper =>
      obtain ⟨later', found', does⟩ := serve_does before held request
      obtain rfl : later' = later := Option.some.inj (found'.symm.trans found)
      cases does with
      | nothing | set | aborted => exact .inl (.inr ⟨id, mapper, before, cached⟩)
      | built building =>
        obtain rfl := Option.some.inj cached
        exact .inr (Moment.built?_eq_some.mpr ⟨mapper, _, before, building, rfl⟩)

/-- Whatever plan is at hand has been built. -/
theorem History.built (history : History (initial schema tracing) past world)
    (offers : world.Offers plan) : plan.BuiltIn past := by
  induction history with
  | start =>
    rcases offers with ⟨name, named⟩ | ⟨id, mapper, found, cached⟩
    · simp [initial] at named
    · simp [initial] at found
  | write entry _ ih => exact ih offers
  | clear _ ih => exact ih offers
  | serve held request _ ih =>
    rcases offers_serve offers with before | built
    · exact (ih before).mono (List.subset_append_left _ _)
    · exact ⟨_, List.mem_append_right _ (List.mem_singleton_self _), built⟩

theorem History.build_eq {early more : List (Moment κ)} {moment : Moment κ}
    (history : History (initial schema tracing) (early ++ moment :: more) world)
    (built : moment.built? plan.mapper = some plan) :
    moment.completes plan.mapper = true ∧
      plan.build = early.countP (·.completes plan.mapper) + 1 := by
  obtain ⟨mapper, composition, found, building, same⟩ := Moment.built?_eq_some.mp built
  have tally := history.split.1.tally plan.mapper
  rw [found] at tally
  refine ⟨Moment.completes_iff.mpr ⟨composition, building⟩, ?_⟩
  rw [← tally.counted, ← same]
  rfl

/-- No two plans are built under one number by one mapper. -/
theorem History.built_once (history : History (initial schema tracing) past world)
    (built : plan.BuiltIn past) (built' : other.BuiltIn past) (same : plan.is other = true) :
    other = plan := by
  obtain ⟨moment, mem, made⟩ := built
  obtain ⟨moment', mem', made'⟩ := built'
  obtain ⟨early, late, split⟩ := List.append_of_mem mem
  obtain ⟨early', late', split'⟩ := List.append_of_mem mem'
  have number := (split ▸ history).build_eq made
  have number' := (split' ▸ history).build_eq made'
  obtain ⟨mapper, build⟩ : plan.mapper = other.mapper ∧ plan.build = other.build := by
    simpa [Plan.is] using same
  rw [← mapper] at number' made'
  -- Each number counts the builds before, so the two moments are at one place of the history.
  have counts : early.countP (·.completes plan.mapper) =
      early'.countP (·.completes plan.mapper) := by omega
  obtain rfl : moment = moment' :=
    eq_of_countP_eq (split.symm.trans split') number.1 number'.1 counts
  exact Option.some.inj (made'.symm.trans made)

end Built

end World

end RecordMapping
