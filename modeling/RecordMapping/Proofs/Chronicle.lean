import RecordMapping.Proofs.Effect
import RecordMapping.Proofs.Trace

namespace RecordMapping

variable {κ : Type}

namespace Moment

def done? (id : MapperId) (moment : Moment κ) : Option (Mapper.Action κ) :=
  match moment.world.mappers[id]?, moment.action? id with
  | some mapper, some action =>
    match (moment.world.performed id mapper action).1 with
    | .ok _ => some action
    | _ => none
  | _, _ => none

/-- What the service of a mapper is asked and answers while the mapper builds at a moment. -/
def heard (id : MapperId) (moment : Moment κ) : List (Exchange κ) :=
  match moment.world.mappers[id]?, moment.action? id with
  | some mapper, some action =>
    action.heard moment.world.schema
      (Surroundings.dialogue moment.world.schema mapper.service) mapper moment.world.surroundings
  | _, _ => []

def built? (id : MapperId) (moment : Moment κ) : Option (Plan κ) :=
  match moment.world.mappers[id]?, moment.composition? id with
  | some mapper, some (.ok composition) => some (mapper.assembled id composition)
  | _, _ => none

/-- The composition that a mapper builds at a moment, by what is configured and what is heard. -/
def Composes (id : MapperId) (mapper : Mapper κ) (moment : Moment κ)
    (composed : Except String (Composition κ)) (config : Config κ) : Prop :=
  Plan.Built (Surroundings.dialogue moment.world.schema mapper.service)
    (moment.world.schema.properties mapper.source) (moment.world.schema.properties mapper.dest)
    mapper.config (moment.heard id) composed config

inductive Does (id : MapperId) (mapper : Mapper κ) (moment : Moment κ) : Mapper κ → Prop where
  | nothing (idle : moment.composition? id = none)
    (uses : ∀ action, moment.done? id = some action → action.configures = false) :
    Does id mapper moment mapper
  | set {action : Mapper.Action κ} {change : Config κ → Config κ}
    (idle : moment.composition? id = none) (healthy : mapper.poisoned = false)
    (done : moment.done? id = some action) (sets : action.Sets change) :
    Does id mapper moment { mapper with config := change mapper.config }
  | built {composition : Composition κ} {config : Config κ}
    (building : moment.composition? id = some (.ok composition))
    (healthy : mapper.poisoned = false)
    (uses : ∀ action, moment.done? id = some action → action.configures = false)
    (composes : moment.Composes id mapper (.ok composition) config) :
    Does id mapper moment
      { mapper with
        config := config
        compiled := some (mapper.assembled id composition)
        builds := mapper.builds + 1 }
  | aborted {text : String} {config : Config κ}
    (building : moment.composition? id = some (.error text))
    (healthy : mapper.poisoned = false)
    (uses : ∀ action, moment.done? id = some action → action.configures = false)
    (composes : moment.Composes id mapper (.error text) config) :
    Does id mapper moment { mapper with config := config, poisoned := true }

section Absent

variable {id : MapperId} {moment : Moment κ}

theorem done?_of_no_action (idle : moment.action? id = none) : moment.done? id = none := by
  unfold done?
  rw [idle]
  cases moment.world.mappers[id]? <;> rfl

theorem composition?_of_no_action (idle : moment.action? id = none) :
    moment.composition? id = none := by
  unfold composition?
  rw [idle]
  cases moment.world.mappers[id]? <;> rfl

theorem heard_of_idle (idle : moment.composition? id = none) : moment.heard id = [] := by
  unfold heard
  split
  next mapper action found acts =>
    simp only [composition?, found, acts, Mapper.Action.composition?] at idle
    unfold Mapper.Action.heard
    split
    next => rfl
    next healthy =>
      rw [if_neg healthy] at idle
      cases action with
      | compile =>
        simp only at idle ⊢
        split at idle
        next cached => rw [if_pos cached]
        next => simp at idle
      | recompile => simp at idle
      | _ => rfl
  next => rfl

theorem done?_eq_some {mapper : Mapper κ} {action : Mapper.Action κ}
    (found : moment.world.mappers[id]? = some mapper) (acts : moment.action? id = some action) :
    moment.done? id = some action ↔
      ∃ result, (moment.world.performed id mapper action).1 = .ok result := by
  unfold done?
  rw [found, acts]
  dsimp only
  cases (moment.world.performed id mapper action).1 <;> simp

theorem completes_iff : moment.completes id = true ↔
    ∃ composition, moment.composition? id = some (.ok composition) := by
  unfold completes
  split
  next composition building => simp [building]
  next incomplete => simpa using incomplete

theorem found_of_composition {composed : Except String (Composition κ)}
    (building : moment.composition? id = some composed) :
    ∃ mapper, moment.world.mappers[id]? = some mapper := by
  unfold composition? at building
  split at building
  next mapper _ found _ => exact ⟨mapper, found⟩
  next => simp at building

theorem built?_eq_some {plan : Plan κ} :
    moment.built? id = some plan ↔ ∃ mapper composition,
      moment.world.mappers[id]? = some mapper ∧
        moment.composition? id = some (.ok composition) ∧
        mapper.assembled id composition = plan := by
  unfold built?
  constructor
  · intro made
    split at made
    next mapper composition found building =>
      exact ⟨mapper, composition, found, building, Option.some.inj made⟩
    next => simp at made
  · rintro ⟨mapper, composition, found, building, rfl⟩
    rw [found, building]

end Absent

end Moment

namespace World

open Mapper

/-- The mapper after a moment, by the ways an action can end. -/
theorem afterwards_does {world : World κ} {id : MapperId} {mapper : Mapper κ}
    (found : world.mappers[id]? = some mapper) (held : List Hold) (request : Request κ) :
    let moment : Moment κ := ⟨world, held, request⟩
    moment.Does id mapper (world.afterwards id mapper (moment.action? id)) := by
  intro moment
  cases acts : moment.action? id with
  | none =>
    refine .nothing (Moment.composition?_of_no_action acts) fun action done => ?_
    simp [Moment.done?_of_no_action acts] at done
  | some action =>
    have effect := action.perform_effect world.schema
      (Surroundings.dialogue world.schema mapper.service) id mapper world.surroundings
    have composes : moment.composition? id = action.composition? world.schema
        (Surroundings.dialogue world.schema mapper.service) mapper world.surroundings := by
      simp only [Moment.composition?, acts, moment, found]
    have hears : moment.heard id = action.heard world.schema
        (Surroundings.dialogue world.schema mapper.service) mapper world.surroundings := by
      simp only [Moment.heard, acts, moment, found]
    have done : moment.done? id = match (world.performed id mapper action).1 with
        | .ok _ => some action
        | _ => none := by
      simp only [Moment.done?, acts, moment, found]
    -- The effect is about the outcome and the later mapper, not about how they came to be.
    dsimp only [afterwards, performed] at effect done ⊢
    generalize (action.perform world.schema (Surroundings.dialogue world.schema mapper.service) id
      mapper world.surroundings).1 = outcome at effect done
    generalize (action.perform world.schema (Surroundings.dialogue world.schema mapper.service) id
      mapper world.surroundings).2.1 = later at effect
    cases effect with
    | @objected failure configures told =>
      refine .nothing (composes.trans (Action.composition?_of_configures configures)) ?_
      cases failure <;> simp [done, Failure.outcome]
    | locked told poisoned =>
      refine .nothing (composes.trans ?_) (by simp [done])
      simp [Action.composition?, poisoned]
    | set told healthy sets =>
      exact .set (composes.trans (Action.composition?_of_configures sets.configures)) healthy done
        sets
    | reused uses healthy cached =>
      subst uses
      refine .nothing (composes.trans ?_) (by simp [done, Action.configures])
      simp [Action.composition?, healthy, cached]
    | built builds =>
      have building := composes.trans builds.building
      have uses := Action.uses_of_composition builds.building
      refine .built building uses.2 (by simp [done, uses.1]) ?_
      rw [Moment.Composes, hears]
      exact builds.built
    | aborted builds =>
      have building := composes.trans builds.building
      have uses := Action.uses_of_composition builds.building
      refine .aborted building uses.2 (by simp [done]) ?_
      rw [Moment.Composes, hears]
      exact builds.built

/-- A build composes its plan of what is configured and what is heard. -/
theorem composes_of_composition {world : World κ} {id : MapperId} {mapper : Mapper κ}
    {held : List Hold} {request : Request κ} {composed : Except String (Composition κ)}
    (found : world.mappers[id]? = some mapper)
    (building : Moment.composition? id ⟨world, held, request⟩ = some composed) :
    ∃ later, Moment.Composes id mapper ⟨world, held, request⟩ composed later := by
  obtain ⟨action, aimed⟩ := action?_of_composition building
  have acts : Moment.action? id ⟨world, held, request⟩ = some action := by
    simp [Moment.action?, aimed]
  rw [composition?_eq found aimed] at building
  obtain ⟨config, _, builds, _⟩ := Mapper.Action.perform_builds id building
  refine ⟨config, ?_⟩
  simp only [Moment.Composes, Moment.heard, acts, found]
  exact builds.built

theorem composes_of_built {world : World κ} {id : MapperId} {mapper : Mapper κ} {held : List Hold}
    {request : Request κ} (found : world.mappers[id]? = some mapper) {plan : Plan κ}
    (made : Moment.built? id ⟨world, held, request⟩ = some plan) :
    ∃ composition later, mapper.assembled id composition = plan ∧
      Moment.Composes id mapper ⟨world, held, request⟩ (.ok composition) later := by
  obtain ⟨mapper', composition, found', building, same⟩ := Moment.built?_eq_some.mp made
  obtain rfl : mapper' = mapper := Option.some.inj (found'.symm.trans found)
  obtain ⟨later, composes⟩ := composes_of_composition found building
  exact ⟨composition, later, same, composes⟩

section Histories

variable [Closures κ] {first last world : World κ} {past more early : List (Moment κ)}
  {id : MapperId} {mapper : Mapper κ}

theorem serve_does (found : world.mappers[id]? = some mapper) (held : List Hold)
    (request : Request κ) :
    ∃ later, (world.serve held request).2.mappers[id]? = some later ∧
      Moment.Does id mapper ⟨world, held, request⟩ later :=
  ⟨_, serve_mapper found held request, afterwards_does found held request⟩

/-- A request that is turned away is over at once. -/
theorem answer_of_failure {held : List Hold} {request : Request κ} {done : World κ}
    {failure : Failure}
    (comes : Comes Given (failure.outcome, done) (world.serve held request)) (depth : Nat) :
    world.answer (depth + 1) held request = some (failure.outcome, done) := by
  cases failure with
  | error cause | panic text =>
    rw [answer_eq_some]
    obtain ⟨script, rfl⟩ := comes
    rw [script]
    exact ⟨_, rfl, rfl⟩

/-- The plan that a build yields is put in place of the cached one and given to the caller. -/
theorem serve_yields {held : List Hold} {request : Request κ}
    (found : world.mappers[id]? = some mapper) {plan : Plan κ}
    (made : Moment.built? id ⟨world, held, request⟩ = some plan) :
    ∃ later next, next.mappers[id]? = some later ∧ later.compiled = some plan ∧
      plan.Serves next (world.serve held request) := by
  obtain ⟨mapper', composition, found', building, rfl⟩ := Moment.built?_eq_some.mp made
  obtain rfl : mapper' = mapper := Option.some.inj (found'.symm.trans found)
  obtain ⟨action, aimed⟩ := action?_of_composition building
  rw [composition?_eq found aimed] at building
  obtain ⟨config, next, builds, performed⟩ := Mapper.Action.perform_builds id building
  have comes := serve_comes found aimed
  rw [carryOut_eq, World.performed, performed] at comes
  cases comes with
  | plan serves =>
    obtain ⟨bound, -⟩ := List.getElem?_eq_some_iff.mp found
    exact ⟨_, _, List.getElem?_set_self bound, rfl, serves⟩

namespace History

/-- What the moments of a history keep holds of a mapper all along. -/
theorem onward {P : List (Moment κ) → Mapper κ → Prop} (history : History first more last)
    (found : first.mappers[id]? = some mapper) (start : P [] mapper)
    (step : ∀ {past moment middle later}, P past middle → Moment.Does id middle moment later →
      P (past ++ [moment]) later) :
    ∃ later, last.mappers[id]? = some later ∧ P more later := by
  induction history with
  | start => exact ⟨mapper, found, start⟩
  | write entry _ ih => exact ih
  | clear _ ih => exact ih
  | @serve past world held request _ ih =>
    obtain ⟨middle, found', before⟩ := ih
    obtain ⟨later, kept, does⟩ := serve_does found' held request
    exact ⟨later, kept, step before does⟩

/-- What holds of every new mapper, and is kept by the moments of a history, holds of a mapper as
long as there is one. -/
theorem since {schema : Schema} {tracing : Bool} {P : List (Moment κ) → Mapper κ → Prop}
    (history : History (initial schema tracing) past world)
    (new : ∀ past source dest service, (∀ moment ∈ past, moment.action? id = none) →
      P past (.new source dest service))
    (step : ∀ {past moment middle later}, P past middle → Moment.Does id middle moment later →
      P (past ++ [moment]) later)
    (found : world.mappers[id]? = some mapper) : P past mapper := by
  suffices all : (∀ mapper, world.mappers[id]? = some mapper → P past mapper) ∧
      (world.mappers[id]? = none → ∀ moment ∈ past, moment.action? id = none) from
    all.1 mapper found
  clear found
  induction history with
  | start => simp [initial]
  | write entry _ ih => exact ih
  | clear _ ih => exact ih
  | @serve past world held request _ ih =>
    cases found : world.mappers[id]? with
    | some middle =>
      obtain ⟨later, kept, does⟩ := serve_does found held request
      rw [kept]
      refine ⟨fun mapper same => ?_, by simp⟩
      obtain rfl := Option.some.inj same
      exact step (ih.1 middle found) does
    | none =>
      obtain ⟨idle, fresh⟩ := serve_fresh found held request
      have before : ∀ moment ∈ past ++ [⟨world, held, request⟩], moment.action? id = none :=
        List.forall_mem_append.mpr ⟨ih.2 found, List.forall_mem_singleton.mpr idle⟩
      refine ⟨fun mapper made => ?_, fun _ => before⟩
      obtain ⟨source, dest, service, rfl⟩ := fresh mapper made
      exact new _ source dest service before

/-- A history up to one of its moments, and from then on. -/
theorem split {moment : Moment κ} (history : History first (early ++ moment :: more) last) :
    History first early moment.world ∧
      History (moment.world.serve moment.held moment.request).2 more last := by
  generalize whole : early ++ moment :: more = past at history
  induction history generalizing more with
  | start => simp at whole
  | write entry _ ih => exact (ih whole).imp_right (.write entry)
  | clear _ ih => exact (ih whole).imp_right .clear
  | @serve past world held request before ih =>
    rcases List.eq_nil_or_concat more with rfl | ⟨rest, final, rfl⟩
    · obtain ⟨rfl, same⟩ := List.append_inj' whole rfl
      obtain rfl := List.singleton_inj.mp same
      exact ⟨before, .start⟩
    · rw [List.concat_eq_append, ← List.cons_append, ← List.append_assoc] at whole
      obtain ⟨rfl, same⟩ := List.append_inj' whole rfl
      obtain rfl := List.singleton_inj.mp same
      obtain ⟨before', after⟩ := ih rfl
      rw [List.concat_eq_append]
      exact ⟨before', .serve held request after⟩

end History

end Histories

end World

end RecordMapping
