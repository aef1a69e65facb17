import RecordMapping.Expression
import RecordMapping.Proofs.Steady
import RecordMapping.Proofs.Action

namespace RecordMapping

variable {σ κ : Type}

namespace Plan

variable {answers : Question → Resolution κ} {sources dests : List (Property Record)}
  {config : Config κ} {composition : Composition κ}

/-- Two members of one name have the same counterpart, and the service bridges only one of them. -/
def Divided (answers : Question → Resolution κ) (sources dests : List (Property Record))
    (config : Config κ) : Prop :=
  ∃ bridged ∈ unclaimed config.custom.contains sources,
  ∃ denied ∈ unclaimed config.custom.contains sources,
  ∃ dest converter error,
    Text.fold bridged.name = Text.fold denied.name ∧
    target? dests config.ignored bridged = some dest ∧
    answers (.member dest.signature bridged.signature) = .convert converter ∧
    answers (.member dest.signature denied.signature) = .refuse error

theorem target?_congr {ignored : Ignored} {a b : Property Record}
    (same : Text.fold a.name = Text.fold b.name) :
    target? dests ignored a = target? dests ignored b := by
  simp [target?, same, counterpart?_congr same]

abbrev rebuilt (answers : Question → Resolution κ) (sources dests : List (Property Record))
    (config : Config κ) : Config κ :=
  (compose (.ofAnswers answers) sources dests config ()).2.1

theorem rebuilt_custom : (rebuilt answers sources dests config).custom = config.custom := by
  rw [rebuilt, (compose_built (.ofAnswers answers) sources dests config ()).others]

theorem settle_rebuilt
    (calm : ∀ question ∈ questions sources dests config, (answers question).panic? = none)
    (source : Property Record) :
    settle answers dests (rebuilt answers sources dests config).ignored source =
        settle answers dests config.ignored source ∨
      settle answers dests (rebuilt answers sources dests config).ignored source =
          .leaveOut source.name ∧
        ∃ other ∈ unclaimed config.custom.contains sources,
          Text.fold other.name = Text.fold source.name ∧
            settle answers dests config.ignored other = .leaveOut other.name := by
  have remembers := compose_remembers calm (Text.fold source.name)
  by_cases held : (rebuilt answers sources dests config).ignored.contains
      (Text.fold source.name) = true
  · have left : settle answers dests (rebuilt answers sources dests config).ignored source =
        .leaveOut source.name := settle_of_none (by simp [target?, held])
    rcases remembers.mp held with before | other
    · left
      rw [left, settle_of_none (by simp [target?, before])]
    · exact .inr ⟨left, other⟩
  · left
    have before : ¬ config.ignored.contains (Text.fold source.name) = true :=
      fun before => held (remembers.mpr (.inl before))
    simp [settle, target?, held, before]

theorem settle_rebuilt_of_undivided
    (calm : ∀ question ∈ questions sources dests config, (answers question).panic? = none)
    (undivided : ¬ Divided answers sources dests config) {source : Property Record}
    (mem : source ∈ unclaimed config.custom.contains sources) :
    settle answers dests (rebuilt answers sources dests config).ignored source =
      settle answers dests config.ignored source := by
  rcases settle_rebuilt calm source with same | ⟨left, other, mem', name, left'⟩
  · exact same
  · rw [left, eq_comm, settle_eq_leaveOut calm mem]
    intro dest found
    obtain ⟨error, denied⟩ := (settle_eq_leaveOut calm mem').mp left' dest
      ((target?_congr name).trans found)
    cases told : answers (.member dest.signature source.signature) with
    | convert converter =>
      have divided : Divided answers sources dests config :=
        ⟨source, mem, other, mem', dest, converter, error, name.symm, found, told, denied⟩
      exact absurd divided undivided
    | refuse error => exact ⟨error, rfl⟩
    | panic text =>
      have asked := calm _ (mem_questions mem found)
      simp [told, Resolution.panic?] at asked

/-- Of a divided name the first build assigns a member that the second leaves out. -/
theorem Divided.lost
    (calm : ∀ question ∈ questions sources dests config, (answers question).panic? = none)
    (divided : Divided answers sources dests config) :
    ∃ source ∈ unclaimed config.custom.contains sources, ∃ dest converter,
      settle answers dests config.ignored source =
          .assign .auto dest.name source.name ⟨.member source, converter, dest⟩ ∧
        settle answers dests (rebuilt answers sources dests config).ignored source =
          .leaveOut source.name := by
  obtain ⟨source, mem, other, mem', dest, converter, error, name, found, told, denied⟩ := divided
  have found' := (target?_congr name).symm.trans found
  have held := (compose_remembers calm (Text.fold source.name)).mpr
    (.inr ⟨other, mem', name.symm, settle_of_refuse found' denied⟩)
  exact ⟨source, mem, dest, converter, settle_of_convert found told,
    settle_of_none (by simp [target?, held])⟩

theorem settled_rebuilt :
    settled answers sources dests (rebuilt answers sources dests config) =
      (unclaimed config.custom.contains sources).map
          (settle answers dests (rebuilt answers sources dests config).ignored) ++
        config.custom.entries.map (Step.ofCustom config.ignored) := by
  have explicit := (compose_built (.ofAnswers answers) sources dests config ()).ignored.explicit
  rw [settled, rebuilt_custom, Step.ofCustom_congr explicit]

theorem settled_rebuilt_of_undivided
    (calm : ∀ question ∈ questions sources dests config, (answers question).panic? = none)
    (undivided : ¬ Divided answers sources dests config) :
    settled answers sources dests (rebuilt answers sources dests config) =
      settled answers sources dests config := by
  rw [settled_rebuilt, settled]
  congr 1
  exact List.map_congr_left fun source mem => settle_rebuilt_of_undivided calm undivided mem

theorem questions_rebuilt
    (calm : ∀ question ∈ questions sources dests config, (answers question).panic? = none) :
    questions sources dests (rebuilt answers sources dests config) ⊆
      questions sources dests config := by
  intro question mem
  obtain ⟨candidate, listed, asked⟩ := List.mem_filterMap.mp mem
  cases candidate with
  | leftOut name => simp [Candidate.question?] at asked
  | pair source dest =>
    obtain ⟨free, found⟩ := mem_candidates_pair.mp listed
    rw [rebuilt_custom] at free
    obtain ⟨fresh, served⟩ := target?_eq_some.mp found
    have before : config.ignored.get? (Text.fold source.name) = none := by
      cases known : config.ignored.get? (Text.fold source.name) with
      | none => rfl
      | some omission =>
        have held := (compose_remembers calm (Text.fold source.name)).mpr
          (.inl (OrderedMap.contains_iff.mpr ⟨omission, known⟩))
        simp [OrderedMap.contains, fresh] at held
    cases asked
    exact mem_questions free (target?_eq_some.mpr ⟨before, served⟩)

theorem bindings_rebuilt_of_divided
    (calm : ∀ question ∈ questions sources dests config, (answers question).panic? = none)
    (divided : Divided answers sources dests config) :
    (settled answers sources dests (rebuilt answers sources dests config)).map (·.binding) ≠
      (settled answers sources dests config).map (·.binding) := by
  intro same
  obtain ⟨source, mem, dest, converter, assigned, left⟩ := divided.lost calm
  rw [settled_rebuilt, settled, List.map_append, List.map_append, List.append_left_inj,
    List.map_map, List.map_map] at same
  have lost := List.map_inj_left.mp same source mem
  simp [assigned, left, Step.binding, Binding.ignored] at lost

theorem assignments_rebuilt_of_divided
    (calm : ∀ question ∈ questions sources dests config, (answers question).panic? = none)
    (divided : Divided answers sources dests config) :
    ((settled answers sources dests (rebuilt answers sources dests config)).filterMap
        (·.assignment?)).length <
      ((settled answers sources dests config).filterMap (·.assignment?)).length := by
  obtain ⟨source, mem, dest, converter, assigned, left⟩ := divided.lost calm
  have fewer (members : List (Property Record)) :
      members.countP (fun member => (settle answers dests
        (rebuilt answers sources dests config).ignored member).assignment?.isSome) ≤
      members.countP fun member =>
        (settle answers dests config.ignored member).assignment?.isSome := by
    apply List.countP_mono_left
    intro member _ kept
    rcases settle_rebuilt calm member with same | ⟨gone, _⟩
    · rwa [same] at kept
    · simp [gone, Step.assignment?] at kept
  -- No other member gains an assignment, and the lost one has none on the left.
  obtain ⟨before, after, split⟩ := List.append_of_mem mem
  have early := fewer before
  have late := fewer after
  have kept : (settle answers dests config.ignored source).assignment?.isSome = true := by
    rw [assigned]; rfl
  have gone : (settle answers dests (rebuilt answers sources dests config).ignored
      source).assignment?.isSome = false := by
    rw [left]; rfl
  rw [settled_rebuilt, settled, split]
  simp only [List.filterMap_append, List.length_append, List.length_filterMap_eq_countP,
    List.countP_map, List.countP_append, List.countP_cons, Function.comp_def, kept, gone]
  simp only [if_true, Bool.false_eq_true, if_false]
  omega

end Plan

namespace Mapper

variable {answers : Question → Resolution κ}

def planned (answers : Question → Resolution κ) (schema : Schema) (id : MapperId)
    (mapper : Mapper κ) : Plan κ :=
  let steps := Plan.settled answers (schema.properties mapper.source)
    (schema.properties mapper.dest) mapper.config
  { mapper := id, build := mapper.builds + 1, source := mapper.source, dest := mapper.dest,
    constructor := mapper.config.constructor, before := mapper.config.before,
    assignments := steps.filterMap (·.assignment?), after := mapper.config.after,
    bindings := steps.map (·.binding) }

def Calm (answers : Question → Resolution κ) (schema : Schema) (mapper : Mapper κ) : Prop :=
  ∀ question ∈ Plan.questions (schema.properties mapper.source) (schema.properties mapper.dest)
    mapper.config, (answers question).panic? = none

def renewed (answers : Question → Resolution κ) (schema : Schema) (id : MapperId)
    (mapper : Mapper κ) : Mapper κ :=
  { mapper with
    config := Plan.rebuilt answers (schema.properties mapper.source)
      (schema.properties mapper.dest) mapper.config
    compiled := some (mapper.planned answers schema id)
    builds := mapper.builds + 1 }

theorem rebuild_ofAnswers {schema : Schema} {mapper : Mapper κ} (calm : mapper.Calm answers schema)
    (id : MapperId) :
    (mapper.rebuild schema (.ofAnswers answers) id ()).1 =
        .ok (mapper.planned answers schema id) ∧
      (mapper.rebuild schema (.ofAnswers answers) id ()).2.1 =
        mapper.renewed answers schema id := by
  have composed := Plan.compose_ofAnswers calm
  have others := (Plan.compose_built (.ofAnswers answers) (schema.properties mapper.source)
    (schema.properties mapper.dest) mapper.config ()).others
  obtain ⟨outcome, config, built⟩ : ∃ outcome config,
      Plan.compose (.ofAnswers answers) (schema.properties mapper.source)
        (schema.properties mapper.dest) mapper.config () = (outcome, config, ()) := ⟨_, _, rfl⟩
  rw [built] at composed others
  obtain rfl : outcome = _ := composed
  have same : config = { mapper.config with ignored := config.ignored } := others
  constructor
  · simp only [rebuild, built]
    rw [same]
    rfl
  · simp only [rebuild, built, renewed, Plan.rebuilt]
    rw [same]
    rfl

theorem calm_of_rebuilt {schema : Schema} {mapper : Mapper κ} {id : MapperId} {plan : Plan κ}
    (done : (mapper.rebuild schema (.ofAnswers answers) id ()).1 = .ok plan) :
    mapper.Calm answers schema := by
  obtain ⟨outcome, config, built⟩ : ∃ outcome config,
      Plan.compose (.ofAnswers answers) (schema.properties mapper.source)
        (schema.properties mapper.dest) mapper.config () = (outcome, config, ()) := ⟨_, _, rfl⟩
  cases outcome with
  | error text => simp [rebuild, built] at done
  | ok composition => exact Plan.calm_of_composed (congrArg Prod.fst built)

/-- A forced build and a first use yield the same plan. -/
theorem builds_of_calm {schema : Schema} {dialogue : Dialogue σ κ} {mapper : Mapper κ}
    {state : σ} (healthy : mapper.poisoned = false) (calm : mapper.Calm answers schema)
    (steady : dialogue.Steady answers state) (id : MapperId) :
    (mapper.recompile schema dialogue id state).1 = .ok (mapper.planned answers schema id) ∧
      (mapper.compiled = none →
        (mapper.compile schema dialogue id state).1 = .ok (mapper.planned answers schema id)) := by
  have similar := dialogue.steady_similar answers
  have built := (rebuild_ofAnswers calm id).1
  refine ⟨?_, fun unused => ?_⟩
  · rw [(similar.recompile (t := ()) schema id mapper steady).result]
    simpa only [recompile, healthy, Bool.false_eq_true, if_false] using built
  · rw [(similar.compile (t := ()) schema id mapper steady).result]
    simpa only [compile, healthy, unused, Bool.false_eq_true, if_false] using built

/-- A mapper that has built a plan, by its first use or by force. -/
def HasBuilt (schema : Schema) (dialogue : Dialogue σ κ) (id : MapperId) (mapper : Mapper κ)
    (state : σ) (plan : Plan κ) (built : Mapper κ) (after : σ) : Prop :=
  mapper.compiled = none ∧ mapper.compile schema dialogue id state = (.ok plan, built, after) ∨
    mapper.recompile schema dialogue id state = (.ok plan, built, after)

theorem HasBuilt.rebuild {schema : Schema} {dialogue : Dialogue σ κ} {id : MapperId}
    {mapper built : Mapper κ} {state after : σ} {plan : Plan κ}
    (first : mapper.HasBuilt schema dialogue id state plan built after)
    (steady : dialogue.Steady answers state) :
    mapper.poisoned = false ∧ mapper.Calm answers schema ∧
      plan = mapper.planned answers schema id ∧ built = mapper.renewed answers schema id := by
  have similar := dialogue.steady_similar answers
  obtain ⟨healthy, done, same⟩ : mapper.poisoned = false ∧
      (mapper.rebuild schema (.ofAnswers answers) id ()).1 = .ok plan ∧
      (mapper.rebuild schema (.ofAnswers answers) id ()).2.1 = built := by
    rcases first with ⟨fresh, done⟩ | done
    · have alike := similar.compile (t := ()) schema id mapper steady
      rw [done] at alike
      cases healthy : mapper.poisoned with
      | true => simp [compile, healthy] at done
      | false =>
        simp only [compile, healthy, fresh, Bool.false_eq_true, if_false] at alike
        exact ⟨rfl, alike.result.symm, alike.value.symm⟩
    · have alike := similar.recompile (t := ()) schema id mapper steady
      rw [done] at alike
      cases healthy : mapper.poisoned with
      | true => simp [recompile, healthy] at done
      | false =>
        simp only [recompile, healthy, Bool.false_eq_true, if_false] at alike
        exact ⟨rfl, alike.result.symm, alike.value.symm⟩
  have calm := calm_of_rebuilt done
  obtain ⟨made, kept⟩ := rebuild_ofAnswers calm id
  exact ⟨healthy, calm, (Outcome.ok.inj (made.symm.trans done)).symm, same.symm.trans kept⟩

theorem Calm.renewed {schema : Schema} {mapper : Mapper κ} (calm : mapper.Calm answers schema)
    (id : MapperId) : (mapper.renewed answers schema id).Calm answers schema :=
  fun question mem => calm question (Plan.questions_rebuilt calm mem)

/-- Without a divided name the second plan differs from the first in its number alone. -/
theorem planned_renewed {schema : Schema} {mapper : Mapper κ} (calm : mapper.Calm answers schema)
    (id : MapperId) (undivided : ¬ Plan.Divided answers (schema.properties mapper.source)
      (schema.properties mapper.dest) mapper.config) :
    (mapper.renewed answers schema id).planned answers schema id =
      { mapper.planned answers schema id with build := mapper.builds + 2 } := by
  have others := (Plan.compose_built (.ofAnswers answers) (schema.properties mapper.source)
    (schema.properties mapper.dest) mapper.config ()).others
  have steps := Plan.settled_rebuilt_of_undivided calm undivided
  simp only [planned, renewed, steps]
  rw [Plan.rebuilt, others]

/-- A forced build right after another one, with a service that has not changed its mind, yields
the same plan exactly when no name is divided. Otherwise members that the first plan assigns are
lost. -/
theorem recompile_same_iff [Closures κ] {schema : Schema} {dialogue : Dialogue σ κ}
    {id : MapperId} {mapper built : Mapper κ} {state after later : σ} {plan : Plan κ}
    (first : mapper.HasBuilt schema dialogue id state plan built after)
    (steady : dialogue.Steady answers state) (still : dialogue.Steady answers later) :
    ∃ again, (built.recompile schema dialogue id later).1 = .ok again ∧
      let divided := Plan.Divided answers (schema.properties mapper.source)
        (schema.properties mapper.dest) mapper.config
      (again.bindings = plan.bindings ↔ ¬ divided) ∧
      (again.assignments = plan.assignments ↔ ¬ divided) ∧
      (divided → again.assignments.length < plan.assignments.length) ∧
      (¬ divided → again = { plan with build := plan.build + 1 } ∧
        ∀ source dest, again.run schema source dest = plan.run schema source dest) := by
  obtain ⟨healthy, calm, rfl, rfl⟩ := first.rebuild steady
  have fewer := Plan.assignments_rebuilt_of_divided calm
  have same := planned_renewed calm id
  refine ⟨(mapper.renewed answers schema id).planned answers schema id, ?_, ⟨?_, ?_⟩, ⟨?_, ?_⟩,
    fewer, ?_⟩
  · have poisoned : (mapper.renewed answers schema id).poisoned = false := healthy
    exact (builds_of_calm poisoned (calm.renewed id) still id).1
  · intro bindings divided
    exact Plan.bindings_rebuilt_of_divided calm divided bindings
  · intro undivided
    rw [same undivided]
  · intro assignments divided
    exact Nat.ne_of_lt (fewer divided) (congrArg List.length assignments)
  · intro undivided
    rw [same undivided]
  · intro undivided
    rw [same undivided]
    exact ⟨rfl, fun _ _ => rfl⟩

end Mapper

/-- One twin is assigned by the first build and left out by the second. -/
theorem recompile_twins :
    let surroundings : Surroundings Closure := ⟨[default], [], [], false⟩
    let dialogue := Surroundings.dialogue Schema.twins (.table 0)
    ∃ plan built after,
      (Mapper.new 0 1 (.table 0)).HasBuilt Schema.twins dialogue 0 surroundings plan built after ∧
      plan.bindings = [.ignored "A", ⟨"a", .auto, some "a"⟩] ∧
      ∃ again, (built.recompile Schema.twins dialogue 0 after).1 = .ok again ∧
        again.bindings ≠ plan.bindings ∧
        again.assignments.length < plan.assignments.length := by
  intro surroundings dialogue
  have steady :=
    Surroundings.steady_table (show surroundings.table 0 = default from rfl) Schema.twins
  have first : (Mapper.new 0 1 (.table 0)).HasBuilt Schema.twins dialogue 0 surroundings _ _ _ :=
    .inl ⟨rfl, rfl⟩
  obtain ⟨again, done, bindings, _, fewer, _⟩ := Mapper.recompile_same_iff first steady steady
  have divided : Plan.Divided (Conversions.answers (default : Conversions Closure))
      (Schema.twins.properties 0) (Schema.twins.properties 1) default :=
    ⟨(Schema.twins.properties 0)[1], List.mem_filter.mpr ⟨List.getElem_mem _, by decide⟩,
      (Schema.twins.properties 0)[0], List.mem_filter.mpr ⟨List.getElem_mem _, by decide⟩,
      (Schema.twins.properties 1)[0], _, _, by decide, rfl, rfl, rfl⟩
  exact ⟨_, _, _, first, by decide, again, done, fun same => bindings.mp same divided,
    fewer divided⟩

end RecordMapping
