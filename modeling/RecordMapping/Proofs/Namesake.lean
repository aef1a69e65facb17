import RecordMapping.Expression
import RecordMapping.Proofs.Formation

namespace RecordMapping

variable {σ κ : Type}

def Dialogue.Bridges (dialogue : Dialogue σ κ) (first : σ) (source dest : Property Record) : Prop :=
  ∀ state, dialogue.Reaches first state → ∃ converter,
    (dialogue.ask (.member dest.signature source.signature) state).1 = .convert converter

namespace Plan

/-- The plan assigns the source member to the destination member because of their names. -/
def Pairs (plan : Plan κ) (source dest : Property Record) : Prop :=
  ∃ converter,
    (⟨dest.name, .auto, some source.name⟩, ⟨.member source, converter, dest⟩) ∈ plan.bound

/-- What becomes of a source member that is neither claimed nor ignored when a build starts. -/
theorem compose_namesake (dialogue : Dialogue σ κ) {sources : List (Property Record)}
    (dests : List (Property Record)) {config : Config κ} (state : σ) {source : Property Record}
    (calm : dialogue.Calm)
    (mem : source ∈ unclaimed config.custom.contains sources)
    (free : config.ignored.get? (Text.fold source.name) = none) :
    ∃ steps : List (Step κ),
      (compose dialogue sources dests config state).1 = .ok (.ofSteps steps) ∧
      (∀ kind dest label assignment, .assign kind dest label assignment ∈ steps →
        kind ≠ .ignored) ∧
      (∀ dest converter,
        .assign .auto dest.name source.name ⟨.member source, converter, dest⟩ ∈ steps →
        counterpart? dests source.name = some dest ∧ ∃ asked,
          (dialogue.ask (.member dest.signature source.signature) asked).1 = .convert converter) ∧
      (∀ dest, counterpart? dests source.name = some dest →
        (∀ asked, ∃ converter,
          (dialogue.ask (.member dest.signature source.signature) asked).1 = .convert converter) →
        ∃ converter,
          .assign .auto dest.name source.name ⟨.member source, converter, dest⟩ ∈ steps) ∧
      ((compose dialogue sources dests config state).2.1.ignored.get? (Text.fold source.name) =
          some .unmatched ↔ counterpart? dests source.name = none) := by
  obtain ⟨composed, asked⟩ := compose_of_calm calm sources dests config state
  have built := compose_built dialogue sources dests config state
  have told := built.answers
  refine ⟨_, composed, fun _ _ _ _ => reference_kind, ?_, ?_, ?_⟩
  · intro dest converter step
    rcases List.mem_append.mp step with auto | own
    · obtain ⟨source', dest', converter', listed, exchange, _, _, _, same⟩ :=
        assign_mem_answered asked auto
      obtain ⟨rfl, rfl, rfl⟩ : source = source' ∧ converter = converter' ∧ dest = dest' := by
        simpa using same
      have target := (target?_eq_some.mp (mem_candidates_pair.mp listed).2).2
      exact ⟨target, told _ exchange⟩
    · obtain ⟨entry, _, same⟩ := List.mem_map.mp own
      unfold Step.ofCustom at same
      split at same
      next => simp at same
      next => simp at same
  · intro dest found bridges
    have paired : .pair source dest ∈ candidates sources dests config :=
      mem_candidates_pair.mpr ⟨mem, target?_eq_some.mpr ⟨free, found⟩⟩
    obtain ⟨exchange, heard, question, step⟩ := ofAnswer_mem_answered asked paired
    obtain ⟨asked, answer⟩ := told exchange heard
    obtain ⟨converter, bridged⟩ := bridges asked
    rw [question, bridged] at answer
    rw [← answer] at step
    exact ⟨converter, List.mem_append_left _ step⟩
  · rw [built.ignored]
    split
    next turned =>
      obtain ⟨other, dest, listed, same⟩ := mem_refused turned
      have served := (target?_eq_some.mp (mem_candidates_pair.mp listed).2).2
      rw [counterpart?_congr same] at served
      simp [served]
    next =>
      constructor
      · rintro (held | ⟨_, _, other, _, same, unserved⟩)
        · simp [free] at held
        · rwa [counterpart?_congr same] at unserved
      · exact fun unserved => .inr ⟨rfl, free, source, mem, rfl, unserved⟩

end Plan

namespace Mapper

/-- The first build of a plan either pairs a member that is neither claimed nor ignored with the
first destination member of its name, or leaves it out. It does the former if this first one can be
written and the service bridges the two, and records the member as unmatched just when this first
one is missing or read-only. -/
theorem first_namesake_decides {schema : Schema} {dialogue : Dialogue σ κ} {id : MapperId}
    {mapper : Mapper κ} {state : σ} {source : Property Record}
    (healthy : mapper.poisoned = false) (unused : mapper.compiled = none)
    (calm : ∀ reached, dialogue.Reaches state reached → ∀ question text,
      (dialogue.ask question reached).1 ≠ .panic text)
    (mem : source ∈ schema.properties mapper.source) (readable : source.isReadable = true)
    (unclaimed : mapper.config.custom.contains (Text.fold source.name) = false)
    (free : mapper.config.ignored.contains (Text.fold source.name) = false) :
    let namesake? := Property.named? (schema.properties mapper.dest) source.name
    ∃ plan later after, mapper.compile schema dialogue id state = (.ok plan, later, after) ∧
      (∀ dest, plan.Pairs source dest → namesake? = some dest ∧ dest.isWritable = true ∧
        ∃ reached, dialogue.Reaches state reached ∧ ∃ converter,
          (dialogue.ask (.member dest.signature source.signature) reached).1 =
            .convert converter) ∧
      (∀ dest, namesake? = some dest → dest.isWritable = true →
        dialogue.Bridges state source dest → plan.Pairs source dest) ∧
      (later.config.ignored.get? (Text.fold source.name) = some .unmatched ↔
        ∀ dest, namesake? = some dest → dest.isWritable = false) := by
  intro namesake?
  have open' : source ∈ Plan.unclaimed mapper.config.custom.contains
      (schema.properties mapper.source) :=
    List.mem_filter.mpr ⟨mem, by simp [readable, unclaimed]⟩
  have absent : mapper.config.ignored.get? (Text.fold source.name) = none := by
    simpa [OrderedMap.contains] using free
  -- The build may ask in reached states only, so the service is taken on these alone.
  obtain ⟨steps, composed, kinds, paired, assigned, recorded⟩ :=
    Plan.compose_namesake (dialogue.confined state) (schema.properties mapper.dest)
      ⟨state, .start⟩ (fun question reached text => calm reached.1 reached.2 question text) open'
      absent
  have alike := (dialogue.confined_similar state).compose (schema.properties mapper.source)
    (schema.properties mapper.dest) mapper.config (s := ⟨state, .start⟩) rfl
  rw [alike.result] at composed
  rw [alike.value] at recorded
  obtain ⟨outcome, config, next, built⟩ : ∃ outcome config next,
      Plan.compose dialogue (schema.properties mapper.source) (schema.properties mapper.dest)
        mapper.config state = (outcome, config, next) := ⟨_, _, _, rfl⟩
  rw [built] at composed recorded
  obtain rfl : outcome = _ := composed
  have bound := Plan.zip_ofSteps kinds
  simp only [Mapper.compile, healthy, unused, Mapper.rebuild, built, Bool.false_eq_true, if_false]
  refine ⟨_, _, _, rfl, ?_, ?_, ?_⟩
  · rintro dest ⟨converter, entry⟩
    rw [Plan.bound, bound] at entry
    obtain ⟨served, asked, bridged⟩ := paired dest converter (Plan.mem_filterMap_bound?.mp entry)
    obtain ⟨named, writable⟩ := Plan.counterpart?_eq_some.mp served
    exact ⟨named, writable, asked.1, asked.2, converter, bridged⟩
  · intro dest named writable bridges
    obtain ⟨converter, step⟩ := assigned dest
      (Plan.counterpart?_eq_some.mpr ⟨named, writable⟩) fun asked => bridges asked.1 asked.2
    refine ⟨converter, ?_⟩
    rw [Plan.bound, bound]
    exact Plan.mem_filterMap_bound?.mpr step
  · refine recorded.trans ⟨fun unserved dest named => ?_, fun closed => ?_⟩
    · cases writable : dest.isWritable with
      | false => rfl
      | true =>
        have served := Plan.counterpart?_eq_some.mpr ⟨named, writable⟩
        simp [unserved] at served
    · cases found : Plan.counterpart? (schema.properties mapper.dest) source.name with
      | none => rfl
      | some dest =>
        obtain ⟨named, writable⟩ := Plan.counterpart?_eq_some.mp found
        simp [closed dest named] at writable

end Mapper

/-- A destination type with two members of one name, of which only the second can be written. -/
def Schema.veiled : Schema where
  layout
    | 0 => ⟨[.field ⟨"a", .i32, .readWrite, "a", false⟩], []⟩
    | 1 => ⟨[.field ⟨"a", .i32, .readOnly, "id", false⟩,
        .field ⟨"A", .i32, .readWrite, "a", false⟩], []⟩
    | _ => ⟨[], []⟩

/-- The service would bridge the member into the second of its namesakes, but the first is read-only
and the member is left out. -/
theorem namesake_behind_read_only :
    let surroundings : Surroundings Closure := ⟨[default], [], [], false⟩
    let dialogue := Surroundings.dialogue Schema.veiled (.table 0)
    ∃ source ∈ Schema.veiled.properties 0, ∃ dest ∈ Schema.veiled.properties 1,
      source.isReadable = true ∧ dest.isWritable = true ∧
      Text.fold dest.name = Text.fold source.name ∧
      dialogue.Bridges surroundings source dest ∧
      ∃ plan later after,
        (Mapper.new 0 1 (.table 0)).compile Schema.veiled dialogue 0 surroundings =
          (.ok plan, later, after) ∧
        (∀ other, ¬ plan.Pairs source other) ∧
        later.config.ignored.get? (Text.fold source.name) = some .unmatched := by
  intro surroundings dialogue
  have steady :=
    Surroundings.steady_table (show surroundings.table 0 = default from rfl) Schema.veiled
  have calm : ∀ reached, dialogue.Reaches surroundings reached → ∀ question text,
      (dialogue.ask question reached).1 ≠ .panic text := by
    intro reached reach question text
    rw [steady reached reach question]
    exact Conversions.answers_ne_panic default question text
  let source := (Schema.veiled.properties 0)[0]
  have listed : source ∈ Schema.veiled.properties 0 := List.getElem_mem _
  have first : Property.named? (Schema.veiled.properties 1) "a" =
      some (Schema.veiled.properties 1)[0] := by rfl
  have healthy : (Mapper.new 0 1 (.table 0) : Mapper Closure).poisoned = false := rfl
  obtain ⟨plan, later, after, compiled, paired, _, recorded⟩ :=
    Mapper.first_namesake_decides healthy rfl calm listed rfl rfl rfl
  refine ⟨source, listed, (Schema.veiled.properties 1)[1], List.getElem_mem _, rfl, rfl,
    by decide, ?_, plan, later, after, compiled, ?_, ?_⟩
  · intro reached reach
    exact ⟨.identity, steady reached reach _⟩
  · intro other pairs
    obtain ⟨named, writable, _⟩ := paired other pairs
    obtain rfl := Option.some.inj (first.symm.trans named)
    exact absurd writable (by decide)
  · refine recorded.mpr fun dest named => ?_
    obtain rfl := Option.some.inj (first.symm.trans named)
    rfl

end RecordMapping
