import RecordMapping.Proofs.Aftermath
import RecordMapping.Proofs.Rendition
import RecordMapping.Proofs.Upkeep

namespace RecordMapping

variable {σ κ : Type}

/-- A name under which a list of members is looked up finds a member that folds like it. -/
theorem Property.fold_of_found {α : Type} {type name : String} {properties : List (Property α)}
    {property : Property α}
    (found : member type properties name = .ok property ∨
      readableMember type properties name = .ok property ∨
      writableMember type properties name = .ok property) :
    Text.fold property.name = Text.fold name := by
  rcases found with found | found | found
  · exact fold_of_named? (member_eq_ok_iff.mp found)
  · exact fold_of_named? (readableMember_eq_ok_iff.mp found).1
  · exact fold_of_named? (writableMember_eq_ok_iff.mp found).1

namespace Mapper.Action

def selects? : Action κ → Option String
  | .ignore dest => some dest
  | action => action.assigns?

variable {action : Action κ} {dest key : String}

theorem configures_of_selects (selects : action.selects? = some dest) :
    action.configures = true := by
  cases action with
  | compile | recompile => simp [selects?, assigns?] at selects
  | _ => rfl

/-- The change that an action makes stays with the key of the member that it is about. -/
theorem Sets.apart {change : Config κ → Config κ} (sets : action.Sets change)
    (selects : action.selects? = some dest) (apart : Text.fold dest ≠ key) (config : Config κ) :
    (change config).ignored.get? key = config.ignored.get? key ∧
      (change config).custom.get? key = config.custom.get? key := by
  cases sets with
  | ignore same =>
    obtain rfl := Option.some.inj selects
    simp [Config.ignore, same, apart]
  | register assigns same =>
    have about : action.selects? = action.assigns? := by
      cases action <;> first | rfl | simp [assigns?] at assigns
    obtain rfl := Option.some.inj (assigns.symm.trans (about.symm.trans selects))
    simp [Config.register, same, apart]
  | before | after | constructor => exact ⟨rfl, rfl⟩

/-- What is told of one name leaves what is known of names with another fold. -/
theorem perform_apart (schema : Schema) (dialogue : Dialogue σ κ) (id : MapperId)
    (mapper : Mapper κ) (state : σ) (selects : action.selects? = some dest)
    (apart : Text.fold dest ≠ key) :
    let later := (action.perform schema dialogue id mapper state).2.1
    later.config.ignored.get? key = mapper.config.ignored.get? key ∧
      later.config.custom.get? key = mapper.config.custom.get? key := by
  intro later
  have configures := configures_of_selects selects
  have effect := action.perform_effect schema dialogue id mapper state
  change Effect schema dialogue id mapper state action _ later at effect
  generalize (action.perform schema dialogue id mapper state).1 = outcome at effect
  generalize later = after at effect ⊢
  cases effect with
  | objected | locked | reused => exact ⟨rfl, rfl⟩
  | set told healthy sets => exact sets.apart selects apart mapper.config
  | built builds | aborted builds =>
    have uses := (uses_of_composition builds.building).1
    exact absurd configures (by simp [uses])

end Mapper.Action

/-- What a build does about a source member depends on what is known of its own name. -/
theorem Match.find_congr {dests : List (Property Record)} {config later : Config κ}
    {source : Property Record}
    (ignored : later.ignored.get? (Text.fold source.name) =
      config.ignored.get? (Text.fold source.name))
    (custom : later.custom.get? (Text.fold source.name) =
      config.custom.get? (Text.fold source.name)) :
    Match.find dests later.custom.contains later.ignored source =
      Match.find dests config.custom.contains config.ignored source := by
  unfold Match.find OrderedMap.contains
  rw [ignored, custom]

/-- A build pairs by name only members whose names fold alike. -/
theorem Plan.Built.paired {dialogue : Dialogue σ κ} {sources dests : List (Property Record)}
    {config later : Config κ} {heard : List (Exchange κ)} {composition : Composition κ}
    (built : Built dialogue sources dests config heard (.ok composition) later)
    {binding : Binding} (mem : binding ∈ composition.bindings) (auto : binding.kind = .auto)
    {label : String} (named : binding.source = some label) :
    Text.fold label = Text.fold binding.name := by
  obtain ⟨autos, rfl, autos_deal, -⟩ := built.steps
  obtain ⟨step, listed, rfl⟩ := List.mem_map.mp mem
  rcases List.mem_append.mp listed with matched | own
  · obtain ⟨source, -, deals⟩ := autos_deal step matched
    rw [deals.label label named, deals.name]
  · obtain ⟨entry, -, rfl⟩ := List.mem_map.mp own
    unfold Step.ofCustom at auto
    split at auto <;> simp [Step.binding, Binding.ignored] at auto

namespace World

/-- The two members that a service is asked about during a build fold alike. -/
theorem fold_of_heard {id : MapperId} {moment : Moment κ} {exchange : Exchange κ}
    (mem : exchange ∈ moment.heard id) :
    Text.fold exchange.question.source.name = Text.fold exchange.question.dest.name := by
  obtain ⟨world, held, request⟩ := moment
  cases building : Moment.composition? id ⟨world, held, request⟩ with
  | none =>
    rw [Moment.heard_of_idle building] at mem
    exact absurd mem List.not_mem_nil
  | some composed =>
    obtain ⟨mapper, found⟩ := Moment.found_of_composition building
    obtain ⟨later, composes⟩ := composes_of_composition found building
    obtain ⟨source, -, dest, target, same⟩ := Plan.Built.asks composes mem
    rw [same]
    exact (Plan.fold_of_counterpart? (Plan.target?_eq_some.mp target).2).symm

section Histories

variable [Closures κ] {schema : Schema} {tracing : Bool} {past : List (Moment κ)} {world : World κ}

/-- Whatever plan is at hand, the two sides of what it assigns by name fold alike. -/
theorem History.paired (history : History (initial schema tracing) past world) {plan : Plan κ}
    (offers : world.Offers plan) {entry : Binding × Assignment κ} (mem : entry ∈ plan.bound)
    (auto : entry.1.kind = .auto) :
    Text.fold entry.2.source.label = Text.fold entry.2.dest.name := by
  have aligned := history.aligned offers
  obtain ⟨name, source⟩ := aligned.sides entry mem
  have listed : entry.1 ∈ plan.bindings := by
    have kept := List.mem_map_of_mem (f := (·.1)) mem
    rw [aligned.bindings] at kept
    exact (List.mem_filter.mp kept).1
  obtain ⟨⟨before, held, request⟩, -, built⟩ := history.built offers
  obtain ⟨mapper, composition, found, -, -⟩ := Moment.built?_eq_some.mp built
  obtain ⟨composition, later, same, composes⟩ := composes_of_built found built
  rw [← show composition.bindings = plan.bindings from congrArg (·.bindings) same] at listed
  rw [← name]
  exact Plan.Built.paired composes listed auto source

/-- Names that fold differently are not taken for names of one member. -/
structure Discerns (past : List (Moment κ)) (world : World κ) : Prop where
  finds : ∀ type (properties : List (Property Record)) name property,
    Property.member type properties name = .ok property ∨
      Property.readableMember type properties name = .ok property ∨
      Property.writableMember type properties name = .ok property →
    Text.fold property.name = Text.fold name
  /-- Nor is a service asked during a build whether such members go together. -/
  asks : ∀ held request id, ∀ exchange ∈ Moment.heard id ⟨world, held, request⟩,
    Text.fold exchange.question.source.name = Text.fold exchange.question.dest.name
  pairs : ∀ plan, world.Offers plan → ∀ entry ∈ plan.bound, entry.1.kind = .auto →
    Text.fold entry.2.source.label = Text.fold entry.2.dest.name
  ignored : ∀ (id : MapperId) mapper, world.mappers[id]? = some mapper → ∀ name,
    mapper.config.ignored.get? (Text.fold name) = some .explicit ↔
      ∃ dest, .ignore dest ∈ past.filterMap (·.done? id) ∧ Text.fold dest = Text.fold name
  /-- It is left out otherwise if a build could not assign a member that folds alike. -/
  leftOut : ∀ (id : MapperId) mapper, world.mappers[id]? = some mapper → ∀ name omission,
    mapper.config.ignored.get? (Text.fold name) = some omission → omission ≠ .explicit →
      ∃ source ∈ world.schema.properties mapper.source, source.isReadable = true ∧
        Text.fold source.name = Text.fold name
  claimed : ∀ (id : MapperId) mapper, world.mappers[id]? = some mapper → ∀ name,
    mapper.config.custom.contains (Text.fold name) = true ↔
      ∃ action ∈ past.filterMap (·.done? id), ∃ dest, action.assigns? = some dest ∧
        Text.fold dest = Text.fold name
  assigned : ∀ (id : MapperId) mapper, world.mappers[id]? = some mapper → ∀ name custom,
    mapper.config.custom.get? (Text.fold name) = some custom →
      Text.fold custom.assignment.dest.name = Text.fold name
  /-- Whatever is told of a name, builds go on to treat members that fold differently as before. -/
  apart : ∀ (id : MapperId) mapper action dest, world.mappers[id]? = some mapper →
    action.selects? = some dest → ∀ source, Text.fold dest ≠ Text.fold source.name →
    let later := (world.performed id mapper action).2.1
    later.config.custom.get? (Text.fold source.name) =
        mapper.config.custom.get? (Text.fold source.name) ∧
      ∀ dests, Match.find dests later.config.custom.contains later.config.ignored source =
        Match.find dests mapper.config.custom.contains mapper.config.ignored source

theorem discerns (history : History (initial schema tracing) past world) : Discerns past world where
  finds _ _ _ _ := Property.fold_of_found
  asks _ _ _ _ := fold_of_heard
  pairs _ offers _ mem auto := history.paired offers mem auto
  ignored id mapper found name := (history.tells found).explicit (Text.fold name)
  leftOut id mapper found name omission known other := by
    have justified := (history.consistent found).justified _ omission known
    rw [history.schema]
    cases omission with
    | explicit => exact absurd rfl other
    | unmatched | unbridged =>
      obtain ⟨source, declared, readable, same, -⟩ := justified
      exact ⟨source, declared, readable, same⟩
  claimed id mapper found name := (history.tells found).claimed (Text.fold name)
  assigned id mapper found name custom known := by
    have tells := history.tells found
    obtain ⟨key, same⟩ := tells.keyed _ (OrderedMap.mem_of_get? known)
    rw [← same, ← key]
  apart id mapper action dest found selects source apart := by
    obtain ⟨ignored, custom⟩ := Mapper.Action.perform_apart world.schema
      (Surroundings.dialogue world.schema mapper.service) id mapper world.surroundings selects apart
    exact ⟨custom, fun dests => Match.find_congr ignored custom⟩

end Histories

/-- Names count as they fold, for whoever goes on with the session in one language or in another
spelling of it. -/
structure Caseless (first second : Closures κ) (past : List (Moment κ)) (world : World κ) : Prop
    extends Discerns past world where
  /-- Operations in another spelling get the same replies and leave the same logs, but for the
  spelling of the name in the error that there is no such member. -/
  replies : ∀ depth operations operations',
    List.Forall₂ Operation.Respelled operations operations' →
      List.Forall₂ (Option.Rel Seen) (@replies κ first depth world operations)
        (@replies κ second depth world operations')
  leaves : ∀ depth operations operations',
    List.Forall₂ Operation.Respelled operations operations' →
      Option.Rel InStep (@upon κ first depth world operations)
        (@upon κ second depth world operations')

/-- In whatever state a session is, names count as they fold. -/
theorem respelling_keeps_outcomes {first second : Closures κ} (respelled : first.Respelled second)
    {schema : Schema} {tracing : Bool} {past : List (Moment κ)} {world : World κ}
    (history : @History κ first (initial schema tracing) past world) :
    Caseless first second past world where
  toDiscerns := @discerns κ first schema tracing past world history
  replies depth _ _ selects := replies_respelled respelled depth selects (.refl world)
  leaves depth _ _ selects := upon_respelled respelled depth selects (.refl world)

end World

def Schema.greek : Schema where
  layout
    | 0 => ⟨[.field ⟨"ΑΣ", .i32, .readWrite, "a", false⟩], []⟩
    | 1 => ⟨[.field ⟨"ασ", .i32, .readWrite, "b", false⟩], []⟩
    | _ => ⟨[], []⟩

/-- A hook ignores the member after the first mapping, in either spelling. A final sigma is another
letter. -/
theorem World.respelling_keeps_outcomes_of_greek :
    let spell : String → String := fun name => if name = "ασ" then "ΑΣ" else name
    let world := (initial Schema.greek false : World Closure).after
      [.newMapper "mapper" 0 1 none,
        .mapper "mapper" (.runAfter (.hook [.perform (.mapper "mapper" (.ignore "ασ"))]))]
    let operations : List (Operation Closure) :=
      [.mapper "mapper" (.ignore "ας"), .mapper "mapper" (.map (.record [("a", .int 7)]) none),
        .mapper "mapper" (.recompile none), .memberSource "source" 0 "ασ"]
    let shown : List (Option (Reply × List LogEntry)) :=
      [some (.error (.unknownMember "driver::types::Rec<1>" "ας"), []),
        some (.ok (.value (.record [("b", .int 7)])), [.performed (.ok .unit)]),
        some (.ok (.summary 2 0 [.ignored "ΑΣ"]), []), some (.ok (.source "ΑΣ" .i32 true), [])]
    ∃ past, History (initial Schema.greek false) past world ∧
      Caseless inferInstance (Closure.respelling spell) past world ∧
      Text.fold "ασ" = Text.fold "ΑΣ" ∧ Text.fold "ας" ≠ Text.fold "ΑΣ" ∧
      world.replies 3 operations = shown ∧
      @replies Closure (Closure.respelling spell) 3 world (operations.map (·.respell spell)) =
        shown := by
  intro spell world operations shown
  have folds : Text.fold "ασ" = Text.fold "ΑΣ" := by decide +kernel
  have same : ∀ name, Text.fold (spell name) = Text.fold name := by
    intro name
    dsimp only [spell]
    split
    next here => rw [here, folds]
    next => rfl
  have history := History.of_operations (initial Schema.greek false : World Closure)
    [.newMapper "mapper" 0 1 none,
      .mapper "mapper" (.runAfter (.hook [.perform (.mapper "mapper" (.ignore "ασ"))]))]
  exact ⟨_, history, respelling_keeps_outcomes (Closure.respelled same) history, folds,
    by decide +kernel, by decide +kernel, by decide +kernel⟩

end RecordMapping
