import RecordMapping.Expression
import RecordMapping.Proofs.Clause
import RecordMapping.Proofs.Content
import RecordMapping.Proofs.Embedding
import RecordMapping.Proofs.Omissions

namespace RecordMapping

variable {σ κ : Type}

/-- Keys stay where they are when another one is written. -/
theorem OrderedMap.keys_insert_prefix {α β : Type} [DecidableEq α] (map : OrderedMap α β) (key : α)
    (value : β) : map.keys <+: (map.insert key value).keys := by
  unfold keys
  rw [insert, keys_store]
  split
  next => exact List.prefix_rfl
  next => exact List.prefix_append _ _

/-- Every member of a record type can be read or written. -/
theorem Schema.accessible {schema : Schema} {slot : Slot} {property : Property Record}
    (mem : property ∈ schema.properties slot) (fixed : property.isWritable = false) :
    property.isReadable = true := by
  obtain ⟨keys, home, field, -, -, -, rfl⟩ := embeds_of_mem mem
  rw [Property.isWritable_throughAll] at fixed
  rw [Property.isReadable_throughAll]
  cases access : field.access <;>
    simp_all [Property.isReadable, Property.isWritable, Field.property, Access.reads, Access.writes]

/-- Keys of the earlier configuration stay where they are in the later one. -/
structure Config.Extends (config later : Config κ) : Prop where
  custom : config.custom.keys <+: later.custom.keys
  ignored : config.ignored.keys <+: later.ignored.keys

namespace Config.Extends

theorem refl (config : Config κ) : config.Extends config := ⟨List.prefix_rfl, List.prefix_rfl⟩

theorem trans {config middle later : Config κ} (early : config.Extends middle)
    (late : middle.Extends later) : config.Extends later :=
  ⟨early.custom.trans late.custom, early.ignored.trans late.ignored⟩

theorem put (config : Config κ) (clause : Clause κ) : config.Extends (config.put clause) := by
  cases clause with
  | ignore dest => exact ⟨List.prefix_rfl, config.ignored.keys_insert_prefix _ _⟩
  | assign assignment => exact ⟨config.custom.keys_insert_prefix _ _, List.prefix_rfl⟩
  | before | after | construct => exact ⟨List.prefix_rfl, List.prefix_rfl⟩

end Config.Extends

namespace Plan

variable {P : Ignored → Prop}
  (insert : ∀ ignored key omission, P ignored → P (ignored.insert key omission))

include insert

/-- What insertions keep holds of the ignored members after matching, and so it does after bridging,
also when this is cut short. -/
theorem matchMembers_inserts (dialogue : Dialogue σ κ) (dests : List (Property Record))
    (custom : String → Bool) (sources : List (Property Record)) {ignored : Ignored} (state : σ)
    (start : P ignored) :
    P (matchMembers dialogue dests custom sources ignored state).2.1 := by
  induction sources generalizing ignored state with
  | nil => exact start
  | cons source rest ih =>
    rw [matchMembers_cons_ignored]
    split
    next => exact ih _ (insert _ _ _ start)
    next => exact ih _ start

theorem bridgeMembers_inserts (dialogue : Dialogue σ κ) (candidates : List Candidate)
    {ignored : Ignored} (state : σ) (start : P ignored) :
    P (bridgeMembers dialogue candidates ignored state).2.1 := by
  induction candidates generalizing ignored state with
  | nil => exact start
  | cons candidate rest ih =>
    cases candidate with
    | leftOut name => exact ih state start
    | pair source dest =>
      obtain ⟨answer, next, heard⟩ : ∃ answer next,
          dialogue.ask (.member dest.signature source.signature) state = (answer, next) :=
        ⟨_, _, rfl⟩
      simp only [bridgeMembers, heard]
      cases answer with
      | convert converter => exact ih next start
      | refuse error => exact ih _ (insert _ _ _ start)
      | panic text => exact start

theorem compose_inserts (dialogue : Dialogue σ κ) (sources dests : List (Property Record))
    (config : Config κ) (state : σ) (start : P config.ignored) :
    P (compose dialogue sources dests config state).2.1.ignored :=
  bridgeMembers_inserts insert dialogue _ _
    (matchMembers_inserts insert dialogue dests config.custom.contains sources state start)

end Plan

variable [Closures κ]

/-- Whatever the assignment makes of a record, it does so by writing the member once. -/
def Assignment.Writes (assignment : Assignment κ) (property : Property Record) : Prop :=
  ∀ schema source dest server held world out last,
    (assignment.run schema source dest).run.exec server held world = some (.ok (.ok out), last) →
      ∃ set value, property.set? = some set ∧ out = set dest value

theorem Assignment.writes_dest (assignment : Assignment κ)
    (writable : assignment.dest.isWritable = true) : assignment.Writes assignment.dest := by
  intro schema source dest server held world out last ran
  rw [run_eq] at ran
  obtain ⟨value, middle, -, stored⟩ := Script.exec_run_bind_ok.mp ran
  obtain ⟨-, rfl⟩ := Property.eq_of_store stored
  obtain ⟨set, found⟩ := Option.isSome_iff_exists.mp writable
  exact ⟨set, value.value, found, by simp [found]⟩

namespace Config

/-- What an assignment is configured under: the folded name of its destination member, which is the
first of that name, can be written, and is what the assignment writes. -/
structure Entered (dests : List (Property Record)) (key : String) (custom : CustomMember κ) :
    Prop where
  keyed : key = Text.fold custom.dest
  declared : custom.dest = custom.assignment.dest.name
  first : Property.named? dests custom.dest = some custom.assignment.dest
  writable : custom.assignment.dest.isWritable = true
  writes : custom.assignment.Writes custom.assignment.dest

/-- What it means that a key is ignored. The last two reasons are about a member of the source, and
whether the first member of its name in the destination can be written. -/
def Justified (sources dests : List (Property Record)) (key : String) : Omission → Prop
  | .explicit => ∃ dest ∈ dests, Text.fold dest.name = key
  | .unmatched => ∃ source ∈ sources, source.isReadable = true ∧ Text.fold source.name = key ∧
      (Property.named? dests source.name = none ∨ ∃ dest,
        Property.named? dests source.name = some dest ∧ dest.isReadable = true ∧
          dest.isWritable = false)
  | .unbridged => ∃ source ∈ sources, source.isReadable = true ∧ Text.fold source.name = key ∧
      ∃ dest, Property.named? dests source.name = some dest ∧ dest.isWritable = true

structure Consistent (sources dests : List (Property Record)) (config : Config κ) : Prop where
  entered : ∀ entry ∈ config.custom.entries, Entered dests entry.1 entry.2
  justified : ∀ key omission, config.ignored.get? key = some omission →
    Justified sources dests key omission
  custom : config.custom.keys.Nodup
  ignored : config.ignored.keys.Nodup

namespace Consistent

variable {sources dests : List (Property Record)} {config later : Config κ}

theorem new : (default : Config κ).Consistent sources dests where
  entered _ mem := absurd mem List.not_mem_nil
  justified _ _ known := nomatch known
  custom := List.nodup_nil
  ignored := List.nodup_nil

theorem ignore (consistent : config.Consistent sources dests) {member : Property Record}
    (declared : member ∈ dests) : (config.ignore member.name).Consistent sources dests where
  entered := consistent.entered
  justified key omission known := by
    simp only [Config.ignore, OrderedMap.get?_insert] at known
    split at known
    next here =>
      obtain rfl := Option.some.inj known
      exact ⟨member, declared, here⟩
    next => exact consistent.justified key omission known
  custom := consistent.custom
  ignored := OrderedMap.nodup_keys_insert consistent.ignored _ _

theorem register (consistent : config.Consistent sources dests) {assignment : Assignment κ}
    (first : Property.named? dests assignment.dest.name = some assignment.dest)
    (writable : assignment.dest.isWritable = true) :
    (config.register assignment.custom).Consistent sources dests where
  entered entry mem := by
    rcases OrderedMap.mem_store mem with rfl | old
    · exact ⟨rfl, rfl, first, writable, assignment.writes_dest writable⟩
    · exact consistent.entered entry old
  justified := consistent.justified
  custom := OrderedMap.nodup_keys_insert consistent.custom _ _
  ignored := consistent.ignored

/-- The reasons that a build adds are true of the members that it leaves out. -/
theorem rebuilt {dialogue : Dialogue σ κ} {schema : Schema} {source dest : Slot}
    {heard : List (Exchange κ)} {composed : Except String (Composition κ)}
    (consistent : config.Consistent (schema.properties source) (schema.properties dest))
    (built : Plan.Built dialogue (schema.properties source) (schema.properties dest) config heard
      composed later)
    (distinct : later.ignored.keys.Nodup) :
    later.Consistent (schema.properties source) (schema.properties dest) := by
  have same : later.custom = config.custom := by rw [built.others]
  refine ⟨same ▸ consistent.entered, fun key omission known => ?_, same ▸ consistent.custom,
    distinct⟩
  rcases (built.ignored_iff key omission).mp known with old | leaves
  · exact consistent.justified key omission old
  · cases leaves with
    | @unmatched source free fresh unserved =>
      obtain ⟨listed, readable, -⟩ := Plan.mem_unclaimed.mp free
      refine ⟨source, listed, readable, rfl, ?_⟩
      cases found : Property.named? (schema.properties dest) source.name with
      | none => exact .inl rfl
      | some member =>
        have fixed : member.isWritable = false := by
          simpa [Plan.counterpart?, found, Option.filter] using unserved
        exact .inr ⟨member, rfl, Schema.accessible (List.mem_of_find?_eq_some found) fixed, fixed⟩
    | @unbridged source member error free fresh served told =>
      obtain ⟨listed, readable, -⟩ := Plan.mem_unclaimed.mp free
      obtain ⟨found, writable⟩ := Option.filter_eq_some_iff.mp served
      exact ⟨source, listed, readable, rfl, member, found, writable⟩

end Consistent

end Config

namespace Mapper

variable {schema : Schema} {dialogue : Dialogue σ κ} {mapper : Mapper κ} {state : σ}

def Consistent (schema : Schema) (mapper : Mapper κ) : Prop :=
  mapper.config.Consistent (schema.properties mapper.source) (schema.properties mapper.dest)

structure Keeps (schema : Schema) (mapper later : Mapper κ) : Prop where
  slots : later.source = mapper.source ∧ later.dest = mapper.dest
  consistent : mapper.Consistent schema → later.Consistent schema
  extended : mapper.config.Extends later.config

theorem Keeps.refl (schema : Schema) (mapper : Mapper κ) : Keeps schema mapper mapper :=
  ⟨⟨rfl, rfl⟩, id, .refl _⟩

theorem Keeps.trans {middle later : Mapper κ} (early : Keeps schema mapper middle)
    (late : Keeps schema middle later) : Keeps schema mapper later :=
  ⟨⟨late.slots.1.trans early.slots.1, late.slots.2.trans early.slots.2⟩,
    late.consistent ∘ early.consistent, early.extended.trans late.extended⟩

/-- A build keeps everything, whether it ends or is cut short. -/
theorem rebuild_keeps (schema : Schema) (dialogue : Dialogue σ κ) (id : MapperId)
    (mapper : Mapper κ) (state : σ) :
    Keeps schema mapper (mapper.rebuild schema dialogue id state).2.1 := by
  have built := Plan.compose_built dialogue (schema.properties mapper.source)
    (schema.properties mapper.dest) mapper.config state
  have distinct := Plan.compose_inserts (P := (·.keys.Nodup))
    (fun _ key omission distinct => OrderedMap.nodup_keys_insert distinct key omission) dialogue
    (schema.properties mapper.source) (schema.properties mapper.dest) mapper.config state
  have grown := Plan.compose_inserts (P := (mapper.config.ignored.keys <+: ·.keys))
    (fun ignored key omission grown => grown.trans (ignored.keys_insert_prefix key omission))
    dialogue (schema.properties mapper.source) (schema.properties mapper.dest) mapper.config state
    List.prefix_rfl
  obtain ⟨outcome, config, next, composed⟩ : ∃ outcome config next,
      Plan.compose dialogue (schema.properties mapper.source) (schema.properties mapper.dest)
        mapper.config state = (outcome, config, next) := ⟨_, _, _, rfl⟩
  rw [composed] at built distinct grown
  dsimp only at built distinct grown
  have same : config.custom = mapper.config.custom := by rw [built.others]
  have extended : mapper.config.Extends config := ⟨same ▸ List.prefix_rfl, grown⟩
  simp only [rebuild, composed]
  cases outcome with
  | error text | ok composition =>
    exact ⟨⟨rfl, rfl⟩, fun start => start.rebuilt built (distinct start.ignored), extended⟩

omit [Closures κ] in
theorem Action.member_of_ignore {action : Action κ} {name : String}
    (tells : action.clause? schema dialogue mapper state = some (.ignore name)) :
    ∃ member ∈ schema.properties mapper.dest, member.name = name := by
  have apart {dest : String} (assigns : action.assigns? = some dest) : False := by
    obtain ⟨_, same, -⟩ := agreed_of_assigns assigns tells
    simp at same
  cases action with
  | ignore dest =>
    obtain ⟨member, found, same⟩ := Option.map_eq_some_iff.mp tells
    exact ⟨member, List.mem_of_find?_eq_some found, Config.Clause.ignore.inj same⟩
  | assignMember | assignSource | assignComputed => exact (apart rfl).elim
  | runBefore | runAfter | construct | compile | recompile => simp [clause?] at tells

/-- What an action tells of a destination member is told of one of the type's. -/
theorem Action.clause_consistent {action : Action κ} {clause : Config.Clause κ}
    (tells : action.clause? schema dialogue mapper state = some clause)
    (start : mapper.Consistent schema) :
    (mapper.config.put clause).Consistent (schema.properties mapper.source)
      (schema.properties mapper.dest) := by
  cases clause with
  | ignore name =>
    obtain ⟨member, declared, rfl⟩ := member_of_ignore tells
    exact start.ignore declared
  | assign assignment =>
    obtain ⟨dest, -, agreed⟩ := agreed_of_assign tells
    obtain ⟨found, writable⟩ := Property.writableMember_eq_ok_iff.mp agreed.member
    have first : Property.named? (schema.properties mapper.dest) assignment.dest.name =
        some assignment.dest := by
      rw [← found, Property.named?, Property.named?, Property.fold_of_named? found]
    exact start.register first writable
  | before hook | after hook | construct made =>
    exact ⟨start.entered, start.justified, start.custom, start.ignored⟩

/-- Every action keeps everything, whatever the service answers and however the action ends. -/
theorem Action.perform_keeps (schema : Schema) (dialogue : Dialogue σ κ) (id : MapperId)
    (action : Action κ) (mapper : Mapper κ) (state : σ) :
    Keeps schema mapper (action.perform schema dialogue id mapper state).2.1 := by
  cases configures : action.configures with
  | true =>
    rw [perform_told_clause id configures]
    split
    next clause told =>
      have tells : action.clause? schema dialogue mapper state = some clause := by
        split at told
        next => simp at told
        next => exact told
      exact ⟨⟨rfl, rfl⟩, clause_consistent tells, .put _ _⟩
    next => exact .refl schema mapper
  | false =>
    cases building : action.composition? schema dialogue mapper state with
    | none =>
      rw [(perform_of_uses id configures).1 building]
      exact .refl schema mapper
    | some composed =>
      obtain ⟨start, -, -, performed⟩ := heard_built id building
      rw [performed]
      exact rebuild_keeps schema dialogue id mapper start

def performAll (schema : Schema) (dialogue : Dialogue σ κ) (id : MapperId)
    (actions : List (Action κ)) (start : Mapper κ × σ) : Mapper κ × σ :=
  actions.foldl (fun now action => (action.perform schema dialogue id now.1 now.2).2) start

theorem performAll_keeps (schema : Schema) (dialogue : Dialogue σ κ) (id : MapperId)
    (actions : List (Action κ)) (start : Mapper κ × σ) :
    Keeps schema start.1 (performAll schema dialogue id actions start).1 := by
  induction actions generalizing start with
  | nil => exact .refl schema start.1
  | cons action rest ih =>
    exact (action.perform_keeps schema dialogue id start.1 start.2).trans (ih _)

end Mapper

namespace World

variable {schema : Schema} {tracing : Bool} {past more : List (Moment κ)}
  {first world last : World κ} {id : MapperId} {mapper : Mapper κ}

theorem serve_upkeep (found : world.mappers[id]? = some mapper) (held : List Hold)
    (request : Request κ) :
    ∃ later, (world.serve held request).2.mappers[id]? = some later ∧
      Mapper.Keeps world.schema mapper later := by
  refine ⟨_, serve_mapper found held request, ?_⟩
  cases Moment.action? id ⟨world, held, request⟩ with
  | none => exact .refl world.schema mapper
  | some action => exact action.perform_keeps world.schema _ id mapper world.surroundings

theorem History.sustains (history : History first more last)
    (found : first.mappers[id]? = some mapper) :
    ∃ later, last.mappers[id]? = some later ∧ Mapper.Keeps first.schema mapper later := by
  induction history with
  | start => exact ⟨mapper, found, .refl first.schema mapper⟩
  | write entry _ ih => exact ih
  | clear _ ih => exact ih
  | @serve past world held request before ih =>
    obtain ⟨middle, found', early⟩ := ih
    obtain ⟨later, kept, late⟩ := serve_upkeep found' held request
    rw [before.schema] at late
    exact ⟨later, kept, early.trans late⟩

theorem History.consistent (history : History (initial schema tracing) past world)
    (found : world.mappers[id]? = some mapper) : mapper.Consistent schema := by
  induction history generalizing mapper with
  | start => simp [initial] at found
  | write entry _ ih => exact ih found
  | clear _ ih => exact ih found
  | @serve past world held request before ih =>
    cases absent : world.mappers[id]? with
    | none =>
      obtain ⟨-, fresh⟩ := serve_fresh absent held request
      obtain ⟨source, dest, service, rfl⟩ := fresh mapper found
      exact Config.Consistent.new
    | some middle =>
      obtain ⟨later, kept, late⟩ := serve_upkeep absent held request
      obtain rfl := Option.some.inj (kept.symm.trans found)
      rw [before.schema] at late
      exact late.consistent (ih absent)

/-- In every state that a mapper can come to, the keys of its configuration, the names under them
and the reasons for ignoring them are those of members of its two types, no key stands there twice,
and whatever is done next takes no key away. So it is under every service, and throughout every
session. -/
theorem configurations_stay_consistent (schema : Schema) :
    (∀ {σ : Type} (dialogue : Dialogue σ κ) (id : MapperId) (source dest : Slot)
        (service : ServiceId) (state : σ) (actions more : List (Mapper.Action κ)),
      let now := Mapper.performAll schema dialogue id actions (.new source dest service, state)
      now.1.config.Consistent (schema.properties source) (schema.properties dest) ∧
        now.1.config.Extends (Mapper.performAll schema dialogue id more now).1.config) ∧
    ∀ (tracing : Bool) (past : List (Moment κ)) (world : World κ) (id : MapperId)
        (mapper : Mapper κ), History (initial schema tracing) past world →
      world.mappers[id]? = some mapper →
      mapper.Consistent schema ∧ ∀ more last, History world more last →
        ∃ later, last.mappers[id]? = some later ∧ mapper.config.Extends later.config := by
  constructor
  · intro σ dialogue id source dest service state actions more now
    have kept :=
      Mapper.performAll_keeps schema dialogue id actions (.new source dest service, state)
    have consistent := kept.consistent Config.Consistent.new
    unfold Mapper.Consistent at consistent
    rw [kept.slots.1, kept.slots.2] at consistent
    exact ⟨consistent, (Mapper.performAll_keeps schema dialogue id more now).extended⟩
  · intro tracing past world id mapper history found
    refine ⟨history.consistent found, fun more last after => ?_⟩
    obtain ⟨later, found', keeps⟩ := after.sustains found
    exact ⟨later, found', keeps.extended⟩

end World

/-- Four members: one for each reason to leave a member out, and one to be assigned. -/
def Schema.assorted : Schema where
  layout
    | 0 => ⟨[.field ⟨"a", .i32, .readWrite, "a", false⟩,
        .field ⟨"b", .text, .readWrite, "b", false⟩,
        .field ⟨"c", .text, .readWrite, "c", false⟩,
        .field ⟨"d", .i32, .readWrite, "d", false⟩], []⟩
    | 1 => ⟨[.field ⟨"A", .i32, .readWrite, "A", false⟩,
        .field ⟨"B", .text, .readOnly, "B", false⟩,
        .field ⟨"C", .i32, .readWrite, "C", false⟩,
        .field ⟨"D", .i32, .readWrite, "D", false⟩], []⟩
    | _ => ⟨[], []⟩

/-- One member is ignored on request, one has no writable counterpart, one cannot be bridged. -/
theorem World.configurations_stay_consistent_of_assorted :
    let world := (initial Schema.assorted false : World Closure).after
      [.newMapper "mapper" 0 1 none, .mapper "mapper" (.ignore "d"),
        .mapper "mapper" (.assignMember "a" "d"), .mapper "mapper" (.compile none)]
    ∃ mapper, world.mappers[0]? = some mapper ∧ mapper.Consistent Schema.assorted ∧
      mapper.config.ignored.entries = [("d", .explicit), ("b", .unmatched), ("c", .unbridged)] ∧
      mapper.config.custom.entries.map (fun entry => (entry.1, entry.2.dest)) = [("a", "A")] := by
  intro world
  have history := History.of_operations (initial Schema.assorted false : World Closure)
    [.newMapper "mapper" 0 1 none, .mapper "mapper" (.ignore "d"),
      .mapper "mapper" (.assignMember "a" "d"), .mapper "mapper" (.compile none)]
  have found : world.mappers[0]? = some _ := rfl
  obtain ⟨-, throughout⟩ := configurations_stay_consistent (κ := Closure) Schema.assorted
  obtain ⟨consistent, -⟩ := throughout false _ world 0 _ history found
  exact ⟨_, found, consistent, by decide +kernel, by decide +kernel⟩

end RecordMapping
