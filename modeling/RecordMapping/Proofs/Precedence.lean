import Mathlib.Data.List.Nodup
import RecordMapping.Expression
import RecordMapping.Proofs.Chronicle
import RecordMapping.Proofs.Listing

namespace RecordMapping

variable {κ : Type}

namespace OrderedMap

variable {α β : Type} [DecidableEq α]

theorem contains_insert {map : OrderedMap α β} {key other : α} {value : β} :
    (map.insert key value).contains other = true ↔ key = other ∨ map.contains other = true := by
  by_cases same : key = other <;> simp [contains, same]

theorem keys_store (key : α) (value : β) (entries : List (α × β)) :
    (store key value entries).map (·.1) =
      if key ∈ entries.map (·.1) then entries.map (·.1) else entries.map (·.1) ++ [key] := by
  induction entries with
  | nil => simp [store]
  | cons entry rest ih =>
    obtain ⟨first, old⟩ := entry
    by_cases same : first = key
    · simp [store, same]
    · rw [store, if_neg same, List.map_cons, ih]
      simp only [List.map_cons, List.mem_cons, Ne.symm same, false_or]
      split <;> rfl

theorem nodup_keys_insert {map : OrderedMap α β} (distinct : map.keys.Nodup) (key : α)
    (value : β) : (map.insert key value).keys.Nodup := by
  unfold keys at distinct ⊢
  rw [insert, keys_store]
  split
  next => exact distinct
  next fresh => exact List.nodup_append_comm.mp (List.nodup_cons.mpr ⟨fresh, distinct⟩)

theorem contains_iff_mem {map : OrderedMap α β} {key : α} :
    map.contains key = true ↔ ∃ entry ∈ map.entries, entry.1 = key := by
  unfold contains get?
  induction map.entries with
  | nil => simp [lookup]
  | cons entry rest ih =>
    by_cases same : entry.1 = key
    · simp [lookup, same]
    · simpa [lookup, same] using ih

/-- A key has one entry. -/
theorem filter_entries_eq {map : OrderedMap α β} {entry : α × β} (distinct : map.keys.Nodup)
    (mem : entry ∈ map.entries) :
    (map.entries.filter fun other => other.1 = entry.1) = [entry] := by
  unfold keys at distinct
  generalize map.entries = entries at distinct mem
  induction entries with
  | nil => simp at mem
  | cons first rest ih =>
    obtain ⟨fresh, distinct⟩ := List.nodup_cons.mp distinct
    rcases List.mem_cons.mp mem with rfl | later
    · have others : (rest.filter fun other => other.1 = entry.1) = [] := by
        refine List.filter_eq_nil_iff.mpr fun other listed same => fresh ?_
        exact List.mem_map.mpr ⟨other, listed, by simpa using same⟩
      rw [List.filter_cons_of_pos (by simp), others]
    · have apart : first.1 ≠ entry.1 :=
        fun same => fresh (List.mem_map.mpr ⟨entry, later, same.symm⟩)
      rw [List.filter_cons_of_neg (by simpa using apart), ih distinct later]

end OrderedMap

/-- The configuration keeps what the mapper has been told of its members: which of them to ignore,
and which have a source of their own. -/
structure Config.Tells (done : List (Mapper.Action κ)) (config : Config κ) : Prop where
  explicit : ∀ key, config.ignored.get? key = some .explicit ↔
    ∃ dest, .ignore dest ∈ done ∧ Text.fold dest = key
  claimed : ∀ key, config.custom.contains key = true ↔
    ∃ action ∈ done, ∃ dest, action.assigns? = some dest ∧ Text.fold dest = key
  keyed : ∀ entry ∈ config.custom.entries, entry.1 = Text.fold entry.2.dest ∧
    entry.2.dest = entry.2.assignment.dest.name
  distinct : config.custom.keys.Nodup

namespace Config.Tells

variable {done more : List (Mapper.Action κ)} {config later : Config κ}

theorem new : Tells [] (default : Config κ) where
  explicit _ := ⟨nofun, fun ⟨_, mem, _⟩ => absurd mem List.not_mem_nil⟩
  claimed _ := ⟨nofun, fun ⟨_, mem, _⟩ => absurd mem List.not_mem_nil⟩
  keyed := fun _ mem => absurd mem List.not_mem_nil
  distinct := List.nodup_nil

/-- Uses of the mapper tell it nothing. -/
theorem uses (tells : config.Tells done)
    (uses : ∀ action ∈ more, action.configures = false) : config.Tells (done ++ more) where
  explicit key := by
    rw [tells.explicit key]
    constructor
    · rintro ⟨dest, mem, same⟩
      exact ⟨dest, List.mem_append_left _ mem, same⟩
    · rintro ⟨dest, mem, same⟩
      rcases List.mem_append.mp mem with mem | mem
      · exact ⟨dest, mem, same⟩
      · exact nomatch uses _ mem
  claimed key := by
    rw [tells.claimed key]
    constructor
    · rintro ⟨action, mem, given⟩
      exact ⟨action, List.mem_append_left _ mem, given⟩
    · rintro ⟨action, mem, dest, assigns, same⟩
      rcases List.mem_append.mp mem with mem | mem
      · exact ⟨action, mem, dest, assigns, same⟩
      · have use := uses _ mem
        cases action <;> simp_all [Mapper.Action.assigns?, Mapper.Action.configures]
  keyed := tells.keyed
  distinct := tells.distinct

theorem set {action : Mapper.Action κ} {change : Config κ → Config κ} (tells : config.Tells done)
    (sets : action.Sets change) : (change config).Tells (done ++ [action]) := by
  have explicit := tells.explicit
  have claimed := tells.claimed
  cases sets with
  | @ignore dest name same =>
    refine ⟨fun key => ?_, fun key => ?_, tells.keyed, tells.distinct⟩
    · simp only [Config.ignore, OrderedMap.get?_insert, same]
      by_cases here : Text.fold dest = key
      · simp only [if_pos here, true_iff]
        exact ⟨dest, List.mem_append_right _ List.mem_cons_self, here⟩
      · simp only [if_neg here, explicit key, List.mem_append, List.mem_singleton,
          Mapper.Action.ignore.injEq]
        constructor
        · rintro ⟨other, mem, same⟩
          exact ⟨other, .inl mem, same⟩
        · rintro ⟨other, mem | rfl, same'⟩
          · exact ⟨other, mem, same'⟩
          · exact absurd same' here
    · simpa [Config.ignore, Mapper.Action.assigns?, or_and_right, exists_or] using claimed key
  | @register action dest assignment assigns same =>
    have apart : ∀ other, action ≠ .ignore other := by
      rintro other rfl
      simp [Mapper.Action.assigns?] at assigns
    refine ⟨fun key => ?_, fun key => ?_, fun entry mem => ?_, ?_⟩
    · simp [Config.register, explicit key, Ne.symm (apart _)]
    · simp only [Config.register, OrderedMap.contains_insert, claimed key, same, List.mem_append,
        List.mem_singleton]
      constructor
      · rintro (here | ⟨other, mem, given⟩)
        · exact ⟨action, .inr rfl, dest, assigns, here⟩
        · exact ⟨other, .inl mem, given⟩
      · rintro ⟨other, mem | rfl, dest', assigns', same'⟩
        · exact .inr ⟨other, mem, dest', assigns', same'⟩
        · obtain rfl := Option.some.inj (assigns.symm.trans assigns')
          exact .inl same'
    · rcases OrderedMap.mem_store mem with rfl | old
      · exact ⟨rfl, rfl⟩
      · exact tells.keyed entry old
    · exact OrderedMap.nodup_keys_insert tells.distinct _ _
  | before | after | constructor =>
    refine ⟨fun key => ?_, fun key => ?_, tells.keyed, tells.distinct⟩
    · simpa using explicit key
    · simpa [Mapper.Action.assigns?, or_and_right, exists_or] using claimed key

section Built

variable {σ : Type} {dialogue : Dialogue σ κ} {sources dests : List (Property Record)}
  {heard : List (Exchange κ)}

/-- A build tells a configuration nothing, whatever it remembers. -/
theorem rebuilt {composed : Except String (Composition κ)} (tells : config.Tells done)
    (built : Plan.Built dialogue sources dests config heard composed later) :
    later.Tells done := by
  have custom : later.custom = config.custom := by rw [built.others]
  refine ⟨fun key => ?_, fun key => ?_, ?_, ?_⟩
  · rw [built.ignored.explicit key, tells.explicit key]
  · rw [custom, tells.claimed key]
  · rw [custom]
    exact tells.keyed
  · rw [custom]
    exact tells.distinct

variable {composition : Composition κ}

/-- No plan assigns a member that is ignored explicitly. -/
theorem unassigned (tells : config.Tells done)
    (built : Plan.Built dialogue sources dests config heard (.ok composition) later) {key : String}
    (ignored : config.ignored.get? key = some .explicit) {assignment : Assignment κ}
    (mem : assignment ∈ composition.assignments) : Text.fold assignment.dest.name ≠ key := by
  rintro rfl
  obtain ⟨autos, rfl, autos_deal, _⟩ := built.steps
  obtain ⟨step, listed, assigns⟩ := List.mem_filterMap.mp mem
  rcases List.mem_append.mp listed with auto | own
  · obtain ⟨source, _, deals⟩ := autos_deal step auto
    obtain ⟨kind, same⟩ := deals.assigned assignment assigns
    have free := deals.free kind
    rw [← same, ignored] at free
    simp at free
  · obtain ⟨entry, held, rfl⟩ := List.mem_map.mp own
    obtain ⟨key, dest⟩ := tells.keyed entry held
    unfold Plan.Step.ofCustom at assigns
    split at assigns
    next => simp [Plan.Step.assignment?] at assigns
    next kept =>
      obtain rfl := Option.some.inj assigns
      exact kept (by rw [key, dest, ignored])

theorem name_ofCustom (ignored : Ignored) (entry : String × CustomMember κ) :
    (Plan.Step.ofCustom ignored entry).binding.name = entry.2.dest := by
  unfold Plan.Step.ofCustom
  split <;> rfl

/-- A member with a source of its own is never matched by name. -/
theorem unmatched
    (built : Plan.Built dialogue sources dests config heard (.ok composition) later) {key : String}
    (claimed : config.custom.contains key = true) {binding : Binding}
    (mem : binding ∈ composition.bindings) (auto : binding.kind = .auto) :
    Text.fold binding.name ≠ key ∧
      ∀ label, binding.source = some label → Text.fold label ≠ key := by
  obtain ⟨autos, rfl, autos_deal, _⟩ := built.steps
  obtain ⟨step, listed, rfl⟩ := List.mem_map.mp mem
  rcases List.mem_append.mp listed with matched | own
  · obtain ⟨source, free, deals⟩ := autos_deal step matched
    have apart : Text.fold source.name ≠ key := by
      rintro rfl
      simp [Plan.unclaimed, claimed] at free
    refine ⟨deals.name ▸ apart, fun label named => ?_⟩
    rwa [deals.label label named]
  · obtain ⟨entry, _, rfl⟩ := List.mem_map.mp own
    unfold Plan.Step.ofCustom at auto
    split at auto <;> simp [Plan.Step.binding, Binding.ignored] at auto

/-- A member with a source of its own has one binding, which only explicit ignoring switches off. -/
theorem bound_once (tells : config.Tells done)
    (built : Plan.Built dialogue sources dests config heard (.ok composition) later) {key : String}
    (claimed : config.custom.contains key = true) :
    ∃ binding, (composition.bindings.filter fun binding => Text.fold binding.name = key) =
        [binding] ∧
      binding.kind = if config.ignored.get? key = some .explicit then .ignored else .custom := by
  obtain ⟨autos, rfl, autos_deal, _⟩ := built.steps
  obtain ⟨custom, listed, rfl⟩ := OrderedMap.contains_iff_mem.mp claimed
  have matched : ((autos.map (·.binding)).filter fun binding =>
      Text.fold binding.name = custom.1) = [] := by
    refine List.filter_eq_nil_iff.mpr fun binding mem same => ?_
    obtain ⟨step, listed, rfl⟩ := List.mem_map.mp mem
    obtain ⟨source, free, deals⟩ := autos_deal step listed
    have taken : Text.fold source.name = custom.1 := deals.name ▸ by simpa using same
    simp [Plan.unclaimed, taken, claimed] at free
  have own : (config.custom.entries.filter fun entry =>
      Text.fold (Plan.Step.ofCustom config.ignored entry).binding.name = custom.1) =
        [custom] := by
    rw [← OrderedMap.filter_entries_eq tells.distinct listed]
    refine List.filter_congr fun entry mem => ?_
    rw [name_ofCustom, (tells.keyed entry mem).1]
  refine ⟨(Plan.Step.ofCustom config.ignored custom).binding, ?_, ?_⟩
  · simp only [Composition.ofSteps, List.map_append, List.filter_append, matched, List.nil_append,
      List.map_map]
    rw [List.filter_map]
    simp only [Function.comp_def, own, List.map_cons, List.map_nil]
  · unfold Plan.Step.ofCustom
    split <;> rfl

end Built

end Config.Tells

namespace World

section Serve

variable [Closures κ] {world : World κ} {id : MapperId} {mapper : Mapper κ} {held : List Hold}
  {request : Request κ}

/-- A configuring action is done just when its caller is told so. -/
theorem done_iff (found : world.mappers[id]? = some mapper) {action : Mapper.Action κ}
    (aimed : world.action? held request = some (id, action))
    (configures : action.configures = true) :
    Moment.done? id ⟨world, held, request⟩ = some action ↔
      ∃ depth later, world.answer depth held request = some (.ok .unit, later) := by
  have acts : Moment.action? id ⟨world, held, request⟩ = some action := by
    simp [Moment.action?, aimed]
  have comes := serve_comes found aimed
  have effect := action.perform_effect world.schema
    (Surroundings.dialogue world.schema mapper.service) id mapper world.surroundings
  have done : Moment.done? id ⟨world, held, request⟩ = some action ↔ _ :=
    Moment.done?_eq_some found acts
  rw [carryOut_eq] at comes
  dsimp only [performed] at comes effect done
  generalize action.perform world.schema (Surroundings.dialogue world.schema mapper.service) id
    mapper world.surroundings = performed at comes effect done
  obtain ⟨outcome, changed, surroundings⟩ := performed
  -- A failure is the whole answer, so nobody is told that the action is done.
  have failed (failure : Failure) (ends : outcome = failure.outcome) :
      Moment.done? id ⟨world, held, request⟩ = some action ↔
        ∃ depth later, world.answer depth held request = some (.ok .unit, later) := by
    subst ends
    rw [done]
    constructor
    · rintro ⟨result, ended⟩
      exact absurd ended (failure.outcome_ne_ok result)
    · rintro ⟨depth | depth, later, answered⟩
      · simp [answer] at answered
      · rw [answer_of_failure comes] at answered
        exact absurd (congrArg Prod.fst (Option.some.inj answered)) (failure.outcome_ne_ok _)
  cases effect with
  | objected => exact failed _ rfl
  | locked => exact failed (.error .lockPoisoned) rfl
  | set =>
    refine done.trans ⟨fun _ => ⟨1, (world.serve held request).2, ?_⟩, fun _ => ⟨none, rfl⟩⟩
    cases served : world.serve held request with
    | mk launch next =>
      rw [served] at comes
      cases comes with
      | done => rw [answer_eq_some, served]; exact ⟨_, rfl, rfl⟩
  | reused uses =>
    subst uses
    simp [Mapper.Action.configures] at configures
  | built builds | aborted builds =>
    have uses := (Mapper.Action.uses_of_composition builds.building).1
    exact absurd configures (by simp [uses])

end Serve

section Histories

variable [Closures κ] {schema : Schema} {tracing : Bool} {past : List (Moment κ)} {world : World κ}
  {id : MapperId} {mapper : Mapper κ}

theorem History.tells (history : History (initial schema tracing) past world)
    (found : world.mappers[id]? = some mapper) :
    mapper.config.Tells (past.filterMap (·.done? id)) := by
  refine history.since (P := fun past mapper => mapper.config.Tells (past.filterMap (·.done? id)))
    ?_ ?_ found
  · intro past source dest service idle
    have nothing : past.filterMap (·.done? id) = [] :=
      List.filterMap_eq_nil_iff.mpr fun moment mem => Moment.done?_of_no_action (idle moment mem)
    rw [nothing]
    exact .new
  · intro past moment middle later tells does
    have quiet (uses : ∀ action, moment.done? id = some action → action.configures = false) :
        ∀ action ∈ [moment].filterMap (·.done? id), action.configures = false := by
      simpa using uses
    rw [List.filterMap_append]
    cases does with
    | nothing idle uses => exact tells.uses (quiet uses)
    | set idle healthy done sets =>
      rw [List.filterMap_cons_some done, List.filterMap_nil]
      exact tells.set sets
    | built building healthy uses composes => exact (tells.rebuilt composes).uses (quiet uses)
    | aborted building healthy uses composes => exact (tells.rebuilt composes).uses (quiet uses)

/-- What a mapper has been told of its members settles what its plans do with them. The fields say
which requests count as telling and as building, and what is so for good after them. -/
structure Precedence (past : List (Moment κ)) (world : World κ) (id : MapperId)
    (mapper : Mapper κ) : Prop where
  told : ∀ held request action, world.action? held request = some (id, action) →
    action.configures = true →
    (Moment.done? id ⟨world, held, request⟩ = some action ↔
      ∃ depth later, world.answer depth held request = some (.ok .unit, later))
  built : ∀ held request plan, Moment.built? id ⟨world, held, request⟩ = some plan →
    ∃ later next, next.mappers[id]? = some later ∧ later.compiled = some plan ∧
      plan.Serves next (world.serve held request)
  /-- A member that has been ignored stays ignored, and no plan assigns it any more. -/
  ignored : ∀ dest, .ignore dest ∈ past.filterMap (·.done? id) →
    mapper.config.ignored.get? (Text.fold dest) = some .explicit ∧
      ∀ held request plan, Moment.built? id ⟨world, held, request⟩ = some plan →
        ∀ assignment ∈ plan.assignments, Text.fold assignment.dest.name ≠ Text.fold dest
  /-- A member that has been given a source of its own is not matched by name any more. It has one
  binding, which is its own unless the member has been ignored. -/
  claimed : ∀ action dest, action ∈ past.filterMap (·.done? id) → action.assigns? = some dest →
    ∀ held request plan, Moment.built? id ⟨world, held, request⟩ = some plan →
      (∀ binding ∈ plan.bindings, binding.kind = .auto →
        Text.fold binding.name ≠ Text.fold dest ∧
          ∀ label, binding.source = some label → Text.fold label ≠ Text.fold dest) ∧
      ∃ binding,
        (plan.bindings.filter fun binding => Text.fold binding.name = Text.fold dest) =
          [binding] ∧
        (binding.kind = .custom ∨ binding.kind = .ignored) ∧
        (binding.kind = .ignored ↔ ∃ other, .ignore other ∈ past.filterMap (·.done? id) ∧
          Text.fold other = Text.fold dest)

/-- Ignoring prevails over a source of one's own, and this over a match by name, in every plan that
is built later. -/
theorem explicit_choices_win (history : History (initial schema tracing) past world)
    (found : world.mappers[id]? = some mapper) : Precedence past world id mapper := by
  have tells := history.tells found
  constructor
  · exact fun held request action => done_iff found
  · exact fun held request plan => serve_yields found
  · intro dest mem
    have explicit := (tells.explicit (Text.fold dest)).mpr ⟨dest, mem, rfl⟩
    refine ⟨explicit, fun held request plan made assignment listed => ?_⟩
    obtain ⟨composition, later, rfl, composes⟩ := composes_of_built found made
    exact tells.unassigned composes explicit listed
  · intro action dest mem assigns held request plan made
    obtain ⟨composition, later, rfl, composes⟩ := composes_of_built found made
    have claimed := (tells.claimed (Text.fold dest)).mpr ⟨action, mem, dest, assigns, rfl⟩
    refine ⟨fun binding listed auto => Config.Tells.unmatched composes claimed listed auto, ?_⟩
    obtain ⟨binding, once, kind⟩ := tells.bound_once composes claimed
    refine ⟨binding, once, ?_, ?_⟩
    · rw [kind]
      split
      next => exact .inr rfl
      next => exact .inl rfl
    · rw [kind, ← tells.explicit]
      split
      next off => simp [off]
      next kept => simp [kept]

end Histories

/-- The name that the first build could not assign is given a source of its own and then ignored. -/
theorem explicit_choices_win_of_ignored :
    let world := (initial Schema.twins false : World Closure).after
      [.newMapper "mapper" 0 1 none, .mapper "mapper" (.compile none),
        .mapper "mapper" (.assignComputed "a" .i32 (.value .source)),
        .mapper "mapper" (.ignore "A")]
    ∃ past mapper, History (initial Schema.twins false) past world ∧
      world.mappers[0]? = some mapper ∧ Precedence past world 0 mapper ∧
      past.filterMap (·.done? 0) =
        [.compile, .assignComputed "a" .i32 (.value .source), .ignore "A"] ∧
      (Moment.built? 0 ⟨world, [], .mapper 0 (.recompile none)⟩).map (·.bindings) =
        some [.ignored "a"] := by
  intro world
  have history := History.of_operations (initial Schema.twins false : World Closure)
    [.newMapper "mapper" 0 1 none, .mapper "mapper" (.compile none),
      .mapper "mapper" (.assignComputed "a" .i32 (.value .source)), .mapper "mapper" (.ignore "A")]
  have found : world.mappers[0]? = some _ := rfl
  exact ⟨_, _, history, found, explicit_choices_win history found, rfl, by decide +kernel⟩

end World

end RecordMapping
