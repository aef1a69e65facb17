import RecordMapping.Proofs.Clause
import RecordMapping.Proofs.ConversionMap
import RecordMapping.Proofs.Provenance
import RecordMapping.Proofs.Recompile
import RecordMapping.Proofs.Standing

namespace RecordMapping

variable {κ : Type}

open Conversions (additions offered?)

/-- Where an assignment comes from in a plan whose questions have the given answers. -/
inductive Plan.Drawn (answers : Question → Resolution κ) (config : Config κ) :
    Binding.Kind → Assignment κ → Prop where
  | auto {source dest : Property Record} {converter : Converter κ}
    (told : answers (.member dest.signature source.signature) = .convert converter) :
    Drawn answers config .auto ⟨.member source, converter, dest⟩
  | custom {entry : String × CustomMember κ} (configured : entry ∈ config.custom.entries) :
    Drawn answers config .custom entry.2.assignment

theorem Plan.drawn_of_settled {answers : Question → Resolution κ}
    {sources dests : List (Property Record)} {config : Config κ} {kind : Binding.Kind}
    {dest label : String} {assignment : Assignment κ}
    (mem : .assign kind dest label assignment ∈ settled answers sources dests config) :
    Drawn answers config kind assignment := by
  rcases List.mem_append.mp mem with auto | own
  · obtain ⟨source, -, step⟩ := List.mem_map.mp auto
    cases found : target? dests config.ignored source with
    | none => simp [settle_of_none found] at step
    | some target =>
      cases told : answers (.member target.signature source.signature) with
      | convert converter =>
        rw [settle_of_convert found told] at step
        obtain ⟨rfl, -, -, rfl⟩ := Step.assign.inj step
        exact .auto told
      | refuse error => simp [settle_of_refuse found told] at step
      | panic text => simp [settle_of_some found, told, Step.ofAnswer] at step
  · obtain ⟨entry, configured, step⟩ := List.mem_map.mp own
    unfold Step.ofCustom at step
    split at step
    next => simp at step
    next =>
      obtain ⟨rfl, -, -, rfl⟩ := Step.assign.inj step
      exact .custom configured

theorem Mapper.drawn_of_planned {answers : Question → Resolution κ} {schema : Schema}
    {id : MapperId} {mapper : Mapper κ} {entry : Binding × Assignment κ}
    (mem : entry ∈ (mapper.planned answers schema id).bound) :
    Plan.Drawn answers mapper.config entry.1.kind entry.2 := by
  let steps := Plan.settled answers (schema.properties mapper.source)
    (schema.properties mapper.dest) mapper.config
  have kinds (kind : Binding.Kind) (dest label : String) (assignment : Assignment κ)
      (listed : .assign kind dest label assignment ∈ steps) : kind ≠ .ignored := by
    cases Plan.drawn_of_settled listed <;> simp
  have bound : (mapper.planned answers schema id).bound = steps.filterMap (·.bound?) :=
    Plan.zip_ofSteps kinds
  rw [bound] at mem
  obtain ⟨step, listed, same⟩ := List.mem_filterMap.mp mem
  cases step with
  | leaveOut name => simp [Plan.Step.bound?] at same
  | assign kind dest label assignment =>
    obtain rfl := Option.some.inj same
    exact Plan.drawn_of_settled listed

namespace World

variable {world : World κ} {id : MapperId} {mapper : Mapper κ} {table : Nat}

theorem offered_of_answers {news : List (Conversion κ)}
    (reflects : (world.surroundings.table table).Reflects news) {question : Question}
    {converter : Converter κ}
    (told : (world.surroundings.table table).answers question = .convert converter) :
    offered? news question.source.valueType question.dest.valueType = some converter := by
  rw [Conversions.answers, Conversions.bridge_eq reflects] at told
  cases offered : offered? news question.source.valueType question.dest.valueType with
  | some other =>
    rw [offered] at told
    rw [Resolution.convert.inj told]
  | none => simp [offered, Resolution.ofExcept] at told

/-- What is agreed on with a table is what the table offers. -/
theorem offered_of_agreed {news : List (Conversion κ)}
    (reflects : (world.surroundings.table table).Reflects news) {dest : String}
    {assignment : Assignment κ}
    (agreed : Mapper.Action.Agreed world.schema
      (Surroundings.dialogue world.schema (.table table)) mapper world.surroundings dest
      assignment) :
    offered? news assignment.source.valueType assignment.dest.valueType =
      some assignment.converter := by
  rcases agreed.converter with ⟨identity, same⟩ | ⟨question, given, wanted, told⟩
  · rw [identity, offered?, if_pos same]
  · rw [← given, ← wanted]
    exact offered_of_answers reflects told

/-- A plan over a table is built of what the table answers at that time. -/
theorem planned_of_built (found : world.mappers[id]? = some mapper)
    (tabled : mapper.service = .table table) {held : List Hold} {request : Request κ}
    {plan : Plan κ} (made : Moment.built? id ⟨world, held, request⟩ = some plan) :
    plan = mapper.planned (world.surroundings.table table).answers world.schema id := by
  obtain ⟨mapper', composition, found', building, rfl⟩ := Moment.built?_eq_some.mp made
  obtain rfl : mapper' = mapper := Option.some.inj (found'.symm.trans found)
  obtain ⟨action, aimed⟩ := action?_of_composition building
  rw [composition?_eq found aimed, tabled] at building
  have calm : mapper'.Calm (world.surroundings.table table).answers world.schema := by
    intro question _
    cases told : (world.surroundings.table table).answers question with
    | panic text => exact absurd told (Conversions.answers_ne_panic _ question text)
    | convert | refuse => rfl
  have steady : (Surroundings.dialogue world.schema (.table table)).Steady
      (world.surroundings.table table).answers world.surroundings :=
    Surroundings.steady_table rfl world.schema
  obtain ⟨config, next, -, performed⟩ := Mapper.Action.perform_builds id building
  obtain ⟨healthy, use, -⟩ := Mapper.Action.perform_of_composition id building
  have yields (outcome : Outcome (Plan κ)) (given : outcome.map some =
      .ok (some (mapper'.assembled id composition)))
      (planned : outcome = .ok (mapper'.planned (world.surroundings.table table).answers
        world.schema id)) : mapper'.assembled id composition =
          mapper'.planned (world.surroundings.table table).answers world.schema id := by
    subst planned
    exact (Option.some.inj (Outcome.ok.inj given)).symm
  rcases use with ⟨rfl, uncached⟩ | rfl
  · exact yields _ (congrArg Prod.fst performed)
      ((Mapper.builds_of_calm healthy calm steady id).2 uncached)
  · exact yields _ (congrArg Prod.fst performed)
      (Mapper.builds_of_calm healthy calm steady id).1

variable [Closures κ] {first last : World κ} {past : List (Moment κ)} {schema : Schema}
  {tracing : Bool}

/-- Whatever happens, a mapper is configured with the assignments that it has been told. -/
theorem History.custom (history : History (initial schema tracing) past world)
    (found : world.mappers[id]? = some mapper) :
    mapper.config.custom = (Config.told (Mapper.clauses id past)).custom := by
  suffices all : (∀ mapper, world.mappers[id]? = some mapper →
      mapper.config.custom = (Config.told (Mapper.clauses id past)).custom) ∧
      (world.mappers[id]? = none → Mapper.clauses id past = []) from all.1 mapper found
  clear found
  induction history with
  | start => simp [initial, Mapper.clauses]
  | write entry _ ih => exact ih
  | clear _ ih => exact ih
  | @serve past world held request _ ih =>
    obtain ⟨known, unknown⟩ := ih
    rw [Mapper.clauses_concat]
    cases found : world.mappers[id]? with
    | some middle =>
      obtain ⟨later, kept, does⟩ := serve_clause found held request
      rw [kept]
      refine ⟨fun mapper same => ?_, by simp⟩
      obtain rfl := Option.some.inj same
      have before := known middle found
      cases told : Moment.clause? id ⟨world, held, request⟩ with
      | some clause =>
        rw [told] at does
        obtain ⟨-, rfl⟩ := does
        rw [Option.toList_some, Config.told_concat]
        cases clause with
        | assign assignment => simp only [Config.put_assign, before]
        | _ => exact before
      | none =>
        rw [told] at does
        rw [does.2, before]
        simp
    | none =>
      obtain ⟨idle, fresh⟩ := serve_fresh found held request
      rw [unknown found, Moment.clause?_of_no_action idle]
      refine ⟨fun mapper made => ?_, fun _ => rfl⟩
      obtain ⟨source, dest, service, rfl⟩ := fresh mapper made
      rfl

/-- A mapper keeps its service. -/
theorem History.service (history : History first past last)
    (found : first.mappers[id]? = some mapper) :
    ∃ later, last.mappers[id]? = some later ∧ later.service = mapper.service := by
  refine history.onward (P := fun _ later => later.service = mapper.service) found rfl ?_
  intro past moment middle later before does
  cases does with
  | nothing | set | built | aborted => exact before

/-- What is configured for a key is the assignment of the last moment that told one. -/
theorem History.registered (history : History (initial schema tracing) past world)
    (found : world.mappers[id]? = some mapper) {entry : String × CustomMember κ}
    (configured : entry ∈ mapper.config.custom.entries) :
    ∃ early moment late, past = early ++ moment :: late ∧
      moment.clause? id = some (.assign entry.2.assignment) ∧
      ∀ later ∈ late, ∀ other, later.clause? id = some (.assign other) →
        other.key ≠ entry.2.assignment.key := by
  have custom := history.custom found
  have distinct := Config.distinct_told (Mapper.clauses id past)
  rw [custom] at configured
  have last := Config.get?_told (Mapper.clauses id past) entry.1
  rw [OrderedMap.get?_of_mem distinct configured] at last
  obtain ⟨assignment, told, same⟩ := Option.map_eq_some_iff.mp last.symm
  obtain ⟨before, after, split, here, quiet⟩ := Config.Clause.last?_eq_some.mp told
  -- The clauses before and after the last one come from the moments before and after it.
  obtain ⟨first, rest, rfl, -, told⟩ := List.filterMap_eq_append_iff.mp split
  obtain ⟨idle, moment, late, rfl, -, tells, remaining⟩ := List.filterMap_eq_cons_iff.mp told
  have kept : entry.2.assignment = assignment := by rw [← same]; rfl
  refine ⟨first ++ idle, moment, late, by simp, kept ▸ tells, fun later mem other tells' => ?_⟩
  have mem : .assign other ∈ after := remaining ▸ List.mem_filterMap.mpr ⟨later, mem, tells'⟩
  intro again
  have assigned : (Config.Clause.assign other).assigned? entry.1 = some other :=
    Config.Clause.assigned?_eq_some.mpr ⟨rfl, again.trans (kept ▸ here)⟩
  simp [quiet _ mem] at assigned

theorem serve_of_conversion {request : Request κ} {new : Conversion κ}
    (registers : world.conversion? request = some new) (held : List Hold) :
    (world.serve held request).2 =
      world.registerConverter new.table new.source new.dest new.converter := by
  unfold conversion? at registers
  split at registers
  next name source dest convert =>
    cases named : world.table? name with
    | none => simp [named] at registers
    | some id =>
      rw [named] at registers
      obtain rfl := Option.some.inj registers
      simp only [serve, perform, named]
      rfl
  next name nested =>
    split at registers
    next id mapperId mapper named nested =>
      obtain rfl := Option.some.inj registers
      simp only [serve, perform, named, callTable, nested]
      rfl
    next => simp at registers
  next => simp at registers

section Tabled

variable (history : History (initial schema tracing) past world)
  (found : world.mappers[id]? = some mapper) (tabled : mapper.service = .table table)
  {early late : List (Moment κ)} {moment : Moment κ} {plan : Plan κ}
  {entry : Binding × Assignment κ}

include history found tabled

/-- At every moment the mapper asks the table. -/
theorem History.asks {middle : Mapper κ} (split : past = early ++ moment :: late)
    (there : moment.world.mappers[id]? = some middle) :
    History (initial schema tracing) early moment.world ∧ middle.service = .table table := by
  subst split
  obtain ⟨before, after⟩ := history.split
  obtain ⟨next, kept, -⟩ := serve_does there moment.held moment.request
  obtain ⟨last, found', service⟩ :=
    ((History.serve moment.held moment.request .start).trans after).service there
  obtain rfl := Option.some.inj (found'.symm.trans found)
  exact ⟨before, service.symm.trans tabled⟩

theorem History.drawn (split : past = early ++ moment :: late)
    (made : moment.built? id = some plan) (mem : entry ∈ plan.bound) :
    ∃ middle, moment.world.mappers[id]? = some middle ∧
      Plan.Drawn (moment.world.surroundings.table table).answers middle.config entry.1.kind
        entry.2 := by
  obtain ⟨middle, -, there, -, -⟩ := Moment.built?_eq_some.mp made
  have planned := planned_of_built there (history.asks found tabled split there).2 made
  exact ⟨middle, there, Mapper.drawn_of_planned (planned ▸ mem)⟩

theorem History.offered_auto (split : past = early ++ moment :: late)
    (made : moment.built? id = some plan) (mem : entry ∈ plan.bound)
    (kind : entry.1.kind = .auto) :
    offered? (additions table early) entry.2.source.valueType entry.2.dest.valueType =
      some entry.2.converter := by
  obtain ⟨middle, there, drawn⟩ := history.drawn found tabled split made mem
  rw [kind] at drawn
  generalize entry.2 = assignment at drawn ⊢
  cases drawn with
  | auto told =>
    exact offered_of_answers ((history.asks found tabled split there).1.tabulated table) told

theorem History.offered_custom (split : past = early ++ moment :: late)
    (made : moment.built? id = some plan) (mem : entry ∈ plan.bound)
    (kind : entry.1.kind = .custom) :
    ∃ before told since, early = before ++ told :: since ∧
      told.clause? id = some (.assign entry.2) ∧
      (∀ later ∈ since, ∀ other, later.clause? id = some (.assign other) →
        other.key ≠ entry.2.key) ∧
      offered? (additions table before) entry.2.source.valueType entry.2.dest.valueType =
        some entry.2.converter := by
  obtain ⟨middle, there, drawn⟩ := history.drawn found tabled split made mem
  rw [kind] at drawn
  generalize entry.2 = assignment at drawn ⊢
  cases drawn with
  | custom configured =>
    obtain ⟨before, told, since, earlier, tells, quiet⟩ :=
      (history.asks found tabled split there).1.registered there configured
    refine ⟨before, told, since, earlier, tells, quiet, ?_⟩
    obtain ⟨other, action, found', -, -, clause⟩ := Moment.clause?_eq_some.mp tells
    have whole : past = before ++ told :: (since ++ moment :: late) := by
      simp [split, earlier]
    obtain ⟨history', service⟩ := history.asks found tabled whole found'
    rw [service] at clause
    obtain ⟨dest, -, agreed⟩ := Mapper.Action.agreed_of_assign clause
    exact offered_of_agreed (history'.tabulated table) agreed

/-- Every conversion of a plan was offered at some time before. -/
theorem History.offered (split : past = early ++ moment :: late)
    (made : moment.built? id = some plan) (mem : entry ∈ plan.bound) :
    ∃ before, before <+: early ∧
      offered? (additions table before) entry.2.source.valueType entry.2.dest.valueType =
        some entry.2.converter := by
  cases kind : entry.1.kind with
  | auto =>
    exact ⟨early, List.prefix_rfl, history.offered_auto found tabled split made mem kind⟩
  | custom =>
    obtain ⟨before, told, since, rfl, -, -, offered⟩ :=
      history.offered_custom found tabled split made mem kind
    exact ⟨before, List.prefix_append _ _, offered⟩
  | ignored =>
    obtain ⟨middle, there, drawn⟩ := history.drawn found tabled split made mem
    rw [kind] at drawn
    cases drawn

end Tabled

/-- Which conversions a mapper over a table works with. -/
structure Captures (past : List (Moment κ)) (world : World κ) (table : Nat) (id : MapperId) :
    Prop where
  built : ∀ plan : Plan κ, world.Offers plan → plan.mapper = id →
    ∃ moment ∈ past, moment.built? id = some plan
  /-- A member that is matched by name is converted by what was offered when the plan was built. -/
  auto : ∀ early moment late plan, past = early ++ moment :: late →
      moment.built? id = some plan → ∀ entry ∈ plan.bound, entry.1.kind = .auto →
    offered? (additions table early) entry.2.source.valueType entry.2.dest.valueType =
      some entry.2.converter
  /-- A member with a source of its own is converted by what was offered when it was last given
  one. -/
  custom : ∀ early moment late plan, past = early ++ moment :: late →
      moment.built? id = some plan → ∀ entry ∈ plan.bound, entry.1.kind = .custom →
    ∃ before told since, early = before ++ told :: since ∧
      told.clause? id = some (.assign entry.2) ∧
      (∀ later ∈ since, ∀ other, later.clause? id = some (.assign other) →
        other.key ≠ entry.2.key) ∧
      offered? (additions table before) entry.2.source.valueType entry.2.dest.valueType =
        some entry.2.converter
  /-- The calls that give a member a source are those whose callers are told so. -/
  told : ∀ moment ∈ past, ∀ action dest,
      moment.world.action? moment.held moment.request = some (id, action) →
      action.assigns? = some dest →
    ((∃ assignment, moment.clause? id = some (.assign assignment) ∧
        assignment.key = Text.fold dest) ↔
      ∃ depth later, moment.world.answer depth moment.held moment.request =
        some (.ok .unit, later))
  same : ∀ moment ∈ past, ∀ plan, moment.built? id = some plan → ∀ entry ∈ plan.bound,
      entry.2.source.valueType = entry.2.dest.valueType →
    ∀ schema input, entry.2.converter.apply schema input = pure input
  kept : ∀ held request new, world.conversion? request = some new →
    (world.serve held request).2.mappers = world.mappers ∧
      (world.serve held request).2.handles = world.handles

/-- However registrations, configuring calls and builds are mixed, the last conversion counts that
was registered before the build, or before the member was given its source. -/
theorem conversions_captured_when_bound (history : History (initial schema tracing) past world)
    (found : world.mappers[id]? = some mapper) (tabled : mapper.service = .table table) :
    Captures past world table id where
  built := by
    rintro plan offers rfl
    exact history.built offers
  auto := fun early moment late plan split made entry mem kind =>
    history.offered_auto found tabled split made mem kind
  custom := fun early moment late plan split made entry mem kind =>
    history.offered_custom found tabled split made mem kind
  told := by
    intro moment mem action dest aimed assigns
    have configures := Mapper.Action.configures_of_assigns assigns
    rw [← clause?_iff_answered aimed configures, Option.isSome_iff_exists]
    constructor
    · rintro ⟨assignment, tells, -⟩
      exact ⟨_, tells⟩
    · rintro ⟨clause, tells⟩
      obtain ⟨assignment, rfl, here⟩ := clause?_of_assigns aimed assigns tells
      exact ⟨assignment, tells, here⟩
  same := by
    intro moment mem plan made entry listed equal schema input
    obtain ⟨early, late, split⟩ := List.append_of_mem mem
    obtain ⟨before, -, offered⟩ := history.offered found tabled split made listed
    rw [offered?, if_pos equal] at offered
    rw [← Option.some.inj offered]
    rfl
  kept := by
    intro held request new registers
    rw [serve_of_conversion registers]
    exact ⟨rfl, rfl⟩

end World

def Schema.printed : Schema where
  layout
    | 0 => ⟨[.field ⟨"a", .i32, .readWrite, "a", false⟩,
        .field ⟨"b", .i32, .readWrite, "b", false⟩], []⟩
    | 1 => ⟨[.field ⟨"a", .text, .readWrite, "a", false⟩,
        .field ⟨"b", .text, .readWrite, "b", false⟩], []⟩
    | _ => ⟨[], []⟩

/-- A conversion is replaced after a member was given a source, and again between two builds. -/
theorem World.conversions_captured_when_bound_of_replaced :
    let converts (text : String) : TableCall Closure :=
      .register .i32 .text (.value (.literal (.str text)))
    let world := (World.initial Schema.printed false : World Closure).after
      [.newTable "t", .copy "u" "t", .newMapper "m" 0 1 (some "t"), .table "t" (converts "first"),
        .mapper "m" (.assignMember "B" "b"), .table "u" (converts "second"),
        .mapper "m" (.compile (some "p")), .table "t" (converts "third"),
        .mapper "m" (.recompile (some "q"))]
    let run (plan : String) : Option Reply :=
      (world.answer 2 [] (.operation (.planRun plan (.record []) none))).map (·.1)
    ∃ past mapper, World.History (.initial Schema.printed false) past world ∧
      world.mappers[0]? = some mapper ∧ mapper.service = .table 0 ∧
      World.Captures past world 0 0 ∧
      run "p" = some (.ok (.value (.record [("a", .str "second"), ("b", .str "first")]))) ∧
      run "q" = some (.ok (.value (.record [("a", .str "third"), ("b", .str "first")]))) := by
  intro converts world run
  obtain ⟨past, history⟩ : ∃ past, World.History (.initial Schema.printed false) past world :=
    ⟨_, World.History.of_operations _ _⟩
  have service : (world.mappers[0]?).map (·.service) = some (.table 0) := by decide +kernel
  obtain ⟨mapper, found, tabled⟩ := Option.map_eq_some_iff.mp service
  exact ⟨past, mapper, history, found, tabled,
    World.conversions_captured_when_bound history found tabled, by decide +kernel,
    by decide +kernel⟩

end RecordMapping
