import RecordMapping.Proofs.Reordering

namespace RecordMapping

variable {κ : Type}

open Config (Clause Form)

namespace Mapper

variable {source dest : Slot} {service : ServiceId}

theorem told_put (source dest : Slot) (service : ServiceId) (clauses : List (Clause κ))
    (clause : Clause κ) :
    { Mapper.told source dest service clauses with
      config := (Mapper.told source dest service clauses).config.put clause } =
        told source dest service (clauses ++ [clause]) := by
  simp only [told, Config.told_concat]

/-- A configuring action adds its clause to what a mapper has been told. -/
theorem Action.perform_clause {σ : Type} {schema : Schema} {dialogue : Dialogue σ κ} {state : σ}
    {action : Action κ} (id : MapperId) (configures : action.configures = true)
    (clauses : List (Clause κ)) :
    (action.perform schema dialogue id (.told source dest service clauses) state).2.1 =
      .told source dest service (clauses ++
        (action.clause? schema dialogue (.told source dest service clauses) state).toList) := by
  rw [perform_told_clause id configures]
  simp only [told, Mapper.new, Bool.false_eq_true, if_false]
  cases action.clause? schema dialogue _ state with
  | none => simp
  | some clause => simp [Config.told_concat]

end Mapper

/-- Plans over normal forms that differ in the order of the assignments differ in that order. -/
theorem Config.Form.Permuted.plan {form other : Form κ} (permuted : form.Permuted other)
    (id : MapperId) (source dest : Slot) (auto : Composition κ) :
    let plan := form.plan id source dest auto
    let plan' := other.plan id source dest auto
    (∃ own own', own.Perm own' ∧ plan.bindings = auto.bindings ++ own ∧
        plan'.bindings = auto.bindings ++ own') ∧
      (∃ own own', own.Perm own' ∧ plan.assignments = auto.assignments ++ own ∧
        plan'.assignments = auto.assignments ++ own') ∧
      plan' = { plan with bindings := plan'.bindings, assignments := plan'.assignments } := by
  intro plan plan'
  have steps : form.steps.Perm other.steps := by
    simp only [steps, permuted.ignored]
    exact permuted.custom.map _
  refine ⟨⟨_, _, steps.map _, rfl, rfl⟩, ⟨_, _, steps.filterMap _, rfl, rfl⟩, ?_⟩
  simp only [plan, plan', Form.plan, permuted.before, permuted.after, permuted.constructor]

namespace World

variable [Closures κ] {first world : World κ} {past : List (Moment κ)} {id : MapperId}
  {source dest : Slot} {service : ServiceId}

/-- Until its first build a new mapper is what it has been told. -/
theorem History.told (history : History first past world)
    (fresh : first.mappers[id]? = some (.new source dest service))
    (unbuilt : ∀ moment ∈ past, moment.composition? id = none) :
    world.mappers[id]? = some (.told source dest service (Mapper.clauses id past)) := by
  induction history with
  | start => exact fresh
  | write entry _ ih => exact ih unbuilt
  | clear _ ih => exact ih unbuilt
  | @serve past world held request _ ih =>
    obtain ⟨early, idle⟩ := List.forall_mem_append.mp unbuilt
    have found := ih early
    obtain ⟨later, kept, does⟩ := serve_clause found held request
    rw [kept, Mapper.clauses_concat]
    cases tells : Moment.clause? id ⟨world, held, request⟩ with
    | some clause =>
      rw [tells] at does
      rw [does.2, Mapper.told_put]
      rfl
    | none =>
      rw [tells] at does
      rw [does.1 (idle _ (List.mem_singleton_self _))]
      simp

/-- The first plan of a mapper, and what it depends on. -/
structure Normal (past : List (Moment κ)) (world : World κ) (id : MapperId) (source dest : Slot)
    (service : ServiceId) : Prop where
  told : world.mappers[id]? = some (.told source dest service (Mapper.clauses id past))
  /-- It is told something by the configuring calls whose callers are told so. -/
  calls : ∀ moment ∈ past, ∀ action,
      moment.world.action? moment.held moment.request = some (id, action) →
      action.configures = true →
    ((moment.clause? id).isSome = true ↔ ∃ depth later,
      moment.world.answer depth moment.held moment.request = some (.ok .unit, later))
  /-- A plan comes from the normal form and from what is matched by name; that is the same for all
  mappers that leave out the same names and have the same keys, if they are answered alike. -/
  plans : ∀ {τ : Type} {other : Dialogue τ κ} {related : Surroundings κ → τ → Prop} {start : τ}
      (id' : MapperId) (service' : ServiceId) (clauses : List (Clause κ))
      (action : Mapper.Action κ),
      (Surroundings.dialogue world.schema service).Similar other related →
      related world.surroundings start →
      (Form.of (Mapper.clauses id past)).Kin (.of clauses) → action.configures = false →
    ∃ auto : Except String (Composition κ),
      (world.performed id (.told source dest service (Mapper.clauses id past)) action).1 =
          (Form.of (Mapper.clauses id past)).outcome id source dest auto ∧
        (action.perform world.schema other id' (.told source dest service' clauses) start).1 =
          (Form.of clauses).outcome id' source dest auto
  decides : ∀ (clauses : List (Clause κ)) (action : Mapper.Action κ),
      Form.of clauses = .of (Mapper.clauses id past) → action.configures = false →
    (world.performed id (.told source dest service clauses) action).1 =
      (world.performed id (.told source dest service (Mapper.clauses id past)) action).1
  spelling : ∀ first second : Mapper.Action κ, first.Respelled second →
    ∀ (mapper : Mapper κ) (state : Surroundings κ),
      first.clause? world.schema (Surroundings.dialogue world.schema service) mapper state =
        second.clause? world.schema (Surroundings.dialogue world.schema service) mapper state
  /-- Two calls, unless they give a source to one and the same member, tell the same in either
  order, and leave everything else the same but for the log. -/
  exchange : ∀ first second : Mapper.Action κ, first.configures = true →
      second.configures = true → first.Apart second →
    ∀ (clauses : List (Clause κ)) (state : Surroundings κ),
      let dialogue := Surroundings.dialogue world.schema service
      let mapper := Mapper.told source dest service clauses
      let one := first.perform world.schema dialogue id mapper state
      let two := second.perform world.schema dialogue id mapper state
      let clause := (first.clause? world.schema dialogue mapper state).toList
      let clause' := (second.clause? world.schema dialogue mapper state).toList
      (second.perform world.schema dialogue id one.2.1 one.2.2).2.1 =
          .told source dest service (clauses ++ clause ++ clause') ∧
        (first.perform world.schema dialogue id two.2.1 two.2.2).2.1 =
          .told source dest service (clauses ++ clause' ++ clause) ∧
        Surroundings.Unlogged (second.perform world.schema dialogue id one.2.1 one.2.2).2.2
          (first.perform world.schema dialogue id two.2.1 two.2.2).2.2
  /-- Another assignment for a key takes the place of the one before. -/
  replaces : ∀ (clauses : List (Clause κ)) (assignment : Assignment κ),
      assignment.key ∈ (Form.of clauses).keys →
    Form.of (clauses ++ [.assign assignment]) = { Form.of clauses with
      custom := (Form.of clauses).custom.map assignment.replacing }
  appends : ∀ (clauses : List (Clause κ)) (assignment : Assignment κ),
      assignment.key ∉ (Form.of clauses).keys →
    Form.of (clauses ++ [.assign assignment]) = { Form.of clauses with
      custom := (Form.of clauses).custom ++ [(assignment.key, assignment.custom)] }
  idempotent : ∀ (early late : List (Clause κ)) (name name' : String),
      Text.fold name = Text.fold name' → .ignore name ∈ early ++ late →
    Form.of (early ++ .ignore name' :: late) = Form.of (early ++ late)
  commutes : ∀ (early late : List (Clause κ)) (first second : Clause κ),
      first.setting ≠ second.setting ∨ first.setting = .ignored →
    Form.of (early ++ first :: second :: late) = Form.of (early ++ second :: first :: late)
  /-- Assignments of different members, told in the other order, leave all as it is but the order
  of the assignments. -/
  swaps : ∀ (early late : List (Clause κ)) (first second : Assignment κ),
      first.key ≠ second.key →
    (Form.of (early ++ .assign first :: .assign second :: late)).Permuted
      (Form.of (early ++ .assign second :: .assign first :: late))
  /-- That moves members with sources of their own among themselves, and changes nothing else. -/
  permutes : ∀ (form other : Form κ) (auto : Composition κ), form.Permuted other →
    let plan := form.plan id source dest auto
    let plan' := other.plan id source dest auto
    (∃ own own', own.Perm own' ∧ plan.bindings = auto.bindings ++ own ∧
        plan'.bindings = auto.bindings ++ own') ∧
      (∃ own own', own.Perm own' ∧ plan.assignments = auto.assignments ++ own ∧
        plan'.assignments = auto.assignments ++ own') ∧
      plan' = { plan with bindings := plan'.bindings, assignments := plan'.assignments }

/-- However a new mapper is configured, its first plan comes from a normal form of its
configuration. -/
theorem first_plan_depends_on_normal_form (history : History first past world)
    (fresh : first.mappers[id]? = some (.new source dest service))
    (unbuilt : ∀ moment ∈ past, moment.composition? id = none) :
    Normal past world id source dest service where
  told := history.told fresh unbuilt
  calls := fun moment _ _ aimed configures => clause?_iff_answered aimed configures
  plans := fun id' _ _ _ similar start kin uses =>
    Mapper.Action.perform_of_kin similar start kin uses id id'
  decides := by
    intro clauses action same uses
    have kin : (Form.of clauses).Kin (.of (Mapper.clauses id past)) := by
      rw [same]
      exact (Form.Permuted.refl _).kin
    obtain ⟨auto, one, two⟩ :=
      Mapper.Action.perform_of_kin (.refl (Surroundings.dialogue world.schema service)) rfl kin
        uses id id
    exact one.trans (same ▸ two.symm)
  spelling := fun _ _ respelled _ _ => Mapper.Action.clause?_of_respelled respelled
  exchange := by
    intro first second configures configures' apart clauses state dialogue mapper one two clause
      clause'
    have one_told : one.2.1 = .told source dest service (clauses ++ clause) :=
      Mapper.Action.perform_clause id configures clauses
    have two_told : two.2.1 = .told source dest service (clauses ++ clause') :=
      Mapper.Action.perform_clause id configures' clauses
    -- Neither call finds out from its service that the other one came before.
    have after : second.clause? world.schema dialogue one.2.1 one.2.2 =
        second.clause? world.schema dialogue mapper state := apart.clause? configures id
    have after' : first.clause? world.schema dialogue two.2.1 two.2.2 =
        first.clause? world.schema dialogue mapper state := apart.symm.clause? configures' id
    rw [one_told] at after
    rw [two_told] at after'
    refine ⟨?_, ?_, apart.exchange configures configures' id⟩
    · rw [one_told, Mapper.Action.perform_clause id configures', after]
    · rw [two_told, Mapper.Action.perform_clause id configures, after']
  replaces := fun clauses assignment known => by
    rw [Form.of_concat, Form.put_of_known known]
  appends := fun clauses assignment fresh => by
    rw [Form.of_concat, Form.put_of_fresh fresh]
  idempotent := by
    intro early late name name' same known
    have left : Text.fold name' ∈ (Form.of (early ++ late)).ignored :=
      Form.mem_ignored_of.mpr ⟨name, known, same⟩
    rw [Form.of_ignore, Finset.insert_eq_of_mem left]
  commutes := by
    intro early late first second apart
    simp only [Form.of_append, List.foldl_cons, Form.put_comm _ apart]
  swaps := by
    intro early late first second apart
    simp only [Form.of_append, List.foldl_cons]
    exact (Form.put_swap _ apart).foldl late
  permutes := fun _ _ auto permuted => permuted.plan id source dest auto

end World

def Schema.lettered : Schema where
  layout
    | 0 | 1 => ⟨[.field ⟨"a", .i32, .readWrite, "a", false⟩,
        .field ⟨"b", .i32, .readWrite, "b", false⟩,
        .field ⟨"c", .i32, .readWrite, "c", false⟩], []⟩
    | _ => ⟨[], []⟩

/-- The second source of a member takes the place of the first, and the member that is ignored twice
is left out. -/
theorem World.first_plan_depends_on_normal_form_of_replaced :
    let tell (world : World Closure) (call : MapperCall Closure) : World Closure :=
      (world.serve [] (.operation (.mapper "m" call))).2
    let first := (World.initial Schema.lettered false : World Closure).after
      [.newTable "t", .newMapper "m" 0 1 (some "t")]
    let world := [.assignMember "c" "a", .assignMember "a" "b", .ignore "B",
      .assignMember "C" "b", .ignore "b"].foldl tell first
    ∃ past, World.History first past world ∧
      first.mappers[0]? = some (.new 0 1 (.table 0)) ∧
      (∀ moment ∈ past, moment.composition? 0 = none) ∧
      World.Normal past world 0 0 1 (.table 0) ∧
      (world.answer 1 [] (.operation (.mapper "m" (.compile none)))).map (·.1) =
        some (.ok (.summary 1 2
          [.ignored "b", ⟨"c", .custom, some "b"⟩, ⟨"a", .custom, some "b"⟩])) := by
  intro tell first world
  obtain ⟨past, history, idle⟩ : ∃ past, World.History first past world ∧
      past.all (fun moment => (moment.composition? 0).isNone) = true :=
    ⟨_, .serve [] _ (.serve [] _ (.serve [] _ (.serve [] _ (.serve [] _ .start)))),
      by decide +kernel⟩
  have fresh : first.mappers[0]? = some (.new 0 1 (.table 0)) := rfl
  have unbuilt : ∀ moment ∈ past, moment.composition? 0 = none := by
    intro moment mem
    exact Option.isNone_iff_eq_none.mp (List.all_eq_true.mp idle moment mem)
  exact ⟨past, history, fresh, unbuilt,
    World.first_plan_depends_on_normal_form history fresh unbuilt, by decide +kernel⟩

end RecordMapping
