import RecordMapping.Proofs.Content
import RecordMapping.Proofs.Course

namespace RecordMapping

variable {κ α : Type}

namespace Act.Walk

variable [Closures κ] {schema : Schema} {source : Record} {server : Server κ} {held : List Hold}
  {acts rest made first second : List (Act κ)} {hand : Hand} {world last : World κ}
  {outcome : Outcome Hand} {act : Act κ}

theorem unique {other : Outcome Hand} {more : List (Act κ)} {final : World κ}
    (walk : Walk schema source server held acts hand world made outcome last)
    (again : Walk schema source server held acts hand world more other final) :
    more = made ∧ other = outcome ∧ final = last := by
  induction walk generalizing more other final with
  | done hand world =>
    cases again
    exact ⟨rfl, rfl, rfl⟩
  | next ran walk ih =>
    cases again with
    | next ran' walk' =>
      obtain ⟨rfl, rfl⟩ : _ ∧ _ := by simpa using ran'.symm.trans ran
      obtain ⟨rfl, same⟩ := ih walk'
      exact ⟨rfl, same⟩
    | failed ran' | panicked ran' => exact absurd (ran'.symm.trans ran) (by simp)
  | failed ran | panicked ran =>
    cases again with
    | next ran' => exact absurd (ran'.symm.trans ran) (by simp)
    | failed ran' | panicked ran' =>
      have same := ran'.symm.trans ran
      simp_all

/-- The acts that are made are all of them if the walk succeeds. Otherwise they are those up to the
one that did not succeed, and the walk ends as that one did. -/
theorem ends (walk : Walk schema source server held acts hand world made outcome last) :
    (made = acts ∧ ∃ later, outcome = .ok later) ∨
      ∃ early act rest, acts = early ++ act :: rest ∧ made = early ++ [act] ∧
        (∀ later, outcome ≠ .ok later) ∧ ∃ later middle,
          Walk schema source server held early hand world early (.ok later) middle ∧
            Walk schema source server held [act] later middle [act] outcome last := by
  induction walk with
  | done hand world => exact .inl ⟨rfl, hand, rfl⟩
  | @next act rest made hand later world middle last outcome ran walk ih =>
    rcases ih with ⟨rfl, succeeds⟩ |
      ⟨early, bad, rest, rfl, rfl, fails, later', middle', before, end'⟩
    · exact .inl ⟨rfl, succeeds⟩
    · exact .inr ⟨act :: early, bad, rest, rfl, rfl, fails, later', middle', .next ran before, end'⟩
  | @failed act rest hand world last cause ran =>
    exact .inr ⟨[], act, rest, rfl, rfl, nofun, hand, world, .done hand world, .failed ran⟩
  | @panicked act rest hand world last text ran =>
    exact .inr ⟨[], act, rest, rfl, rfl, nofun, hand, world, .done hand world, .panicked ran⟩

/-- A walk through two lists of acts comes to the second if it gets through the first. -/
theorem split
    (walk : Walk schema source server held (first ++ second) hand world made outcome last) :
    (∃ later middle more, Walk schema source server held first hand world first (.ok later) middle ∧
        Walk schema source server held second later middle more outcome last ∧
        made = first ++ more) ∨
      Walk schema source server held first hand world made outcome last ∧
        ∀ later, outcome ≠ .ok later := by
  induction first generalizing hand world made with
  | nil => exact .inl ⟨hand, world, made, .done hand world, walk, rfl⟩
  | cons act rest ih =>
    cases walk with
    | next ran walk =>
      rcases ih walk with ⟨later, middle, more, before, after, rfl⟩ | ⟨before, fails⟩
      · exact .inl ⟨later, middle, more, .next ran before, after, rfl⟩
      · exact .inr ⟨.next ran before, fails⟩
    | failed ran => exact .inr ⟨.failed ran, nofun⟩
    | panicked ran => exact .inr ⟨.panicked ran, nofun⟩

theorem made_prefix (walk : Walk schema source server held acts hand world made outcome last) :
    made <+: acts := by
  rcases walk.ends with ⟨rfl, -⟩ | ⟨early, act, rest, rfl, rfl, -⟩
  · exact List.prefix_rfl
  · exact ⟨rest, by simp⟩

/-- The first act is always made. -/
theorem head_mem
    (walk : Walk schema source server held (act :: rest) hand world made outcome last) :
    act ∈ made := by
  cases walk <;> exact List.mem_cons_self

end Act.Walk

/-- A record after values have been written to members, one after the other. -/
def Property.writeAll (dest : Record) (writes : List (Property Record × Value)) : Record :=
  writes.foldl (fun dest write => (write.1.set?.map fun set => set dest write.2).getD dest) dest

namespace Plan

variable {plan : Plan κ} {supplied : Bool}

theorem construct_mem_opening {slot : Slot} {constructor : κ} :
    .construct slot constructor ∈ plan.opening supplied ↔
      supplied = false ∧ slot = plan.dest ∧ plan.constructor = some constructor := by
  cases supplied with
  | true => simp [opening]
  | false =>
    cases made : plan.constructor <;> cases plan.before <;> simp [opening, made, eq_comm]

theorem after_not_mem_opening {hook : κ} : .after hook ∉ plan.opening supplied := by
  cases supplied <;> simp [opening]

theorem mem_body {act : Act κ} (mem : act ∈ plan.body) :
    (∃ source, act = .read source) ∨ (∃ converter, act = .convert converter) ∨
      ∃ member, act = .write member := by
  obtain ⟨assignment, -, own⟩ := List.mem_flatMap.mp mem
  simp only [Assignment.acts, List.mem_cons, List.not_mem_nil, or_false] at own
  rcases own with rfl | rfl | rfl
  · exact .inl ⟨_, rfl⟩
  · exact .inr (.inl ⟨_, rfl⟩)
  · exact .inr (.inr ⟨_, rfl⟩)

variable [Closures κ] {schema : Schema} {source : Record} {dest : Option Record}
  {server : Server κ} {held holds : List Hold} {world last : World κ} {made : List (Act κ)}
  {outcome : Outcome Hand} {hand later : Hand}

/-- An assignment writes one value to its member. -/
theorem written_of_walk {assignment : Assignment κ} {rest : List (Act κ)}
    (walk : Act.Walk schema source server held (assignment.acts ++ rest) hand world made
      (.ok later) last) :
    ∃ value next middle more, Act.Walk schema source server held rest next middle more (.ok later)
        last ∧
      next.dest = (assignment.dest.set?.map fun set => set hand.dest value).getD hand.dest := by
  cases walk with
  | next got walk =>
    cases walk with
    | next carried walk =>
      cases walk with
      | next stored walk =>
        obtain ⟨value, _, -, read⟩ := Script.exec_run_bind_ok.mp got
        obtain ⟨value', _, -, converted⟩ := Script.exec_run_bind_ok.mp carried
        obtain ⟨record, _, wrote, written⟩ := Script.exec_run_bind_ok.mp stored
        obtain ⟨rfl, rfl⟩ : _ ∧ _ := by simpa using read
        obtain ⟨rfl, rfl⟩ : _ ∧ _ := by simpa using converted
        obtain ⟨rfl, rfl⟩ : _ ∧ _ := by simpa using written
        exact ⟨value'.value, _, _, _, walk, (Property.eq_of_store wrote).2⟩

/-- After the assignments the destination is what it was before them, with a value written for each,
in order. -/
theorem writeAll_of_walk {assignments : List (Assignment κ)}
    (walk : Act.Walk schema source server held (assignments.flatMap Assignment.acts) hand world made
      (.ok later) last) :
    ∃ values : List Value, values.length = assignments.length ∧
      later.dest = Property.writeAll hand.dest ((assignments.map (·.dest)).zip values) := by
  induction assignments generalizing hand world made with
  | nil =>
    cases walk
    exact ⟨[], rfl, rfl⟩
  | cons assignment rest ih =>
    rw [List.flatMap_cons] at walk
    obtain ⟨value, next, middle, more, walk, written⟩ := written_of_walk walk
    obtain ⟨values, length, same⟩ := ih walk
    refine ⟨value :: values, congrArg (· + 1) length, ?_⟩
    rw [same, written]
    rfl

/-- A run of a plan: which of its acts are made, in which order, and what each comes to. -/
structure Conduct (schema : Schema) (source : Record) (dest : Option Record) (server : Server κ)
    (held : List Hold) (plan : Plan κ) (world : World κ) (made : List (Act κ))
    (outcome : Outcome Hand) (last : World κ) : Prop where
  walk : Act.Walk schema source server held (plan.acts dest.isSome) (plan.start schema dest) world
    made outcome last
  /-- All acts are made and the run succeeds, or the first that does not succeed ends it. -/
  ends : (made = plan.acts dest.isSome ∧ ∃ later, outcome = .ok later) ∨
    ∃ early act rest, plan.acts dest.isSome = early ++ act :: rest ∧ made = early ++ [act] ∧
      (∀ later, outcome ≠ .ok later) ∧ ∃ later middle,
        Act.Walk schema source server held early (plan.start schema dest) world early (.ok later)
          middle ∧
        Act.Walk schema source server held [act] later middle [act] outcome last
  constructs : ∀ slot constructor, .construct slot constructor ∈ made ↔
    dest = none ∧ slot = plan.dest ∧ plan.constructor = some constructor
  /-- The after hook is called just when all assignments have succeeded. -/
  finishes : ∀ hook, .after hook ∈ made ↔ plan.after = some hook ∧ ∃ later middle,
    Act.Walk schema source server held (plan.opening dest.isSome ++ plan.body)
      (plan.start schema dest) world (plan.opening dest.isSome ++ plan.body) (.ok later) middle
  /-- The after hook sees what the before hook has left with the value of every assignment. -/
  sees : ∀ hook, .after hook ∈ made → ∃ begun prepared full middle, ∃ values : List Value,
    Act.Walk schema source server held (plan.opening dest.isSome) (plan.start schema dest) world
      (plan.opening dest.isSome) (.ok begun) prepared ∧
    Act.Walk schema source server held plan.body begun prepared plan.body (.ok full) middle ∧
    values.length = plan.assignments.length ∧
    full.dest = Property.writeAll begun.dest ((plan.assignments.map (·.dest)).zip values) ∧
    Act.Walk schema source server held [.after hook] full middle [.after hook] outcome last

section Walk

variable (walk : Act.Walk schema source server held (plan.acts dest.isSome) (plan.start schema dest)
  world made outcome last)

include walk

/-- The walk comes to the after hook only through all acts before it. -/
theorem after_of_walk {hook : κ} (mem : .after hook ∈ made) :
    plan.after = some hook ∧ ∃ full middle,
      Act.Walk schema source server held (plan.opening dest.isSome ++ plan.body)
        (plan.start schema dest) world (plan.opening dest.isSome ++ plan.body) (.ok full) middle ∧
      Act.Walk schema source server held [.after hook] full middle [.after hook] outcome last := by
  -- The hook is among the acts only as the last of them.
  have early : .after hook ∉ plan.opening dest.isSome ++ plan.body := by
    rw [List.mem_append, not_or]
    refine ⟨after_not_mem_opening, fun mem => ?_⟩
    rcases mem_body mem with ⟨_, same⟩ | ⟨_, same⟩ | ⟨_, same⟩ <;> simp at same
  rcases walk.split with ⟨full, middle, more, before, late, rfl⟩ | ⟨before, -⟩
  · have mem := (List.mem_append.mp mem).resolve_left early
    have told : plan.after = some hook := by
      simpa using late.made_prefix.subset mem
    rw [told] at late
    refine ⟨told, full, middle, before, ?_⟩
    cases late with
    | next ran walk =>
      cases walk
      exact .next ran (.done _ _)
    | failed ran => exact .failed ran
    | panicked ran => exact .panicked ran
  · exact absurd (before.made_prefix.subset mem) early

theorem constructs_of_walk (slot : Slot) (constructor : κ) : .construct slot constructor ∈ made ↔
    dest = none ∧ slot = plan.dest ∧ plan.constructor = some constructor := by
  have opens : .construct slot constructor ∈ plan.acts dest.isSome ↔
      dest = none ∧ slot = plan.dest ∧ plan.constructor = some constructor := by
    have apart : .construct slot constructor ∉ plan.body := by
      intro mem
      rcases mem_body mem with ⟨_, same⟩ | ⟨_, same⟩ | ⟨_, same⟩ <;> simp at same
    simp [acts, construct_mem_opening, apart]
  refine ⟨fun mem => opens.mp (walk.made_prefix.subset mem), ?_⟩
  rintro ⟨rfl, rfl, told⟩
  have first : plan.acts (none : Option Record).isSome = .construct plan.dest constructor ::
      ((plan.before.map Act.before).toList ++ plan.body ++ (plan.after.map Act.after).toList) := by
    simp [acts, opening, told]
  rw [first] at walk
  exact walk.head_mem

theorem finishes_of_walk (hook : κ) : .after hook ∈ made ↔ plan.after = some hook ∧
    ∃ later middle, Act.Walk schema source server held (plan.opening dest.isSome ++ plan.body)
      (plan.start schema dest) world (plan.opening dest.isSome ++ plan.body) (.ok later)
      middle := by
  constructor
  · intro mem
    obtain ⟨told, full, middle, before, -⟩ := after_of_walk walk mem
    exact ⟨told, full, middle, before⟩
  · rintro ⟨told, full, middle, before⟩
    rcases walk.split with ⟨_, _, more, -, late, rfl⟩ | ⟨stopped, fails⟩
    · rw [told] at late
      exact List.mem_append_right _ late.head_mem
    · obtain ⟨-, rfl, -⟩ := stopped.unique before
      -- A walk that stops early is not the one that gets to the hook.
      exact absurd rfl (fails full)

/-- The acts that are made, as a conduct of the plan. -/
theorem conduct_of_walk : plan.Conduct schema source dest server held world made outcome last where
  walk := walk
  ends := walk.ends
  constructs := constructs_of_walk walk
  finishes := finishes_of_walk walk
  sees hook mem := by
    obtain ⟨-, full, middle, before, last⟩ := after_of_walk walk mem
    rcases before.split with ⟨begun, prepared, more, opened, assigned, same⟩ | ⟨-, fails⟩
    · obtain rfl := List.append_cancel_left same
      obtain ⟨values, length, written⟩ := writeAll_of_walk assigned
      exact ⟨begun, prepared, full, middle, values, opened, assigned, length, written, last⟩
    · exact absurd rfl (fails full)

end Walk

theorem course_iff_conduct :
    plan.Course schema source dest server held world made outcome last ↔
      plan.Conduct schema source dest server held world made outcome last :=
  ⟨conduct_of_walk, Conduct.walk⟩

end Plan

end RecordMapping
