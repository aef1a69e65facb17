import RecordMapping.Proofs.Safety

namespace RecordMapping

variable {κ α β : Type}

inductive Act (κ : Type) where
  | construct (slot : Slot) (constructor : κ)
  | before (hook : κ)
  | read (source : Source κ)
  | convert (converter : Converter κ)
  | write (member : Property Record)
  | after (hook : κ)

/-- What a run has in hand between two acts: the destination, and the value that is on its way from
a source to a member. -/
structure Hand where
  dest : Record
  value : Erased

namespace Act

def closures : Act κ → List κ
  | .construct _ closure | .before closure | .after closure => [closure]
  | .read source => source.closures
  | .convert converter => converter.closures
  | .write _ => []

variable [Closures κ]

def run (schema : Schema) (source : Record) (hand : Hand) :
    Act κ → ExceptT MappingError (Script κ) Hand
  | .construct slot constructor => do
    let dest ← ExceptT.lift do
      let value ← Closures.compute constructor (.record source)
      return schema.record slot value
    return { hand with dest := dest }
  | .before hook | .after hook => do
    let dest ← ExceptT.lift (Closures.amend hook source hand.dest)
    return { hand with dest := dest }
  | .read expr => do
    let value ← ExceptT.lift (expr.evaluate schema source)
    return { hand with value := value }
  | .convert converter => do
    let value ← converter.apply schema hand.value
    return { hand with value := value }
  | .write member => do
    let dest ← member.store hand.value hand.dest
    return { hand with dest := dest }

def runAll (schema : Schema) (source : Record) :
    List (Act κ) → Hand → ExceptT MappingError (Script κ) Hand
  | [], hand => return hand
  | act :: rest, hand => do
    let hand ← act.run schema source hand
    runAll schema source rest hand

theorem runAll_append (schema : Schema) (source : Record) (first second : List (Act κ))
    (hand : Hand) :
    runAll schema source (first ++ second) hand =
      runAll schema source first hand >>= runAll schema source second := by
  induction first generalizing hand with
  | nil => simp [runAll]
  | cons act rest ih => simp [runAll, ih]

section Walk

variable (schema : Schema) (source : Record) (server : Server κ) (held : List Hold)

/-- A walk through acts: the acts that are made, how it ends, and the session then. Each act finds
the session and the destination as the act before has left them, and the first that does not succeed
is the last. -/
inductive Walk :
    List (Act κ) → Hand → World κ → List (Act κ) → Outcome Hand → World κ → Prop where
  | done (hand : Hand) (world : World κ) : Walk [] hand world [] (.ok hand) world
  | next {act : Act κ} {rest made : List (Act κ)} {hand later : Hand} {world middle last : World κ}
    {outcome : Outcome Hand}
    (ran : (act.run schema source hand).run.exec server held world =
      some (.ok (.ok later), middle))
    (walk : Walk rest later middle made outcome last) :
    Walk (act :: rest) hand world (act :: made) outcome last
  | failed {act : Act κ} {rest : List (Act κ)} {hand : Hand} {world last : World κ}
    {cause : MappingError}
    (ran : (act.run schema source hand).run.exec server held world =
      some (.ok (.error cause), last)) :
    Walk (act :: rest) hand world [act] (.error cause) last
  | panicked {act : Act κ} {rest : List (Act κ)} {hand : Hand} {world last : World κ}
    {text : String}
    (ran : (act.run schema source hand).run.exec server held world = some (.error text, last)) :
    Walk (act :: rest) hand world [act] (.panic text) last

end Walk

variable {schema : Schema} {source : Record} {server : Server κ} {held holds : List Hold}
  {acts rest made first second : List (Act κ)} {hand : Hand} {world last : World κ}
  {outcome : Outcome Hand} {act : Act κ}

/-- The first act decides whether the others are made. -/
theorem walk_cons :
    (∃ made, Walk schema source server held (act :: rest) hand world made outcome last) ↔
      match (act.run schema source hand).run.exec server held world with
      | some (.ok (.ok later), middle) =>
        ∃ made, Walk schema source server held rest later middle made outcome last
      | some (.ok (.error cause), middle) => outcome = .error cause ∧ last = middle
      | some (.error text, middle) => outcome = .panic text ∧ last = middle
      | none => False := by
  constructor
  · rintro ⟨made, walk⟩
    cases walk with
    | next ran walk =>
      rw [ran]
      exact ⟨_, walk⟩
    | failed ran | panicked ran =>
      rw [ran]
      exact ⟨rfl, rfl⟩
  · intro decided
    cases ran : (act.run schema source hand).run.exec server held world with
    | none =>
      rw [ran] at decided
      exact decided.elim
    | some ended =>
      rw [ran] at decided
      obtain ⟨text | cause | later, middle⟩ := ended
      · obtain ⟨rfl, rfl⟩ := decided
        exact ⟨_, .panicked ran⟩
      · obtain ⟨rfl, rfl⟩ := decided
        exact ⟨_, .failed ran⟩
      · obtain ⟨made, walk⟩ := decided
        exact ⟨_, .next ran walk⟩

/-- Doing acts one after the other is walking through them. -/
theorem outcome_runAll :
    Launch.outcome server held (⟨holds, runAll schema source acts hand⟩, world) =
        some (outcome, last) ↔
      ∃ made, Walk schema source server (holds ++ held) acts hand world made outcome last := by
  simp only [Launch.outcome]
  induction acts generalizing hand world with
  | nil =>
    constructor
    · intro ended
      obtain ⟨rfl, rfl⟩ := by simpa [runAll, Outcome.ofRun, Outcome.ofExcept] using ended
      exact ⟨[], .done hand world⟩
    · rintro ⟨_, ⟨⟩⟩
      rfl
  | cons act rest ih =>
    simp only [walk_cons, runAll, Script.exec_run_bind]
    rcases (act.run schema source hand).run.exec server (holds ++ held) world with
      _ | ⟨text | cause | out, middle⟩
    · simp
    · simp [Outcome.ofRun, eq_comm]
    · simp [Outcome.ofRun, Outcome.ofExcept, eq_comm]
    · exact ih

end Act

def Assignment.acts (assignment : Assignment κ) : List (Act κ) :=
  [.read assignment.source, .convert assignment.converter, .write assignment.dest]

namespace Plan

/-- The acts that prepare the destination. A supplied one is not constructed. -/
def opening (plan : Plan κ) (supplied : Bool) : List (Act κ) :=
  (if supplied then [] else (plan.constructor.map (Act.construct plan.dest)).toList) ++
    (plan.before.map Act.before).toList

def body (plan : Plan κ) : List (Act κ) := plan.assignments.flatMap Assignment.acts

def acts (plan : Plan κ) (supplied : Bool) : List (Act κ) :=
  plan.opening supplied ++ plan.body ++ (plan.after.map Act.after).toList

def start (schema : Schema) (plan : Plan κ) (dest : Option Record) : Hand :=
  ⟨dest.getD (schema.default plan.dest), default⟩

theorem mem_closures_of_act {plan : Plan κ} {supplied : Bool} {act : Act κ}
    (mem : act ∈ plan.acts supplied) : act.closures ⊆ plan.closures := by
  intro closure runs
  simp only [acts, opening, body, List.mem_append, Option.mem_toList, Option.map_eq_some_iff,
    List.mem_flatMap] at mem
  simp only [closures, List.mem_append, Option.mem_toList, List.mem_flatMap]
  rcases mem with ((constructs | ⟨hook, told, rfl⟩) | ⟨assignment, mem, own⟩) | ⟨hook, told, rfl⟩
  · cases supplied with
    | true => simp at constructs
    | false =>
      obtain ⟨constructor, told, rfl⟩ := by simpa using constructs
      obtain rfl := List.mem_singleton.mp runs
      exact .inl (.inl (.inl told))
  · obtain rfl := List.mem_singleton.mp runs
    exact .inl (.inl (.inr told))
  · refine .inl (.inr ⟨assignment, mem, ?_⟩)
    simp only [Assignment.acts, List.mem_cons, List.not_mem_nil, or_false] at own
    rcases own with rfl | rfl | rfl
    · exact List.mem_append_left _ runs
    · exact List.mem_append_right _ runs
    · exact absurd runs List.not_mem_nil
  · obtain rfl := List.mem_singleton.mp runs
    exact .inr told

theorem converter_of_act {plan : Plan κ} {supplied : Bool} {converter : Converter κ}
    (mem : .convert converter ∈ plan.acts supplied) :
    ∃ assignment ∈ plan.assignments, assignment.converter = converter := by
  have mem : .convert converter ∈ plan.body := by cases supplied <;> simpa [acts, opening] using mem
  obtain ⟨assignment, listed, own⟩ := List.mem_flatMap.mp mem
  exact ⟨assignment, listed, by simpa [Assignment.acts, eq_comm] using own⟩

variable [Closures κ]

theorem runAll_opening (schema : Schema) (plan : Plan κ) (source : Record) (dest : Option Record) :
    Hand.dest <$> Act.runAll schema source (plan.opening dest.isSome) (plan.start schema dest) =
      (ExceptT.lift (dest.elim (plan.create schema source) pure) >>= fun dest =>
        ExceptT.lift (amend plan.before source dest)) := by
  unfold opening start
  cases plan.before <;> cases dest <;> cases made : plan.constructor <;>
    simp [create, made, amend, Act.runAll, Act.run]

theorem runAll_body (schema : Schema) (source : Record) (assignments : List (Assignment κ))
    (hand : Hand) :
    Hand.dest <$> Act.runAll schema source (assignments.flatMap Assignment.acts) hand =
      Assignment.runAll schema source assignments hand.dest := by
  induction assignments generalizing hand with
  | nil => simp [Act.runAll, Assignment.runAll]
  | cons assignment rest ih =>
    simp [Assignment.acts, Act.runAll, Act.run, Assignment.runAll, Assignment.run, ih]

theorem runAll_after (schema : Schema) (source : Record) (hook : Option κ) (hand : Hand) :
    Hand.dest <$> Act.runAll schema source (hook.map Act.after).toList hand =
      ExceptT.lift (amend hook source hand.dest) := by
  cases hook <;> simp [amend, Act.runAll, Act.run]

/-- A run does the acts of its plan. -/
theorem run_eq_acts (schema : Schema) (plan : Plan κ) (source : Record) (dest : Option Record) :
    plan.run schema source dest =
      Hand.dest <$> Act.runAll schema source (plan.acts dest.isSome) (plan.start schema dest) := by
  have opened := runAll_opening schema plan source dest
  calc plan.run schema source dest
    _ = (Hand.dest <$> Act.runAll schema source (plan.opening dest.isSome)
          (plan.start schema dest) >>= Assignment.runAll schema source plan.assignments) >>=
        fun dest => ExceptT.lift (amend plan.after source dest) := by
      simp only [opened, run, bind_assoc]
    _ = _ := by
      simp only [acts, body, Act.runAll_append, map_bind, runAll_after, ← runAll_body,
        bind_map_left, bind_assoc]

/-- The course of a run of the plan: the acts that are made, how the last of them ends, and the
session then. -/
def Course (schema : Schema) (source : Record) (dest : Option Record) (server : Server κ)
    (held : List Hold) (plan : Plan κ) : World κ → List (Act κ) → Outcome Hand → World κ → Prop :=
  Act.Walk schema source server held (plan.acts dest.isSome) (plan.start schema dest)

/-- A launch that runs a plan ends with what is made of the plan's course. -/
theorem outcome_run_iff {schema : Schema} {plan : Plan κ} {source : Record} {dest : Option Record}
    {server : Server κ} {held holds : List Hold} {world last : World κ} {f : Record → α}
    {reply : Outcome α} :
    Launch.outcome server held
        ((⟨holds, plan.run schema source dest⟩ : Launch κ Record).map f, world) =
        some (reply, last) ↔
      ∃ made outcome, plan.Course schema source dest server (holds ++ held) world made outcome
          last ∧
        outcome.map (fun hand => f hand.dest) = reply := by
  let acts := Act.runAll schema source (plan.acts dest.isSome) (plan.start schema dest)
  have mapped : Launch.outcome server held
      ((⟨holds, plan.run schema source dest⟩ : Launch κ Record).map f, world) =
      (Launch.outcome server held (⟨holds, acts⟩, world)).map fun ended =>
        (ended.1.map fun hand => f hand.dest, ended.2) := by
    simp only [Launch.map, run_eq_acts, Functor.map_map]
    exact Launch.outcome_map server held (fun hand => f hand.dest) (⟨holds, acts⟩, world)
  rw [mapped]
  simp only [acts, Option.map_eq_some_iff, Prod.exists, Prod.mk.injEq, Act.outcome_runAll]
  constructor
  · rintro ⟨outcome, _, ⟨made, walk⟩, same, rfl⟩
    exact ⟨made, outcome, walk, same⟩
  · rintro ⟨made, outcome, course, same⟩
    exact ⟨outcome, last, ⟨made, course⟩, same, rfl⟩

end Plan

end RecordMapping
