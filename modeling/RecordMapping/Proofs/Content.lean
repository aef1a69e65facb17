import RecordMapping.Expression
import RecordMapping.Proofs.Formation
import RecordMapping.Proofs.Trace

namespace RecordMapping

variable {κ α : Type}

def Property.StoresAt (property : Property Record) (key : String) : Prop :=
  property.set? = some fun record value => record.insert key value

/-- Every member of the type is kept under a key of its own. -/
def Layout.Flat (layout : Layout) : Prop :=
  ∀ member ∈ layout.members, ∃ field, member = .field field

theorem Layout.Flat.storesAt {schema : Schema} {slot : Slot} (flat : (schema.layout slot).Flat)
    {property : Property Record} (mem : property ∈ schema.properties slot)
    (writable : property.isWritable = true) : ∃ key, property.StoresAt key := by
  obtain ⟨member, declared, opened⟩ := List.mem_flatMap.mp mem
  obtain ⟨field, rfl⟩ := flat member declared
  obtain rfl := List.mem_singleton.mp opened
  have writes : field.access.writes = true := by
    simpa [Property.isWritable, Field.property] using writable
  exact ⟨field.key, by simp [Property.StoresAt, Field.property, writes]⟩

/-- Storing a value writes it once, and it is of the member's type. -/
theorem Property.eq_of_store {property : Property Record} {value : Erased} {dest out : Record}
    {server : Server κ} {held : List Hold} {world later : World κ}
    (stored : (property.store value dest).run.exec server held world =
      some (.ok (.ok out), later)) :
    value = ⟨property.valueType, value.value⟩ ∧
      out = (property.set?.map fun set => set dest value.value).getD dest := by
  unfold Property.store at stored
  obtain ⟨content, middle, checked, rest⟩ := Script.exec_run_bind_ok.mp stored
  rw [Script.exec_run_liftM] at checked
  have fits : value.valueAs property.valueType = .ok content := by
    simpa using congrArg (·.map (·.1)) checked
  obtain rfl := Erased.valueAs_eq_ok_iff.mp fits
  refine ⟨rfl, Eq.symm ?_⟩
  dsimp only at rest ⊢
  split at rest
  next =>
    obtain ⟨-, last, -, done⟩ := Script.exec_run_bind_ok.mp rest
    exact (by simpa using done : _ ∧ last = later).1
  next => exact (by simpa using rest : _ ∧ middle = later).1

theorem Property.StoresAt.get?_store {property : Property Record} {key : String}
    (stores : property.StoresAt key) {value : Erased} {dest out : Record} {server : Server κ}
    {held : List Hold} {world later : World κ}
    (stored : (property.store value dest).run.exec server held world =
      some (.ok (.ok out), later)) :
    value = ⟨property.valueType, value.value⟩ ∧ ∀ other,
      out.get? other = if key = other then some value.value else dest.get? other := by
  obtain ⟨typed, rfl⟩ := Property.eq_of_store stored
  refine ⟨typed, fun other => ?_⟩
  rw [stores]
  exact Record.get?_insert dest key other value.value

namespace Assignment

variable [Closures κ] {schema : Schema} {source : Record}

/-- What an assignment stores: the value of its source, carried through its converter. -/
def value (schema : Schema) (source : Record) (assignment : Assignment κ) :
    ExceptT MappingError (Script κ) Erased := do
  let value ← ExceptT.lift (assignment.source.evaluate schema source)
  assignment.converter.apply schema value

theorem run_eq (schema : Schema) (source dest : Record) (assignment : Assignment κ) :
    assignment.run schema source dest =
      assignment.value schema source >>= fun value => assignment.dest.store value dest := by
  simp [run, value]

/-- The assignment has yielded `content` in some session between `first` and `last`, and if it asks
for nothing then it yields the same in every session. -/
structure Yields (schema : Schema) (source : Record) (depth : Nat) (held : List Hold)
    (first last : World κ) (assignment : Assignment κ) (content : Value) : Prop where
  between : ∃ early world later late, World.History first early world ∧
    (assignment.value schema source).run.exec (World.answer depth) held world =
      some (.ok (.ok ⟨assignment.dest.valueType, content⟩), later) ∧
    World.History later late last
  everywhere : (assignment.value schema source).run.Quiet → ∀ server held world, ∃ later,
    (assignment.value schema source).run.exec server held world =
      some (.ok (.ok ⟨assignment.dest.valueType, content⟩), later)

section Run

variable {depth : Nat} {held : List Hold} {first last world later : World κ} {dest out : Record}
  {key : String}

/-- An assignment changes nothing but the key at which it stores what it yields. -/
theorem get?_run {assignment : Assignment κ} (stores : assignment.dest.StoresAt key)
    (ran : (assignment.run schema source dest).run.exec (World.answer depth) held world =
      some (.ok (.ok out), later)) :
    ∃ content, assignment.Yields schema source depth held world later content ∧
      ∀ other, out.get? other = if key = other then some content else dest.get? other := by
  rw [run_eq] at ran
  obtain ⟨erased, middle, yielded, stored⟩ := Script.exec_run_bind_ok.mp ran
  obtain ⟨typed, content⟩ := stores.get?_store stored
  have late := World.History.of_run stored
  rw [typed] at yielded
  refine ⟨erased.value, ⟨⟨_, world, middle, _, .start, yielded, late⟩, ?_⟩, content⟩
  intro quiet server holds start
  obtain ⟨ended, entries, writes⟩ := quiet.exec_writes
  obtain ⟨rfl, -⟩ := Prod.mk.inj (Option.some.inj ((writes _ _ _).symm.trans yielded))
  exact ⟨_, writes server holds start⟩

theorem Yields.within {assignment : Assignment κ} {content : Value} {start finish : World κ}
    {early late : List (Moment κ)}
    (yields : assignment.Yields schema source depth held start finish content)
    (before : World.History first early start) (after : World.History finish late last) :
    assignment.Yields schema source depth held first last content := by
  obtain ⟨past, world, later, rest, reach, yielded, onward⟩ := yields.between
  exact ⟨⟨_, world, later, _, before.trans reach, yielded, onward.trans after⟩, yields.everywhere⟩

theorem get?_runAll_of_untouched {assignments : List (Assignment κ)}
    (kept : ∀ assignment ∈ assignments, ∃ key, assignment.dest.StoresAt key)
    (untouched : ∀ assignment ∈ assignments, ¬ assignment.dest.StoresAt key)
    (ran : (runAll schema source assignments dest).run.exec (World.answer depth) held world =
      some (.ok (.ok out), later)) : out.get? key = dest.get? key := by
  induction assignments generalizing dest world with
  | nil =>
    have same : dest = out ∧ world = later := by simpa [runAll] using ran
    rw [same.1]
  | cons assignment rest ih =>
    obtain ⟨next, middle, now, afterwards⟩ := Script.exec_run_bind_ok.mp ran
    obtain ⟨place, stores⟩ := kept assignment List.mem_cons_self
    have apart : place ≠ key := by
      rintro rfl
      exact untouched assignment List.mem_cons_self stores
    obtain ⟨content, -, changed⟩ := get?_run stores now
    have later := ih (fun other mem => kept other (List.mem_cons_of_mem _ mem))
      (fun other mem => untouched other (List.mem_cons_of_mem _ mem)) afterwards
    rw [later, changed key, if_neg apart]

theorem get?_runAll_of_last {early late : List (Assignment κ)} {assignment : Assignment κ}
    (kept : ∀ other ∈ early ++ assignment :: late, ∃ key, other.dest.StoresAt key)
    (stores : assignment.dest.StoresAt key)
    (untouched : ∀ other ∈ late, ¬ other.dest.StoresAt key)
    (ran : (runAll schema source (early ++ assignment :: late) dest).run.exec
        (World.answer depth) held world =
      some (.ok (.ok out), later)) :
    ∃ content, assignment.Yields schema source depth held world later content ∧
      out.get? key = some content := by
  induction early generalizing dest world with
  | nil =>
    obtain ⟨next, middle, now, afterwards⟩ := Script.exec_run_bind_ok.mp ran
    obtain ⟨content, yields, changed⟩ := get?_run stores now
    have same := get?_runAll_of_untouched
      (fun other mem => kept other (List.mem_cons_of_mem _ mem)) untouched afterwards
    have onward := World.History.of_run afterwards
    exact ⟨content, yields.within .start onward, by rw [same, changed key, if_pos rfl]⟩
  | cons other early ih =>
    obtain ⟨next, middle, now, afterwards⟩ := Script.exec_run_bind_ok.mp ran
    have onward := World.History.of_run now
    obtain ⟨content, yields, found⟩ :=
      ih (fun other mem => kept other (List.mem_cons_of_mem _ mem)) afterwards
    exact ⟨content, yields.within onward .start, found⟩

end Run

end Assignment

namespace Plan

variable [Closures κ]

/-- The record that a run starts from: the one supplied, else what the constructor makes of the
source, else the default. -/
inductive Begins (schema : Schema) (source : Record) (depth : Nat) (held : List Hold)
    (first : World κ) (plan : Plan κ) : Option Record → Record → Prop where
  | supplied (given : Record) : Begins schema source depth held first plan (some given) given
  | constructed {constructor : κ} {value : Value} {later : World κ}
    (told : plan.constructor = some constructor)
    (made : (Closures.compute constructor (.record source)).exec (World.answer depth) held first =
      some (.ok value, later)) :
    Begins schema source depth held first plan none (schema.record plan.dest value)
  | default (untold : plan.constructor = none) :
    Begins schema source depth held first plan none (schema.default plan.dest)

/-- What a run leaves under a key: the last bound member that stores there decides, and if there is
none then the record keeps what it held. -/
structure Fills (schema : Schema) (source : Record) (depth : Nat) (held : List Hold)
    (first last : World κ) (plan : Plan κ) (initial out : Record) (key : String) : Prop where
  stored : ∀ early entry late, plan.bound = early ++ entry :: late →
    entry.2.dest.StoresAt key → (∀ other ∈ late, ¬ other.2.dest.StoresAt key) →
      ∃ content, entry.2.Yields schema source depth held first last content ∧
        out.get? key = some content
  untouched : (∀ entry ∈ plan.bound, ¬ entry.2.dest.StoresAt key) →
    out.get? key = initial.get? key

variable {schema : Schema} {plan : Plan κ} {source : Record} {dest : Option Record} {out : Record}
  {depth : Nat} {held : List Hold} {first last : World κ}

theorem begins_of_exec {initial : Record} {middle : World κ}
    (begun : (dest.elim (plan.create schema source) pure).exec (World.answer depth) held first =
      some (.ok initial, middle)) : plan.Begins schema source depth held first dest initial := by
  cases dest with
  | some given =>
    obtain rfl : given = initial := (by simpa using begun : given = initial ∧ first = middle).1
    exact .supplied given
  | none =>
    simp only [Option.elim_none, create] at begun
    split at begun
    next constructor told =>
      have bound := Script.exec_bind (World.answer depth) held
        (Closures.compute constructor (.record source))
        (fun value => pure (schema.record plan.dest value)) first
      have ended := bound.symm.trans begun
      split at ended
      next value last made =>
        obtain rfl := (by simpa using ended : schema.record plan.dest value = initial ∧ _).1
        exact .constructed told made
      next => simp at ended
      next => simp at ended
    next untold =>
      obtain rfl := (by simpa using begun : schema.default plan.dest = initial ∧ first = middle).1
      exact .default untold

/-- A run without hooks only begins and carries out the assignments. -/
theorem run_of_no_hooks (before : plan.before = none) (after : plan.after = none) :
    plan.run schema source dest =
      ExceptT.lift (dest.elim (plan.create schema source) pure) >>=
        Assignment.runAll schema source plan.assignments := by
  simp [run, before, after, amend]

theorem Fits.fills {P : Assignment κ → Prop} (fits : plan.Fits P)
    (kept : ∀ assignment, P assignment → ∃ key, assignment.dest.StoresAt key)
    (before : plan.before = none) (after : plan.after = none)
    (ran : (plan.run schema source dest).run.exec (World.answer depth) held first =
      some (.ok (.ok out), last)) :
    ∃ initial, plan.Begins schema source depth held first dest initial ∧
      ∀ key, plan.Fills schema source depth held first last initial out key := by
  rw [run_of_no_hooks before after] at ran
  obtain ⟨initial, middle, made, ran⟩ := Script.exec_run_bind_ok.mp ran
  have begun := Script.exec_run_lift_ok.mp made
  have reach := World.History.of_run begun
  have bound : plan.bound.map (·.2) = plan.assignments := fits.unzip_bound.2
  have stored : ∀ assignment ∈ plan.assignments, ∃ key, assignment.dest.StoresAt key :=
    fun assignment mem => kept assignment (fits.of_mem_assignments mem)
  refine ⟨initial, begins_of_exec begun, fun key => ⟨?_, ?_⟩⟩
  · intro early entry late split stores untouched
    have listed : plan.assignments = early.map (·.2) ++ entry.2 :: late.map (·.2) := by
      rw [← bound, split, List.map_append, List.map_cons]
    rw [listed] at ran stored
    have late' : ∀ other ∈ late.map (·.2), ¬ other.dest.StoresAt key := by
      intro other mem
      obtain ⟨entry, bound, rfl⟩ := List.mem_map.mp mem
      exact untouched entry bound
    obtain ⟨content, yields, found⟩ := Assignment.get?_runAll_of_last stored stores late' ran
    exact ⟨content, yields.within reach .start, found⟩
  · intro untouched
    refine Assignment.get?_runAll_of_untouched stored (fun other mem => ?_) ran
    rw [← bound] at mem
    obtain ⟨entry, bound, rfl⟩ := List.mem_map.mp mem
    exact untouched entry bound

end Plan

/-- The assignment ends in a writable member of the slot. -/
def Assignment.Lands (schema : Schema) (slot : Slot) (assignment : Assignment κ) : Prop :=
  assignment.dest ∈ schema.properties slot ∧ assignment.dest.isWritable = true

namespace World

theorem afterwards_lands {world : World κ} {id : MapperId} {mapper : Mapper κ}
    (fits : mapper.Fits (Assignment.Lands world.schema mapper.dest))
    (action : Option (Mapper.Action κ)) :
    let later := world.afterwards id mapper action
    later.Fits (Assignment.Lands world.schema later.dest) := by
  cases action with
  | none => exact fits
  | some action =>
    have slots := action.perform_slots world.schema
      (Surroundings.dialogue world.schema mapper.service) id mapper world.surroundings
    simp only [afterwards, performed, slots.2.1]
    exact fits.perform (fun _ offers => ⟨offers.declared, offers.writable⟩) action

variable [Closures κ]

/-- Whatever a mapper of a session assigns ends in a writable member of its destination. -/
theorem Reachable.lands {world : World κ} (reachable : world.Reachable) {id : MapperId}
    {mapper : Mapper κ} (found : world.mappers[id]? = some mapper) :
    mapper.Fits (Assignment.Lands world.schema mapper.dest) := by
  obtain ⟨schema, tracing, past, history⟩ := reachable
  induction history generalizing mapper with
  | start => simp [initial] at found
  | write entry _ ih => exact ih found
  | clear _ ih => exact ih found
  | @serve past world held request _ ih =>
    rw [serve_schema]
    cases before : world.mappers[id]? with
    | some earlier =>
      rw [serve_mapper before] at found
      obtain rfl := Option.some.inj found
      exact afterwards_lands (ih before) _
    | none =>
      obtain ⟨source, dest, service, rfl⟩ := (serve_fresh before held request).2 mapper found
      exact .new source dest service

/-- A mapping that yields a record is a run of the mapper's plan. -/
theorem runMapper_ok {world last : World κ} {id : MapperId} {mapper : Mapper κ}
    {source out : Record} {dest : Option Record} {server : Server κ} {held : List Hold}
    (ends : Launch.outcome server held (world.runMapper id mapper source dest) =
      some (.ok out, last)) :
    ∃ plan built, world.compile id mapper = (.ok plan, built) ∧
      (plan.run world.schema source dest).run.exec server (.mapper id :: held) built =
        some (.ok (.ok out), last) := by
  unfold runMapper at ends
  split at ends
  next plan built compiled =>
    have same : built.schema = world.schema :=
      (congrArg (·.2.schema) compiled).symm
    obtain ⟨ended, ran, reply⟩ := Option.map_eq_some_iff.mp ends
    obtain ⟨done, rfl⟩ := Prod.mk.inj reply
    obtain ⟨ended, last⟩ := ended
    obtain rfl := Outcome.ofRun_eq_ok.mp done
    rw [same] at ran
    exact ⟨plan, built, compiled, ran⟩
  next cause built compiled => simp [Launch.outcome_now] at ends
  next text built compiled => simp [Launch.outcome_now] at ends

/-- A mapper without hooks, whose destination keeps each member under a key of its own, leaves under
every key what the last bound member stored there, and else what the record held at first. -/
theorem content_of_mapped {world : World κ} (reachable : world.Reachable) {depth : Nat}
    {held : List Hold} {request : Request κ} {id : MapperId} {mapper : Mapper κ} {value : Value}
    {dest : Option Value} {out : Record} {last : World κ}
    (found : world.mappers[id]? = some mapper)
    (flat : (world.schema.layout mapper.dest).Flat)
    (before : mapper.config.before = none) (after : mapper.config.after = none)
    (addresses : world.Addresses request (.mapper id (.map value dest)))
    (answered : world.answer (depth + 1) held request = some (.ok (.value (.record out)), last)) :
    let source := world.schema.record mapper.source value
    let given := dest.map (world.schema.record mapper.dest)
    ∃ plan built initial, world.compile id mapper = (.ok plan, built) ∧
      plan.bound.map (·.1) = (plan.bindings.filter fun binding => binding.kind ≠ .ignored) ∧
      plan.bound.map (·.2) = plan.assignments ∧
      (∀ entry ∈ plan.bound, entry.1.name = entry.2.dest.name ∧
        entry.1.source = some entry.2.source.label ∧
        entry.2.Lands world.schema mapper.dest) ∧
      plan.Begins world.schema source depth (.mapper id :: held) built given initial ∧
      ∀ key, plan.Fills world.schema source depth (.mapper id :: held) built last initial out
        key := by
  intro source given
  rw [addresses.answer (depth + 1) held] at answered
  simp only [answer_succ_eq, serve, found, callMapper, Launch.outcome_map] at answered
  obtain ⟨⟨outcome, later⟩, ends, same⟩ := Option.map_eq_some_iff.mp answered
  obtain ⟨rfl, rfl⟩ : outcome = .ok out ∧ later = last := by
    cases outcome <;> simp_all [Outcome.map]
  obtain ⟨plan, built, compiled, ran⟩ := runMapper_ok ends
  have suits : plan.Suits (Assignment.Lands world.schema mapper.dest) mapper :=
    ((reachable.lands found).compile fun _ offers => ⟨offers.declared, offers.writable⟩).2
      plan (congrArg Prod.fst compiled)
  have aligned := suits.fits.unzip_bound
  obtain ⟨initial, begins, fills⟩ := suits.fits.fills
    (fun assignment lands => flat.storesAt lands.1 lands.2) (suits.before before)
    (suits.after after) ran
  refine ⟨plan, built, initial, compiled, aligned.1, aligned.2, fun entry mem => ?_, ?_, ?_⟩
  · have bound := suits.fits.of_mem_bound mem
    exact bound.2
  · exact begins
  · exact fills

end World

/-- A destination type with two members under one key, and a third that cannot be written. -/
def Schema.crowded : Schema where
  layout
    | 0 => ⟨[.field ⟨"a", .i32, .readWrite, "a", false⟩,
        .field ⟨"b", .i32, .readWrite, "b", false⟩,
        .field ⟨"c", .i32, .readWrite, "c", false⟩], []⟩
    | 1 => ⟨[.field ⟨"a", .i32, .readWrite, "k", false⟩,
        .field ⟨"b", .i32, .readWrite, "k", false⟩,
        .field ⟨"c", .i32, .readOnly, "c", false⟩], []⟩
    | _ => ⟨[], []⟩

/-- The later of the two members is what stays under their key, and the third keeps its content. -/
theorem content_of_crowded :
    let world : World Closure := (World.initial .crowded false).after [.newMapper "m" 0 1 none]
    let source : Record := [("a", .int 1), ("b", .int 2), ("c", .int 3)]
    let dest : Record := [("k", .int 0), ("c", .int 9)]
    let out : Record := [("k", .int 2), ("c", .int 9)]
    ∃ last plan built,
      world.answer 2 [] (.operation (.mapper "m" (.map (.record source) (some (.record dest))))) =
        some (.ok (.value (.record out)), last) ∧
      world.compile 0 (.new 0 1 (.table 0)) = (.ok plan, built) ∧
      ∀ key, plan.Fills .crowded source 1 [.mapper 0] built last dest out key := by
  intro world source dest out
  have reachable : world.Reachable :=
    ⟨.crowded, false, _, .of_operations _ [.newMapper "m" 0 1 none]⟩
  have found : world.mappers[0]? = some (.new 0 1 (.table 0)) := rfl
  have flat : (Schema.crowded.layout 1).Flat := by
    simp [Layout.Flat, Schema.crowded]
  have addresses : world.Addresses
      (.operation (.mapper "m" (.map (.record source) (some (.record dest)))))
      (.mapper 0 (.map (.record source) (some (.record dest)))) := .mapper _ rfl rfl
  have replied : (world.answer 2 []
      (.operation (.mapper "m" (.map (.record source) (some (.record dest)))))).map (·.1) =
        some (.ok (.value (.record out))) := by decide +kernel
  obtain ⟨⟨_, last⟩, answered, rfl⟩ := Option.map_eq_some_iff.mp replied
  obtain ⟨plan, built, initial, compiled, _, _, _, begins, fills⟩ :=
    World.content_of_mapped reachable found flat rfl rfl addresses answered
  cases begins
  exact ⟨last, plan, built, answered, compiled, fills⟩

end RecordMapping
