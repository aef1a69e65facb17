import RecordMapping.Proofs.Grounding

namespace RecordMapping

variable {κ α : Type}

/-- An invariant of the session goes through the run of a script that keeps to certain requests, if
every answer to these keeps it. -/
theorem Script.exec_keeps {server : Server κ}
    {inner : World κ → List Hold → Request κ → List (Moment κ)} {held : List Hold}
    {P : World κ → Prop} {Q : Moment κ → Prop} {R : Request κ → Prop}
    (write : ∀ world entry, P world → P (world.write entry))
    (answered : ∀ world request reply later, P world → R request →
      server world held request = some (reply, later) →
        P later ∧ ∀ moment ∈ inner world held request, Q moment)
    {script : Script κ α} (only : script.Only R) {world later : World κ} {ended : Except String α}
    (before : P world) (ends : script.exec server held world = some (ended, later)) :
    P later ∧ ∀ moment ∈ script.trace server inner held world, Q moment := by
  induction only generalizing world with
  | done result =>
    obtain ⟨-, rfl⟩ := Prod.mk.inj (Option.some.inj ends)
    exact ⟨before, by simp [trace]⟩
  | panic text =>
    obtain ⟨-, rfl⟩ := Prod.mk.inj (Option.some.inj ends)
    exact ⟨before, by simp [trace]⟩
  | log entry _ ih => exact ih (write world entry before) ends
  | @call request next asks _ ih =>
    simp only [exec] at ends
    cases served : server world held request with
    | none => simp [served] at ends
    | some replied =>
      rw [served] at ends
      obtain ⟨middle, early⟩ := answered _ _ _ _ before asks served
      obtain ⟨after, late⟩ := ih replied.1 middle ends
      refine ⟨after, ?_⟩
      simp only [trace, served, List.forall_mem_append]
      exact ⟨early, late⟩

theorem List.cons_suffix_append {late early : List α} {item : α} {rest : List α}
    (suffix : item :: rest <:+ early ++ late) :
    (∃ front, rest = front ++ late ∧ item :: front <:+ early) ∨ item :: rest <:+ late := by
  obtain shorter | longer := List.suffix_or_suffix_of_suffix suffix (List.suffix_append early late)
  · exact .inr shorter
  · rcases List.suffix_cons_iff.mp longer with rfl | ⟨front, rfl⟩
    · exact .inr (List.suffix_refl _)
    · obtain ⟨before, split⟩ := suffix
      refine .inl ⟨front, rfl, before, (List.append_left_inj late).mp ?_⟩
      simpa using split

/-- So it does from a moment on at which it has come to hold. -/
theorem Script.exec_rest {server : Server κ}
    {inner : World κ → List Hold → Request κ → List (Moment κ)} {held : List Hold}
    {P : World κ → Prop} {Q : Moment κ → Prop} {R : Request κ → Prop}
    (write : ∀ world entry, P world → P (world.write entry))
    (answered : ∀ world request reply later, P world → R request →
      server world held request = some (reply, later) →
        P later ∧ ∀ moment ∈ inner world held request, Q moment)
    {now : Moment κ}
    (rest : ∀ world request reply later after, R request →
      server world held request = some (reply, later) → now :: after <:+ inner world held request →
        P later ∧ ∀ moment ∈ after, Q moment)
    {script : Script κ α} (only : script.Only R) {world later : World κ} {ended : Except String α}
    (ends : script.exec server held world = some (ended, later)) {after : List (Moment κ)}
    (from_now : now :: after <:+ script.trace server inner held world) :
    P later ∧ ∀ moment ∈ after, Q moment := by
  induction only generalizing world after with
  | done | panic => simp [trace] at from_now
  | log entry _ ih => exact ih ends from_now
  | @call request next asks only ih =>
    simp only [exec] at ends
    cases served : server world held request with
    | none => simp [served] at ends
    | some replied =>
      rw [served] at ends
      simp only [trace, served] at from_now
      obtain ⟨front, rfl, inside⟩ | beyond := List.cons_suffix_append from_now
      · obtain ⟨middle, early⟩ := rest _ _ _ _ _ asks served inside
        obtain ⟨after, late⟩ := exec_keeps write answered (only replied.1) middle ends
        exact ⟨after, List.forall_mem_append.mpr ⟨early, late⟩⟩
      · exact ih replied.1 ends beyond

namespace OrderedMap

variable {α β : Type} [DecidableEq α]

theorem mem_insert {map : OrderedMap α β} {key : α} {value : β} {entry : α × β}
    (mem : entry ∈ (map.insert key value).entries) : entry = (key, value) ∨ entry ∈ map.entries :=
  mem_store mem

theorem mem_erase {map : OrderedMap α β} {key : α} {entry : α × β}
    (mem : entry ∈ (map.erase key).entries) : entry ∈ map.entries :=
  (List.mem_filter.mp mem).1

end OrderedMap

/-- A deed adds no entry but the one that it enrolls. -/
theorem Registry.Deed.listed {deed : Registry.Deed κ} {registry : Registry κ}
    {entry : (ValueType × ValueType) × Entry κ}
    (mem : entry ∈ (deed.onto registry).entries.entries) :
    entry ∈ registry.entries.entries ∨ deed = .enroll entry.2 := by
  cases deed with
  | enroll new =>
    simp only [onto, register, guarded] at mem
    split at mem
    next => exact .inl mem
    next =>
      rcases OrderedMap.mem_insert mem with rfl | old
      · exact .inr rfl
      · exact .inl old
  | remove pair =>
    simp only [onto, Registry.remove, guarded] at mem
    split at mem
    next => exact .inl mem
    next => exact .inl (OrderedMap.mem_erase mem)
  | list =>
    simp only [onto, pairs, guarded, reported] at mem
    split at mem
    next => exact .inl mem
    next =>
      split at mem <;> exact .inl mem

namespace World

variable {world : World κ} {held : List Hold} {request : Request κ} {id : MapperId}

section Turn

variable {deed : Option (Nat × Registry.Deed κ)} {conversion : Option (Conversion κ)}
  {stock : Stock κ}

/-- Where a handle comes from that there is after a request. -/
inductive Origin (world : World κ) (request : Request κ) : Handle κ → Prop where
  | plain {handle : Handle κ} (plain : handle.plain = true) : Origin world request handle
  | before {name : String} {handle : Handle κ} (named : (name, handle) ∈ world.handles.entries) :
    Origin world request handle
  | erased {id : MapperId} {name : String}
    (asks : world.Addresses request (.mapper id (.keepErased name))) :
    Origin world request (.erasedMapper id)
  | newMapper : Origin world request (.mapper world.mappers.length)
  | newRegistry : Origin world request (.registry world.registries.length)

theorem Turn.origin (turn : world.Turn request deed conversion stock) {name : String}
    {handle : Handle κ} (named : (name, handle) ∈ stock.handles.entries) :
    world.Origin request handle := by
  have kept {other : String} {new : Handle κ} (origin : world.Origin request new)
      (mem : (name, handle) ∈ (world.handles.insert other new).entries) :
      world.Origin request handle := by
    rcases OrderedMap.mem_insert mem with same | old
    · exact (Prod.mk.inj same).2 ▸ origin
    · exact .before old
  cases turn with
  | rest | deed | convert => exact .before named
  | keep plain => exact kept (.plain plain) named
  | copy other => exact kept (.before (OrderedMap.mem_of_get? other)) named
  | erased asks found => exact kept (.erased asks) named
  | drop => exact .before (OrderedMap.mem_erase named)
  | newTable => exact kept (.plain rfl) named
  | newMapper => exact kept .newMapper named
  | newRegistry => exact kept .newRegistry named

/-- An entry that a registry has after a request was there before, or is enrolled now. -/
theorem Turn.listed (turn : world.Turn request deed conversion stock) {registry : Nat}
    {entry : (ValueType × ValueType) × Entry κ}
    (mem : entry ∈ (stock.registries.getD registry default).entries.entries) :
    entry ∈ (world.registry registry).entries.entries ∨
      deed = some (registry, .enroll entry.2) := by
  cases turn with
  | rest | keep | copy | erased | drop | newTable | newMapper | convert => exact .inl mem
  | newRegistry =>
    refine .inl ?_
    rw [World.registry]
    simp only [Stock.keep, List.getD_eq_getElem?_getD, List.getElem?_append] at mem ⊢
    split at mem
    next => exact mem
    next beyond =>
      have empty :
          ([default] : List (Registry κ))[registry - world.registries.length]?.getD default =
            default := by
        cases registry - world.registries.length <;> rfl
      rw [empty] at mem
      exact absurd mem List.not_mem_nil
  | @deed other done =>
    by_cases here : other = registry
    · subst here
      by_cases bound : other < world.registries.length
      · have entered : entry ∈ (done.onto (world.registry other)).entries.entries := by
          simpa [List.getD_eq_getElem?_getD, bound] using mem
        exact (Registry.Deed.listed entered).imp_right fun same => by rw [same]
      · rw [List.set_eq_of_length_le (by omega)] at mem
        exact .inl mem
    · refine .inl ?_
      rw [World.registry]
      simpa [List.getD_eq_getElem?_getD, List.getElem?_set_ne here] using mem

end Turn

theorem Turn.converter {deed : Option (Nat × Registry.Deed κ)} {conversion : Option (Conversion κ)}
    {stock : Stock κ} (turn : world.Turn request deed conversion stock) {table : Nat}
    {types : ValueType × ValueType} {converter : Converter κ}
    (entered : (world.surroundings.table table).converters.get? types = some converter)
    (other : ∀ new, conversion = some new → new.table = table → (new.source, new.dest) ≠ types) :
    (stock.tables.getD table default).converters.get? types = some converter := by
  have appended (fresh : List (Conversions κ)) :
      ((world.surroundings.tables ++ fresh).getD table default).converters.get? types =
        some converter := by
    have made : table < world.surroundings.tables.length := by
      refine Nat.lt_of_not_le fun beyond => ?_
      have empty : (world.surroundings.table table).converters.get? types = none := by
        rw [Surroundings.table, List.getD_eq_getElem?_getD, List.getElem?_eq_none beyond]
        rfl
      simp [empty] at entered
    rw [List.getD_eq_getElem?_getD, List.getElem?_append_left made, ← List.getD_eq_getElem?_getD]
    exact entered
  cases turn with
  | rest | keep | copy | erased | drop | newRegistry | deed => exact entered
  | newTable | newMapper => exact appended _
  | @convert new =>
    by_cases here : new.table = table
    · have apart := other new rfl here
      subst here
      by_cases bound : new.table < world.surroundings.tables.length
      · simpa [List.getD_eq_getElem?_getD, bound, Conversions.register, apart] using entered
      · rw [List.set_eq_of_length_le (by omega)]
        exact entered
    · simpa [List.getD_eq_getElem?_getD, List.getElem?_set_ne here, Surroundings.table]
        using entered

/-- A mapper is enrolled by its own handle, and for its own types. -/
theorem named_of_enroll {registry : Nat} {source dest : Slot}
    (enrolls : world.deed? request = some (registry, .enroll (.mapper id source dest))) :
    (∃ name, (name, .mapper id) ∈ world.handles.entries) ∧
      world.slots? id = some (source, dest) := by
  have named {call : Registry.Call κ}
      (deed : world.callDeed? call = some (.enroll (.mapper id source dest))) :
      (∃ name, (name, .mapper id) ∈ world.handles.entries) ∧
        world.slots? id = some (source, dest) := by
    obtain ⟨name, other, mapper, -, named, found, same⟩ | ⟨double, -, same⟩ | ⟨custom, -, same⟩ :=
      enroll_cases deed
    · obtain ⟨rfl, rfl, rfl⟩ := Entry.mapper.inj same
      exact ⟨⟨name, OrderedMap.mem_of_get? named⟩, by simp [slots?, found]⟩
    · simp at same
    · simp at same
  unfold deed? at enrolls
  split at enrolls
  next name call =>
    split at enrolls
    next other _ =>
      obtain ⟨deed, called, same⟩ := Option.map_eq_some_iff.mp enrolls
      exact named ((Prod.mk.inj same).2 ▸ called)
    next => simp at enrolls
  next name =>
    split at enrolls <;> simp at enrolls
  next other call =>
    obtain ⟨deed, called, same⟩ := Option.map_eq_some_iff.mp enrolls
    exact named ((Prod.mk.inj same).2 ▸ called)
  next => simp at enrolls

/-- The mapper was there for a pair of slots, but has no owner any more. -/
structure Gone (world : World κ) (held : List Hold) (id : MapperId) (pair : Slot × Slot) :
    Prop where
  known : world.slots? id = some pair
  unowned : ¬ world.Owned held id

variable {pair : Slot × Slot} {depth : Nat}

theorem Gone.found (gone : world.Gone held id pair) :
    ∃ mapper, world.mappers[id]? = some mapper ∧ (mapper.source, mapper.dest) = pair :=
  Option.map_eq_some_iff.mp gone.known

theorem Gone.mono {held' : List Hold} (gone : world.Gone held' id pair) (subset : held ⊆ held') :
    world.Gone held id pair :=
  ⟨gone.known, fun owned => gone.unowned (owned.mono subset)⟩

theorem Gone.of_same {other : World κ} (gone : world.Gone held id pair)
    (mappers : other.mappers = world.mappers) (handles : other.handles = world.handles)
    (registries : other.registries = world.registries) : other.Gone held id pair where
  known := by
    rw [slots?, mappers]
    exact gone.known
  unowned owned :=
    gone.unowned (owned.of_handles (fun _ _ _ named => handles ▸ named) registries.symm)

section Serve

variable [Closures κ]

/-- A request that is grounded gives no mapper an owner that had none. -/
theorem Gone.serve [Closures.Grounded κ] (gone : world.Gone held id pair)
    (grounded : request.Grounded held) :
    (world.serve held request).2.Gone ((world.serve held request).1.holds ++ held) id pair := by
  refine ⟨slots?_serve gone.known, fun owned => gone.unowned ?_⟩
  have turn := world.serve_turn held request
  have proper : (world.serve held request).1.Proper world held := serve_proper grounded
  obtain ⟨mapper, found, -⟩ := gone.found
  have made := (List.getElem?_eq_some_iff.mp found).1
  cases owned with
  | @handle name named =>
    cases turn.origin named with
    | plain plain => simp [Handle.plain] at plain
    | before named => exact .handle named
    | newMapper => omega
  | @erased name named =>
    cases turn.origin named with
    | plain plain => simp [Handle.plain] at plain
    | before named => exact .erased named
    | erased asks =>
      cases asks with
      | itself => exact .running grounded
      | mapper _ names => exact .handle (OrderedMap.mem_of_get? names)
  | @entry registry pair source dest kept listed =>
    rcases turn.listed listed with before | enrolls
    · refine .entry ?_ before
      cases kept with
      | running holds =>
        rcases List.mem_append.mp holds with launched | holds
        · cases proper.holds _ launched with
          | registry kept => exact kept
        · exact .running holds
      | handle named =>
        cases turn.origin named with
        | plain plain => simp [Handle.plain] at plain
        | before named => exact .handle named
        | newRegistry =>
          -- A registry that is made now had no entries.
          rw [World.registry, List.getD_eq_getElem?_getD,
            List.getElem?_eq_none (Nat.le_refl _)] at before
          exact absurd before List.not_mem_nil
    · obtain ⟨⟨name, named⟩, -⟩ := named_of_enroll enrolls
      exact .handle named
  | running holds =>
    rcases List.mem_append.mp holds with launched | holds
    · cases proper.holds _ launched with
      | mapper owned => exact owned
    · exact .running holds

/-- Nor does anything that the request sets going. -/
theorem Gone.answer [Closures.Grounded κ] (gone : world.Gone held id pair)
    (grounded : request.Grounded held) {reply : Reply} {later : World κ}
    (answered : world.answer depth held request = some (reply, later)) :
    later.Gone held id pair ∧
      ∀ moment ∈ world.trace depth held request, moment.world.Gone moment.held id pair := by
  induction depth generalizing world held request reply later with
  | zero => simp [World.answer] at answered
  | succ depth ih =>
    obtain ⟨ended, ends, -⟩ := answer_eq_some.mp answered
    have proper : (world.serve held request).1.Proper world held := serve_proper grounded
    have only := proper.script.mono fun _ grounded =>
      grounded.mono (List.subset_append_left _ held)
    have deeper (holds : List Hold) (start : World κ) (asked : Request κ) (reply : Reply)
        (next : World κ) (gone : start.Gone holds id pair) (grounded : asked.Grounded holds)
        (served : World.answer depth start holds asked = some (reply, next)) :
        next.Gone holds id pair ∧
          ∀ moment ∈ trace depth start holds asked, moment.world.Gone moment.held id pair :=
      ih gone grounded served
    obtain ⟨after, moments⟩ := Script.exec_keeps (fun _ _ gone => gone.of_same rfl rfl rfl)
      (deeper _) only (gone.serve grounded) ends
    exact ⟨after.mono (List.subset_append_right _ _), List.forall_mem_cons.mpr ⟨gone, moments⟩⟩

/-- From the moment at which it loses its last owner, a mapper is gone for the rest of the request
that is being answered. -/
theorem Gone.rest [Closures.Grounded κ] {start later : World κ} {base : List Hold}
    {asked : Request κ} {reply : Reply} (grounded : asked.Grounded base)
    (answered : start.answer depth base asked = some (reply, later)) {after : List (Moment κ)}
    (from_now : ⟨world, held, request⟩ :: after <:+ start.trace depth base asked)
    (gone : world.Gone held id pair) :
    later.Gone base id pair ∧ ∀ moment ∈ after, moment.world.Gone moment.held id pair := by
  induction depth generalizing start base asked reply later after with
  | zero => simp [World.answer] at answered
  | succ depth ih =>
    rcases List.suffix_cons_iff.mp from_now with first | inner
    · obtain ⟨same, rfl⟩ := List.cons.inj first
      obtain ⟨rfl, rfl, rfl⟩ := Moment.mk.inj same
      obtain ⟨ended, moments⟩ := gone.answer grounded answered
      exact ⟨ended, fun moment mem => moments moment (List.mem_cons_of_mem _ mem)⟩
    · obtain ⟨ended, ends, -⟩ := answer_eq_some.mp answered
      have proper : (start.serve base asked).1.Proper start base := serve_proper grounded
      have only := proper.script.mono fun _ grounded =>
        grounded.mono (List.subset_append_left _ base)
      obtain ⟨ended, moments⟩ := Script.exec_rest (fun _ _ gone => gone.of_same rfl rfl rfl)
        (fun _ _ _ _ gone grounded served => gone.answer grounded served)
        (fun _ _ _ _ _ grounded served inside => ih grounded served inside) only ends inner
      exact ⟨ended.mono (List.subset_append_right _ _), moments⟩

theorem Gone.serve_convert (gone : world.Gone held id pair) (input : Erased) :
    world.serve held (.convert id input) =
      (.now (.error (.mapperDropped (Slot.typeName pair.1) (Slot.typeName pair.2))), world) := by
  obtain ⟨mapper, found, rfl⟩ := gone.found
  exact serve_convert_of_dead found (alive_eq_false_iff.mpr gone.unowned) input

/-- Operations performed one after another, the moments of their runs, and the session in the
end. -/
inductive Performed (first : World κ) : List (Moment κ) → World κ → Prop where
  | start : Performed first [] first
  | operate {past : List (Moment κ)} {world later : World κ} (depth : Nat)
    {operation : Operation κ} {reply : Reply} (before : Performed first past world)
    (replied : world.operate depth operation = some (reply, later)) :
    Performed first (past ++ world.clearLog.trace depth [] (.operation operation)) later

/-- Once a mapper is gone, it is gone for good. -/
theorem Gone.performed [Closures.Grounded κ] {last : World κ} {past : List (Moment κ)}
    (gone : world.Gone [] id pair) (performed : Performed world past last) :
    last.Gone [] id pair ∧ ∀ moment ∈ past, moment.world.Gone moment.held id pair := by
  induction performed with
  | start => exact ⟨gone, by simp⟩
  | @operate _ last _ depth operation _ _ replied ih =>
    have cleared : last.clearLog.Gone [] id pair := ih.1.of_same rfl rfl rfl
    have grounded : (Request.operation operation).Grounded [] := trivial
    obtain ⟨after, inner⟩ := cleared.answer grounded replied
    exact ⟨after, List.forall_mem_append.mpr ⟨ih.2, inner⟩⟩

/-- What is held when a request is served is held all along. -/
theorem held_of_trace {moment : Moment κ} (mem : moment ∈ world.trace depth held request) :
    held ⊆ moment.held := by
  induction depth generalizing world held request with
  | zero => simp [trace] at mem
  | succ depth ih =>
    rcases List.mem_cons.mp mem with rfl | inner
    · exact List.Subset.refl _
    · exact List.Subset.trans (List.subset_append_right _ _) (held_of_script ih inner)
where
  held_of_script {depth : Nat} {moment : Moment κ}
      (nested : ∀ {world : World κ} {held : List Hold} {request : Request κ},
        moment ∈ world.trace depth held request → held ⊆ moment.held)
      {α : Type} {script : Script κ α} {held : List Hold} {world : World κ}
      (mem : moment ∈ script.trace (answer depth) (trace depth) held world) :
      held ⊆ moment.held := by
    induction script generalizing world with
    | done result | panic text => simp [Script.trace] at mem
    | log entry next ih => exact ih mem
    | call request next ih =>
      simp only [Script.trace, List.mem_append] at mem
      rcases mem with now | later
      · exact nested now
      · split at later
        next reply middle served => exact ih reply later
        next => simp at later

end Serve

end World

def Moment.Registers (table : Nat) (types : ValueType × ValueType) (moment : Moment κ) : Prop :=
  ∃ new, moment.world.conversion? moment.request = some new ∧ new.table = table ∧
    (new.source, new.dest) = types

def Mapper.dropped (mapper : Mapper κ) : MappingError :=
  .mapperDropped (Slot.typeName mapper.source) (Slot.typeName mapper.dest)

namespace World

variable [Closures κ] {world last : World κ} {held : List Hold} {past : List (Moment κ)}
  {id : MapperId} {mapper : Mapper κ}

/-- A table keeps its converter for two types until another is registered for them. -/
theorem History.converter (history : History world past last) {table : Nat}
    {types : ValueType × ValueType} {converter : Converter κ}
    (entered : (world.surroundings.table table).converters.get? types = some converter)
    (quiet : ∀ moment ∈ past, ¬ moment.Registers table types) :
    (last.surroundings.table table).converters.get? types = some converter := by
  induction history with
  | start => exact entered
  | write entry _ ih => exact ih quiet
  | clear _ ih => exact ih quiet
  | @serve past middle held request _ ih =>
    obtain ⟨before, now⟩ := List.forall_mem_append.mp quiet
    refine (middle.serve_turn held request).converter (ih before) fun new told table types => ?_
    exact now _ (List.mem_singleton_self _) ⟨new, told, table, types⟩

theorem answer_convert_of_owned (found : world.mappers[id]? = some mapper)
    (owned : world.Owned held id) (depth : Nat) (input : Erased) :
    world.answer (depth + 1) held (.convert id input) =
      (Launch.outcome (answer depth) held (world.runErased id mapper input)).map
        fun ended => (ended.1.map .erased, ended.2) :=
  (Erases.nested (alive_iff.mpr owned)).answer found

theorem answer_convert_of_unowned (found : world.mappers[id]? = some mapper)
    (unowned : ¬ world.Owned held id) (depth : Nat) (input : Erased) :
    world.answer (depth + 1) held (.convert id input) = some (.error mapper.dropped, world) := by
  rw [answer_succ_eq, serve_convert_of_dead found (alive_eq_false_iff.mpr unowned)]
  exact Launch.outcome_now _ _ _ _

/-- What a converter that nests the mapper comes to is what the mapper is answered with. -/
theorem outcome_apply_nested (found : world.mappers[id]? = some mapper) (depth : Nat)
    (input : Erased) :
    (Launch.outcome (answer depth) held
        (⟨[], (Converter.nested id).apply world.schema input⟩, world)).map
          (fun ended => (ended.1.map Answer.erased, ended.2)) =
      world.answer depth held (.convert id input) := by
  have applied : Launch.outcome (answer depth) held
      (⟨[], (Converter.nested id).apply world.schema input⟩, world) =
        ((world.answer depth held (.convert id input)).bind fun replied =>
          (Converter.received replied.1).exec (answer depth) held replied.2).map
            fun ended => (.ofRun ended.1, ended.2) := by
    refine congrArg (Option.map _) ?_
    change (Script.call (.convert id input) Converter.received).exec (answer depth) held world = _
    simp only [Script.exec]
    cases world.answer depth held (.convert id input) <;> rfl
  rw [applied]
  cases depth with
  | zero => rfl
  | succ depth =>
    by_cases owned : world.Owned held id
    · rw [answer_convert_of_owned found owned]
      rcases Launch.outcome (answer depth) held (world.runErased id mapper input) with
        _ | ⟨_ | _ | _, later⟩ <;> rfl
    · rw [answer_convert_of_unowned found owned]
      rfl

theorem answer_resolve_nested (found : world.mappers[id]? = some mapper) {name : String}
    {service : ServiceId} (named : world.service? name = some service) {question : Question}
    (told : (world.surroundings.ask world.schema service question).1 = .convert (.nested id))
    (depth : Nat) (type : ValueType) (value : Value) :
    world.answer (depth + 1) held (.operation (.resolve name question type value)) =
      (world.asked service question).answer depth held
        (.convert id (world.schema.erase type value)) := by
  let launch : Launch κ Erased :=
    ⟨[], (Converter.nested id).apply world.schema (world.schema.erase type value)⟩
  have served : world.serve held (.operation (.resolve name question type value)) =
      (launch.map .erased, world.asked service question) := by
    simp only [serve, perform, named, resolve, told]
    rfl
  have found' : (world.asked service question).mappers[id]? = some mapper := found
  rw [answer_succ_eq, served]
  exact (Launch.outcome_map _ _ _ (launch, world.asked service question)).trans
    (outcome_apply_nested found' depth (world.schema.erase type value))

/-- An assignment whose source has been evaluated hands its value to the mapper, and fails with
it. -/
theorem outcome_assignment_of_unowned (found : world.mappers[id]? = some mapper)
    (unowned : ¬ world.Owned held id) {depth : Nat} {start : World κ} {source dest : Record}
    {assignment : Assignment κ} {value : Erased} (nests : assignment.converter = .nested id)
    (evaluated : (assignment.source.evaluate world.schema source).exec (answer (depth + 1)) held
      start = some (.ok value, world)) :
    Launch.outcome (answer (depth + 1)) held
        (⟨[], assignment.run world.schema source dest⟩, start) =
      some (.error mapper.dropped, world) := by
  have applied : ((Converter.nested id).apply world.schema value).run.exec (answer (depth + 1)) held
      world = some (.ok (.error mapper.dropped), world) := by
    change (Script.call (.convert id value) Converter.received).exec (answer (depth + 1)) held
      world = _
    simp only [Script.exec, answer_convert_of_unowned found unowned]
    rfl
  have run : (assignment.run world.schema source dest).run.exec (answer (depth + 1)) held start =
      some (.ok (.error mapper.dropped), world) := by
    unfold Assignment.run
    rw [Script.exec_run_bind, Script.exec_run_lift, evaluated]
    simp only [Option.map_some, Except.map]
    rw [Script.exec_run_bind, nests, applied]
  exact congrArg (Option.map _) run

theorem Direct.serve {request : Request κ} {source : Record} {finish : Record → Answer}
    (direct : world.Direct held id mapper source request finish)
    (found : world.mappers[id]? = some mapper) :
    world.serve held request =
      ((world.runMapper id mapper source none).1.map finish,
        (world.runMapper id mapper source none).2) := by
  cases direct with
  | map addresses same =>
    subst same
    rw [addresses.serve]
    simp only [World.serve, found, callMapper, Option.map_none]
  | erased erases fits same =>
    subst same
    cases erases with
    | called addresses =>
      rw [addresses.serve]
      simp only [World.serve, found, callMapper, world.runErased_of_match id fits, Launch.map_map]
    | nested lives =>
      rw [serve_convert_of_alive found lives, world.runErased_of_match id fits]
      simp only [Launch.map_map]

/-- While a run of the mapper is under way, the run itself owns it. -/
theorem Direct.owned {request : Request κ} {source : Record} {finish : Record → Answer}
    (direct : world.Direct held id mapper source request finish)
    (found : world.mappers[id]? = some mapper) {depth : Nat} {moment : Moment κ}
    (mem : moment ∈ (world.trace depth held request).tail) :
    moment.world.Owned moment.held id := by
  cases depth with
  | zero => simp [trace] at mem
  | succ depth =>
    simp only [trace, List.tail_cons, direct.serve found, Launch.trace_map] at mem
    unfold runMapper at mem
    split at mem
    next plan later compiled =>
      have held := held_of_trace.held_of_script (fun mem => held_of_trace mem) mem
      exact .running (held List.mem_cons_self)
    next => exact absurd mem List.not_mem_nil
    next => exact absurd mem List.not_mem_nil

/-- A converter that nests a mapper, wherever it is carried. -/
structure Weak (world : World κ) (held : List Hold) (id : MapperId) (mapper : Mapper κ) :
    Prop where
  registered : ∀ name table question, world.mapper? name = some (id, mapper) →
      mapper.source ≠ mapper.dest → table < world.surroundings.tables.length →
      question.source.valueType = .record mapper.source →
      question.dest.valueType = .record mapper.dest →
    ((world.callTable table (.registerMapper name)).2.surroundings.table table).bridge question =
      .ok (.nested id)
  /-- The mapper is found missing, whatever it is given, exactly when it has no owner. -/
  dropped_iff : (∀ input, ∃ depth later, world.answer depth held (.convert id input) =
    some (.error mapper.dropped, later)) ↔ ¬ world.Owned held id
  dropped : ¬ world.Owned held id → ∀ depth input,
    world.answer (depth + 1) held (.convert id input) = some (.error mapper.dropped, world)
  owned : world.Owned held id → ∀ depth input,
    world.answer (depth + 1) held (.convert id input) =
      (Launch.outcome (answer depth) held (world.runErased id mapper input)).map
        fun ended => (ended.1.map .erased, ended.2)
  erased : world.Owned held id → ∀ depth request type value,
    world.Addresses request (.mapper id (.mapErased type value)) →
    world.answer depth held (.convert id (world.schema.erase type value)) =
      world.answer depth held request
  /-- The converter gives what the mapper is answered with, also straight from a service. -/
  applied : ∀ depth input,
    (Launch.outcome (answer depth) held
        (⟨[], (Converter.nested id).apply world.schema input⟩, world)).map
          (fun ended => (ended.1.map Answer.erased, ended.2)) =
      world.answer depth held (.convert id input)
  resolved : ∀ depth name service question type value, world.service? name = some service →
      (world.surroundings.ask world.schema service question).1 = .convert (.nested id) →
    world.answer (depth + 1) held (.operation (.resolve name question type value)) =
      (world.asked service question).answer depth held
        (.convert id (world.schema.erase type value))
  /-- In an assignment, that of a plan or a custom one, it counts who owns the mapper at the time
  when the source has been evaluated. -/
  assigned : ¬ world.Owned held id → ∀ depth start source dest (assignment : Assignment κ) value,
      assignment.converter = .nested id →
      (assignment.source.evaluate world.schema source).exec (answer (depth + 1)) held start =
        some (.ok value, world) →
    Launch.outcome (answer (depth + 1)) held
        (⟨[], assignment.run world.schema source dest⟩, start) =
      some (.error mapper.dropped, world)
  others : ∀ other : World κ, other.registries = world.registries →
      (∀ name handle, handle.plain = false →
        ((name, handle) ∈ other.handles.entries ↔ (name, handle) ∈ world.handles.entries)) →
    (other.Owned held id ↔ world.Owned held id)
  during : ∀ depth request source finish, world.Direct held id mapper source request finish →
    ∀ moment ∈ (world.trace depth held request).tail, moment.world.Owned moment.held id
  /-- A mapper that loses its last owner while a request is being answered is gone for the rest of
  the request, whatever this goes on to do. -/
  rest : ¬ world.Owned held id → ∀ (depth : Nat) (start : World κ) (base : List Hold)
      (asked : Request κ) reply later request after, asked.Grounded base →
      start.answer depth base asked = some (reply, later) →
      ⟨world, held, request⟩ :: after <:+ start.trace depth base asked →
    (∀ moment ∈ after, ¬ moment.world.Owned moment.held id ∧ ∀ input,
      moment.world.serve moment.held (.convert id input) =
        (.now (.error mapper.dropped), moment.world)) ∧ ¬ later.Owned base id
  forever : ¬ world.Owned [] id → ∀ past last, Performed world past last →
    (∀ moment ∈ past, ¬ moment.world.Owned moment.held id ∧ ∀ input,
      moment.world.serve moment.held (.convert id input) =
        (.now (.error mapper.dropped), moment.world)) ∧ ¬ last.Owned [] id
  offered : ∀ table past last, History world past last → mapper.source ≠ mapper.dest →
      (world.surroundings.table table).converters.get?
        (.record mapper.source, .record mapper.dest) = some (.nested id) →
      (∀ moment ∈ past, ¬ moment.Registers table (.record mapper.source, .record mapper.dest)) →
    ∀ question, question.source.valueType = .record mapper.source →
      question.dest.valueType = .record mapper.dest →
      (last.surroundings.table table).bridge question = .ok (.nested id)

/-- A nested mapper is found as long as it is owned, and not any more after. -/
theorem nested_dropped_iff_unowned [Closures.Grounded κ] (found : world.mappers[id]? = some mapper)
    (held : List Hold) :
    world.Weak held id mapper where
  registered _ _ _ named apart made source dest :=
    bridge_registerMapper named apart made source dest
  dropped_iff := by
    refine ⟨fun always owned => ?_, fun unowned input =>
      ⟨1, world, answer_convert_of_unowned found unowned 0 input⟩⟩
    -- A value of another type than the source is turned away by a mapper that is found.
    obtain ⟨depth, later, answered⟩ := always ⟨.bool, .null⟩
    cases depth with
    | zero => simp [answer] at answered
    | succ depth =>
      rw [answer_convert_of_owned found owned, runErased_of_mismatch _ _ (by simp),
        Launch.outcome_now] at answered
      simp [Outcome.map, Mapper.dropped] at answered
  dropped unowned := answer_convert_of_unowned found unowned
  owned owned := answer_convert_of_owned found owned
  erased owned depth request type value addresses := by
    cases depth with
    | zero => rfl
    | succ depth =>
      rw [answer_convert_of_owned found owned]
      exact ((Erases.called addresses).answer found).symm
  applied := outcome_apply_nested found
  resolved depth _ _ _ type value named told :=
    answer_resolve_nested found named told depth type value
  assigned unowned _ _ _ _ _ _ nests evaluated :=
    outcome_assignment_of_unowned found unowned nests evaluated
  others other registries handles :=
    ⟨.of_handles (fun name handle owns => (handles name handle owns).mp) registries.symm,
      .of_handles (fun name handle owns => (handles name handle owns).mpr) registries⟩
  during _ _ _ _ direct _ mem := direct.owned found mem
  rest unowned _ _ _ _ _ _ _ _ grounded answered from_now := by
    have gone : world.Gone held id (mapper.source, mapper.dest) :=
      ⟨by simp [slots?, found], unowned⟩
    obtain ⟨ended, moments⟩ := gone.rest grounded answered from_now
    exact ⟨fun moment mem => ⟨(moments moment mem).unowned, (moments moment mem).serve_convert⟩,
      ended.unowned⟩
  forever unowned past last performed := by
    have gone : world.Gone [] id (mapper.source, mapper.dest) :=
      ⟨by simp [slots?, found], unowned⟩
    obtain ⟨after, moments⟩ := gone.performed performed
    exact ⟨fun moment mem => ⟨(moments moment mem).unowned, (moments moment mem).serve_convert⟩,
      after.unowned⟩
  offered table past last history apart entered quiet question source dest := by
    have kept := history.converter entered quiet
    simp [Conversions.bridge, source, dest, kept, apart]

/-- The handle of a nested mapper is dropped, and its registry keeps it until that is dropped
too. -/
theorem nested_dropped_iff_unowned_of_orphan :
    let world := World.linked [.newRegistry "g", .registry "g" (.register "n"), .drop "n"]
    let request : Request Closure :=
      .operation (.mapper "m" (.map (.record [("a", .record [])]) none))
    ∃ mapper, world.mappers[0]? = some mapper ∧ world.Weak [] 0 mapper ∧ world.Owned [] 0 ∧
      (world.drop "g").Weak [] 0 mapper ∧ ¬ (world.drop "g").Owned [] 0 ∧
      (world.answer 4 [] request).map (·.1) = some (.ok (.value (.record [("a", .record [])]))) ∧
      ((world.drop "g").answer 4 [] request).map (·.1) = some (.error mapper.dropped) := by
  intro world request
  have found : world.mappers[0]? = some _ := rfl
  have found' : (world.drop "g").mappers[0]? = some _ := rfl
  exact ⟨_, found, nested_dropped_iff_unowned found [], by decide +kernel,
    nested_dropped_iff_unowned found' [], by decide +kernel,
    by decide +kernel, by decide +kernel⟩

end World

end RecordMapping
