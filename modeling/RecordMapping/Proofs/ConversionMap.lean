import Mathlib.Data.List.Induction
import RecordMapping.Expression
import RecordMapping.Proofs.Chronicle
import RecordMapping.Proofs.Ownership

namespace RecordMapping

variable {κ : Type}

def Moment.conversion? (table : Nat) (moment : Moment κ) : Option (Conversion κ) :=
  match moment.world.conversion? moment.request with
  | some new =>
    if new.table = table ∧ table < moment.world.surroundings.tables.length then some new else none
  | none => none

/-- The questions about a source and a destination, one for each kind of source. -/
def Question.both (source dest : Signature) : List Question :=
  [.member dest source, .computed source dest]

def Conversion.onto (table : Conversions κ) (new : Conversion κ) : Conversions κ :=
  table.register new.source new.dest new.converter

namespace Conversions

def additions (table : Nat) (past : List (Moment κ)) : List (Conversion κ) :=
  past.filterMap (Moment.conversion? table)

def latest? (news : List (Conversion κ)) (source dest : ValueType) : Option (Converter κ) :=
  (news.reverse.find? fun new => new.source = source ∧ new.dest = dest).map (·.converter)

/-- The converter for a pair of types: none is needed between equal ones, whatever is registered. -/
def offered? (news : List (Conversion κ)) (source dest : ValueType) : Option (Converter κ) :=
  if source = dest then some .identity else latest? news source dest

variable {news : List (Conversion κ)} {new : Conversion κ} {source dest : ValueType}
  {converter : Converter κ}

theorem additions_append (table : Nat) (past more : List (Moment κ)) :
    additions table (past ++ more) = additions table past ++ additions table more :=
  List.filterMap_append

theorem latest?_concat : latest? (news ++ [new]) source dest =
    if new.source = source ∧ new.dest = dest then some new.converter
    else latest? news source dest := by
  rw [latest?, List.reverse_concat, List.find?_cons]
  split
  next here => simp [of_decide_eq_true here]
  next apart => simp [of_decide_eq_false apart, latest?]

theorem latest?_eq_some : latest? news source dest = some converter ↔
    ∃ before new after, news = before ++ new :: after ∧
      (new.source = source ∧ new.dest = dest ∧ new.converter = converter) ∧
        ∀ later ∈ after, ¬ (later.source = source ∧ later.dest = dest) := by
  simp only [latest?, Option.map_eq_some_iff, List.find?_eq_some_iff_append, decide_eq_true_iff,
    Bool.not_eq_true', decide_eq_false_iff_not]
  constructor
  · rintro ⟨new, ⟨⟨given, wanted⟩, after, before, split, apart⟩, same⟩
    refine ⟨before.reverse, new, after.reverse, ?_, ⟨given, wanted, same⟩, ?_⟩
    · rw [← List.reverse_reverse news, split]
      simp
    · exact fun later mem => apart later (List.mem_reverse.mp mem)
  · rintro ⟨before, new, after, rfl, ⟨given, wanted, same⟩, apart⟩
    refine ⟨new, ⟨⟨given, wanted⟩, after.reverse, before.reverse, by simp, ?_⟩, same⟩
    exact fun later mem => apart later (List.mem_reverse.mp mem)

def Reflects (table : Conversions κ) (news : List (Conversion κ)) : Prop :=
  ∀ source dest, table.converters.get? (source, dest) = latest? news source dest

theorem reflects_foldl (news : List (Conversion κ)) :
    (news.foldl Conversion.onto default).Reflects news := by
  intro source dest
  induction news using List.reverseRecOn with
  | nil => rfl
  | append_singleton news new ih =>
    rw [List.foldl_append, latest?_concat, List.foldl_cons, List.foldl_nil, Conversion.onto,
      register, OrderedMap.get?_insert, ih]
    simp only [Prod.mk.injEq]

theorem bridge_eq {table : Conversions κ} (reflects : table.Reflects news) (question : Question) :
    table.bridge question =
      match offered? news question.source.valueType question.dest.valueType with
      | some converter => .ok converter
      | none => .error (.unbridgeable question.dest.name question.source.valueType.name
          question.dest.valueType.name) := by
  simp only [bridge, offered?]
  rw [reflects]
  split
  next => rfl
  next => cases latest? news _ _ <;> rfl

theorem contains_eq {table : Conversions κ} (reflects : table.Reflects news)
    (source dest : ValueType) :
    table.contains source dest = (offered? news source dest).isSome := by
  unfold contains offered? OrderedMap.contains
  rw [reflects]
  by_cases same : source = dest <;> simp [same]

end Conversions

namespace World

open Conversions (additions offered? latest?)

/-- What is registered converts from the one type to the other, by a function or by a mapper. -/
theorem carries_of_conversion {moment : Moment κ} {table : Nat} {new : Conversion κ}
    (told : moment.conversion? table = some new) :
    new.converter.Carries moment.world.slots? new.source new.dest := by
  unfold Moment.conversion? at told
  split at told
  next other asked =>
    split at told
    next =>
      obtain rfl := Option.some.inj told
      unfold World.conversion? at asked
      split at asked
      next name source dest convert =>
        split at asked
        next id named =>
          obtain rfl := Option.some.inj asked
          exact .function _ _ _
        next => simp at asked
      next name nested =>
        split at asked
        next id mapperId mapper named nested =>
          obtain rfl := Option.some.inj asked
          exact .nested (by simp [slots?, mapper?_found nested])
        next => simp at asked
      next => simp at asked
    next => simp at told
  next => simp at told

theorem ask_table {world : World κ} {table : Nat} {news : List (Conversion κ)}
    (reflects : (world.surroundings.table table).Reflects news) (question : Question) :
    world.surroundings.ask world.schema (.table table) question =
      match offered? news question.source.valueType question.dest.valueType with
      | some converter => (.convert converter, world.surroundings)
      | none => (.refuse (.unbridgeable question.dest.name question.source.valueType.name
          question.dest.valueType.name), world.surroundings) := by
  simp only [Surroundings.ask, Conversions.bridge_eq reflects]
  cases offered? news _ _ <;> rfl

section Serve

variable [Closures κ] {world last : World κ} {past : List (Moment κ)}

/-- A table changes by the converter that is registered with it, whatever else a request does. -/
theorem table_serve (id : Nat) (held : List Hold) (request : Request κ) :
    (world.serve held request).2.surroundings.table id =
      (Moment.conversion? id ⟨world, held, request⟩).elim (world.surroundings.table id)
        (Conversion.onto (world.surroundings.table id)) := by
  have turn := world.serve_turn held request
  have same : (world.serve held request).2.surroundings.table id =
      (world.serve held request).2.stock.tables.getD id default := rfl
  have appended (fresh : List (Conversions κ)) (blank : ∀ table ∈ fresh, table = default) :
      (world.surroundings.tables ++ fresh).getD id default = world.surroundings.table id := by
    rw [Surroundings.table, List.getD_eq_getElem?_getD, List.getD_eq_getElem?_getD,
      List.getElem?_append]
    split
    next => rfl
    next beyond =>
      rw [List.getElem?_eq_none (Nat.le_of_not_lt beyond)]
      cases found : fresh[id - world.surroundings.tables.length]? with
      | none => rfl
      | some table => exact blank table (List.mem_of_getElem? found)
  unfold Moment.conversion?
  rw [same]
  generalize (world.serve held request).2.stock = stock at turn
  generalize world.deed? request = deed at turn
  generalize world.conversion? request = conversion at turn ⊢
  cases turn with
  | rest | keep | copy | erased | drop | newRegistry | deed => rfl
  | newTable => exact appended [default] fun table mem => List.mem_singleton.mp mem
  | newMapper blank => exact appended _ blank
  | @convert new =>
    by_cases here : new.table = id
    · subst here
      by_cases bound : new.table < world.surroundings.tables.length
      · simp [bound, List.getD_eq_getElem?_getD, Conversion.onto]
      · rw [List.set_eq_of_length_le (by omega)]
        simp [bound, Surroundings.table]
    · simp [here, List.getD_eq_getElem?_getD, List.getElem?_set_ne here, Surroundings.table]

/-- A table is what its registrations make of it, whatever happens between them. -/
theorem History.table (history : History world past last) (id : Nat) :
    last.surroundings.table id =
      (additions id past).foldl Conversion.onto (world.surroundings.table id) := by
  induction history with
  | start => rfl
  | write entry _ ih => exact ih
  | clear _ ih => exact ih
  | serve held request _ ih =>
    rw [table_serve, ih, Conversions.additions_append, List.foldl_append]
    simp only [additions, List.filterMap_cons, List.filterMap_nil]
    cases Moment.conversion? id _ <;> rfl

variable {schema : Schema} {tracing : Bool}

theorem History.tabulated (history : History (initial schema tracing) past world) (id : Nat) :
    (world.surroundings.table id).Reflects (additions id past) := by
  have blank : (initial schema tracing : World κ).surroundings.table id = default := by
    cases id <;> rfl
  rw [history.table id, blank]
  exact Conversions.reflects_foldl (additions id past)

/-- Whatever is registered converts from the one type to the other. -/
theorem History.carries (history : History (initial schema tracing) past world) {id : Nat}
    {source dest : ValueType} {converter : Converter κ}
    (offered : offered? (additions id past) source dest = some converter) :
    converter.Carries world.slots? source dest := by
  unfold offered? at offered
  split at offered
  next same =>
    obtain rfl := Option.some.inj offered
    exact same ▸ .identity source
  next =>
    obtain ⟨before, new, after, listed, ⟨rfl, rfl, rfl⟩, -⟩ :=
      Conversions.latest?_eq_some.mp offered
    have mem : new ∈ additions id past := listed ▸ List.mem_append_right _ List.mem_cons_self
    obtain ⟨moment, mem, told⟩ := List.mem_filterMap.mp mem
    obtain ⟨early, late, rfl⟩ := List.append_of_mem mem
    obtain ⟨-, onward⟩ := history.split
    exact (carries_of_conversion told).mono fun _ _ known => onward.slots? (slots?_serve known)

end Serve

section Nested

variable [Closures κ] {world : World κ} {held : List Hold} {id : MapperId} {mapper : Mapper κ}
  {input : Erased}

/-- How a nested mapper turns away a value that is not of its source type. -/
def refusal (world : World κ) (held : List Hold) (id : MapperId) (source dest : ValueType)
    (input : Erased) : MappingError :=
  if world.Owned held id then .typeMismatch source.name input.type.name
  else .mapperDropped source.name dest.name

/-- A nested mapper does nothing with a value of another type, owned or not. -/
theorem serve_convert_of_mismatch (found : world.mappers[id]? = some mapper)
    (other : input.type ≠ .record mapper.source) :
    world.serve held (.convert id input) =
      (.now (.error (world.refusal held id (.record mapper.source) (.record mapper.dest) input)),
        world) := by
  by_cases owned : world.Owned held id
  · rw [serve_convert_of_alive found (alive_iff.mpr owned), runErased_of_mismatch _ _ other,
      refusal, if_pos owned]
    rfl
  · rw [serve_convert_of_dead found (alive_eq_false_iff.mpr owned), refusal, if_neg owned]
    rfl

theorem answer_convert_of_mismatch (found : world.mappers[id]? = some mapper)
    (other : input.type ≠ .record mapper.source) (depth : Nat) :
    world.answer (depth + 1) held (.convert id input) =
      some (.error (world.refusal held id (.record mapper.source) (.record mapper.dest) input),
        world) := by
  rw [answer_succ_eq, serve_convert_of_mismatch found other]
  exact Launch.outcome_now _ _ _ _

theorem outcome_apply_of_mismatch (found : world.mappers[id]? = some mapper)
    (other : input.type ≠ .record mapper.source) (depth : Nat) :
    Launch.outcome (answer (depth + 1)) held
        (⟨[], (Converter.nested id).apply world.schema input⟩, world) =
      some (.error (world.refusal held id (.record mapper.source) (.record mapper.dest) input),
        world) := by
  have applied : ((Converter.nested id).apply world.schema input).run.exec (answer (depth + 1)) held
      world = some (.ok (.error
        (world.refusal held id (.record mapper.source) (.record mapper.dest) input)), world) := by
    change (Script.call (.convert id input) Converter.received).exec (answer (depth + 1)) held
      world = _
    simp only [Script.exec, answer_convert_of_mismatch found other]
    rfl
  exact congrArg (Option.map _) applied

/-- All that is asked for on the way is the conversion itself. -/
theorem trace_apply_of_mismatch (found : world.mappers[id]? = some mapper)
    (other : input.type ≠ .record mapper.source) (depth : Nat) :
    ((Converter.nested id).apply world.schema input).run.trace (answer (depth + 1))
        (trace (depth + 1)) held world = [⟨world, held, .convert id input⟩] := by
  have alone : world.trace (depth + 1) held (.convert id input) =
      [⟨world, held, .convert id input⟩] := by
    rw [trace, serve_convert_of_mismatch found other]
    rfl
  change (Script.call (.convert id input) Converter.received).trace (answer (depth + 1))
    (trace (depth + 1)) held world = _
  simp only [Script.trace, alone, answer_convert_of_mismatch found other, Converter.received]
  rfl

end Nested

section Answers

variable [Closures κ] {world : World κ} {table : Nat} {news : List (Conversion κ)}

/-- What a table answers that is asked to convert a value at once. -/
theorem answer_resolve
    (reflects : (world.surroundings.table table).Reflects news) {name : String}
    (named : world.service? name = some (.table table)) (question : Question) (type : ValueType)
    (value : Value) (depth : Nat) (held : List Hold) :
    world.answer (depth + 1) held (.operation (.resolve name question type value)) =
      match offered? news question.source.valueType question.dest.valueType with
      | some converter => Launch.outcome (answer depth) held
          (⟨[], .erased <$> converter.apply world.schema (world.schema.erase type value)⟩, world)
      | none => some (.error (.unbridgeable question.dest.name question.source.valueType.name
          question.dest.valueType.name), world) := by
  rw [answer_succ_eq]
  simp only [serve, perform, named, resolve, ask_table reflects]
  cases offered? news _ _ with
  | some converter => rfl
  | none => exact Launch.outcome_now _ _ _ _

theorem answer_contains
    (reflects : (world.surroundings.table table).Reflects news) {name : String}
    (named : world.table? name = some table) (source dest : ValueType) (depth : Nat)
    (held : List Hold) :
    world.answer (depth + 1) held (.operation (.table name (.contains source dest))) =
      some (.ok (.flag (offered? news source dest).isSome), world) := by
  rw [answer_succ_eq]
  simp only [serve, perform, named, callTable, Conversions.contains_eq reflects]
  exact Launch.outcome_now _ _ _ _

/-- A conversion table answers as the finite map that its registrations make. -/
structure Tabulates (world : World κ) (table : Nat) (news : List (Conversion κ)) : Prop where
  /-- Between equal types nothing is done, whatever is registered for them. -/
  identity : ∀ type, offered? news type type = some .identity ∧
    ∀ schema input, (.identity : Converter κ).apply schema input = pure input
  /-- Between different types it is what was registered last for exactly this pair. -/
  latest : ∀ source dest converter, source ≠ dest →
    (offered? news source dest = some converter ↔ ∃ before new after,
      news = before ++ new :: after ∧
        (new.source = source ∧ new.dest = dest ∧ new.converter = converter) ∧
        ∀ later ∈ after, ¬ (later.source = source ∧ later.dest = dest))
  resolves : ∀ (source dest : Signature), ∀ question ∈ Question.both source dest, ∀ converter,
    (world.surroundings.ask world.schema (.table table) question =
        (.convert converter, world.surroundings) ↔
      offered? news source.valueType dest.valueType = some converter)
  refuses : ∀ (source dest : Signature), ∀ question ∈ Question.both source dest,
      offered? news source.valueType dest.valueType = none →
    world.surroundings.ask world.schema (.table table) question =
      (.refuse (.unbridgeable dest.name source.valueType.name dest.valueType.name),
        world.surroundings)
  contains : ∀ depth held name (source dest : Signature), world.table? name = some table →
    ∃ present,
      world.answer (depth + 1) held
          (.operation (.table name (.contains source.valueType dest.valueType))) =
        some (.ok (.flag present), world) ∧
      ∀ question ∈ Question.both source dest, (present = true ↔
        ∃ converter, world.surroundings.ask world.schema (.table table) question =
          (.convert converter, world.surroundings))
  answers : ∀ depth held name (source dest : Signature) type value,
      world.service? name = some (.table table) → ∀ question ∈ Question.both source dest,
    world.answer (depth + 1) held (.operation (.resolve name question type value)) =
      match offered? news source.valueType dest.valueType with
      | some converter => Launch.outcome (answer depth) held
          (⟨[], .erased <$> converter.apply world.schema (world.schema.erase type value)⟩, world)
      | none => some
          (.error (.unbridgeable dest.name source.valueType.name dest.valueType.name), world)
  kinds : ∀ source dest converter, source ≠ dest → offered? news source dest = some converter →
    (∃ convert, converter = .function source dest convert) ∨
      ∃ id given wanted, converter = .nested id ∧ source = .record given ∧ dest = .record wanted
  /-- A function is run on values of its source type only, and its result is of its destination
  type. -/
  function : ∀ source dest given wanted convert,
      offered? news source dest = some (.function given wanted convert) →
    given = source ∧ wanted = dest ∧ ∀ schema input,
      (input.type = source → (Converter.function given wanted convert).apply schema input =
        ExceptT.lift (Closures.compute convert input.value) >>= fun result =>
          pure (schema.erase dest result)) ∧
      (input.type ≠ source → (Converter.function given wanted convert).apply schema input =
        throw (.typeMismatch source.name input.type.name))
  /-- A nested mapper maps between the types, whenever it is run; it turns a value of another type
  away with nothing done, and finds out first whether it has been dropped. -/
  nested : ∀ source dest id, offered? news source dest = some (.nested id) →
      ∀ more last, History world more last →
    ∃ mapper, last.mappers[id]? = some mapper ∧ source = .record mapper.source ∧
      dest = .record mapper.dest ∧ ∀ depth held input,
        (Launch.outcome (answer depth) held
            (⟨[], (Converter.nested id).apply last.schema input⟩, last)).map
              (fun ended => (ended.1.map Answer.erased, ended.2)) =
          last.answer depth held (.convert id input) ∧
        (input.type ≠ source →
          Launch.outcome (answer (depth + 1)) held
              (⟨[], (Converter.nested id).apply last.schema input⟩, last) =
            some (.error (if last.Owned held id then .typeMismatch source.name input.type.name
              else .mapperDropped source.name dest.name), last) ∧
          ((Converter.nested id).apply last.schema input).run.trace (answer (depth + 1))
            (trace (depth + 1)) held last = [⟨last, held, .convert id input⟩])

variable {schema : Schema} {tracing : Bool} {past : List (Moment κ)}

theorem types_of_both {source dest : Signature} {question : Question}
    (mem : question ∈ Question.both source dest) :
    question.source = source ∧ question.dest = dest := by
  simp only [Question.both, List.mem_cons, List.not_mem_nil, or_false] at mem
  rcases mem with rfl | rfl <;> exact ⟨rfl, rfl⟩

/-- In every session that has come of an empty one, conversion tables are finite maps. -/
theorem tables_answer_last_registered (history : History (initial schema tracing) past world)
    (table : Nat) :
    world.Tabulates table (additions table past) where
  identity type := ⟨if_pos rfl, fun _ _ => rfl⟩
  latest source dest converter apart := by
    rw [offered?, if_neg apart]
    exact Conversions.latest?_eq_some
  resolves source dest question mem converter := by
    obtain ⟨rfl, rfl⟩ := types_of_both mem
    rw [ask_table (history.tabulated table)]
    cases offered? _ _ _ <;> simp
  refuses source dest question mem absent := by
    obtain ⟨rfl, rfl⟩ := types_of_both mem
    rw [ask_table (history.tabulated table), absent]
  contains depth held name source dest named := by
    refine ⟨_, answer_contains (history.tabulated table) named _ _ depth held, ?_⟩
    intro question mem
    obtain ⟨rfl, rfl⟩ := types_of_both mem
    rw [ask_table (history.tabulated table)]
    cases offered? _ _ _ <;> simp
  answers depth held name source dest type value named question mem := by
    obtain ⟨rfl, rfl⟩ := types_of_both mem
    exact answer_resolve (history.tabulated table) named question type value depth held
  kinds source dest converter apart offered := by
    cases history.carries offered with
    | identity => exact absurd rfl apart
    | function source dest convert => exact .inl ⟨convert, rfl⟩
    | nested known => exact .inr ⟨_, _, _, rfl, rfl, rfl⟩
  function source dest given wanted convert offered := by
    cases history.carries offered with
    | function =>
      refine ⟨rfl, rfl, fun schema input => ⟨fun fits => ?_, fun other => ?_⟩⟩
      · simp only [Converter.apply, Erased.valueAs, if_pos fits]
        rfl
      · simp only [Converter.apply, Erased.valueAs, if_neg other]
        rfl
  nested source dest id offered more last onward := by
    cases history.carries offered with
    | nested known =>
      obtain ⟨mapper, found, same⟩ := Option.map_eq_some_iff.mp (onward.slots? known)
      obtain ⟨rfl, rfl⟩ := Prod.mk.inj same
      refine ⟨mapper, found, rfl, rfl, fun depth held input => ⟨?_, fun other => ⟨?_, ?_⟩⟩⟩
      · exact outcome_apply_nested found depth input
      · exact outcome_apply_of_mismatch found other depth
      · exact trace_apply_of_mismatch found other depth

/-- A pair that is registered again through another handle, one of equal types, and a mapper that is
dropped. -/
theorem tables_answer_last_registered_of_clones :
    let first : World Closure := .initial .linked false
    let operations : List (Operation Closure) :=
      [.newTable "t", .copy "u" "t", .newMapper "n" 0 1 none,
        .table "t" (.register .i32 .text (.value (.literal (.str "early")))),
        .table "u" (.register .i32 .text (.value (.literal (.str "late")))),
        .table "u" (.register .i32 .i32 (.value (.literal (.int 0)))),
        .table "u" (.registerMapper "n"), .drop "n"]
    let world := first.after operations
    let told (source dest type : ValueType) (value : Value) : Option Reply :=
      (world.answer 3 [] (.operation
        (.resolve "t" (.computed ⟨"source", source⟩ ⟨"dest", dest⟩) type value))).map (·.1)
    History first (first.moments operations) world ∧
      world.Tabulates 0 (additions 0 (first.moments operations)) ∧
      told .i32 .text .i32 (.int 1) = some (.ok (.erased ⟨.text, .str "late"⟩)) ∧
      told .i32 .text .bool (.bool true) =
        some (.error (.typeMismatch ValueType.i32.name ValueType.bool.name)) ∧
      told .i32 .i32 .i32 (.int 1) = some (.ok (.erased ⟨.i32, .int 1⟩)) ∧
      told .text .i32 .text (.str "") =
        some (.error (.unbridgeable "dest" ValueType.text.name ValueType.i32.name)) ∧
      told (.record 0) (.record 1) .bool (.bool true) =
        some (.error (.mapperDropped (Slot.typeName 0) (Slot.typeName 1))) := by
  intro first operations world told
  have history : History first (first.moments operations) world := .of_operations first operations
  exact ⟨history, tables_answer_last_registered history 0, by decide +kernel, by decide +kernel,
    by decide +kernel, by decide +kernel, by decide +kernel⟩

end Answers

end World

end RecordMapping
