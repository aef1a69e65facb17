import RecordMapping.Proofs.Ownership
import RecordMapping.Proofs.Precedence

namespace RecordMapping

variable {κ α : Type}

namespace OrderedMap

variable {α β : Type} [DecidableEq α]

theorem mem_keys {map : OrderedMap α β} {key : α} :
    key ∈ map.keys ↔ ∃ value, map.get? key = some value := by
  rw [← Option.isSome_iff_exists]
  change _ ↔ map.contains key = true
  rw [contains_iff_mem, keys, List.mem_map]

theorem get?_of_mem {map : OrderedMap α β} (distinct : map.keys.Nodup) {key : α} {value : β}
    (mem : (key, value) ∈ map.entries) : map.get? key = some value := by
  obtain ⟨entries⟩ := map
  change lookup key entries = some value
  induction entries with
  | nil => simp at mem
  | cons entry rest ih =>
    obtain ⟨fresh, distinct⟩ := List.nodup_cons.mp distinct
    rcases List.mem_cons.mp mem with rfl | later
    · simp [lookup]
    · have apart : entry.1 ≠ key := by
        rintro rfl
        exact fresh (List.mem_map.mpr ⟨_, later, rfl⟩)
      simpa [lookup, apart] using ih distinct later

theorem nodup_keys_erase {map : OrderedMap α β} (distinct : map.keys.Nodup) (key : α) :
    (map.erase key).keys.Nodup :=
  distinct.sublist (List.filter_sublist.map _)

end OrderedMap

namespace Registry

def Deed.touches (pair : ValueType × ValueType) : Deed κ → Bool
  | .enroll entry => entry.types = pair
  | .remove other => other = pair
  | .list => false

/-- The entry was enrolled for the pair, and nothing has been done about the pair since. -/
def Standing (deeds : List (Deed κ)) (pair : ValueType × ValueType) (entry : Entry κ) : Prop :=
  ∃ before after, deeds = before ++ .enroll entry :: after ∧ entry.types = pair ∧
    ∀ deed ∈ after, deed.touches pair = false

def Present (deeds : List (Deed κ)) (pair : ValueType × ValueType) : Prop :=
  ∃ entry, Standing deeds pair entry

def Brittle (deeds : List (Deed κ)) : Prop :=
  ∃ pair entry, Standing deeds pair entry ∧ entry.panics = true

/-- The registry was listed at a time when a brittle entry stood. -/
def Spoiled (deeds : List (Deed κ)) : Prop :=
  ∃ before after, deeds = before ++ .list :: after ∧ Brittle before

variable {deeds : List (Deed κ)} {deed : Deed κ} {pair : ValueType × ValueType} {entry : Entry κ}

theorem not_standing_nil : ¬ Standing [] pair entry := by
  rintro ⟨before, after, split, -⟩
  simp at split

theorem standing_concat : Standing (deeds ++ [deed]) pair entry ↔
    (deed = .enroll entry ∧ entry.types = pair) ∨
      (deed.touches pair = false ∧ Standing deeds pair entry) := by
  constructor
  · rintro ⟨before, after, split, types, untouched⟩
    rcases List.eq_nil_or_concat after with rfl | ⟨rest, last, rfl⟩
    · obtain ⟨-, same⟩ := List.append_inj' split rfl
      exact .inl ⟨(List.cons.inj same).1, types⟩
    · rw [List.concat_eq_append, ← List.cons_append, ← List.append_assoc] at split
      obtain ⟨rfl, same⟩ := List.append_inj' split rfl
      obtain rfl := (List.cons.inj same).1
      rw [List.concat_eq_append] at untouched
      obtain ⟨early, late⟩ := List.forall_mem_append.mp untouched
      exact .inr ⟨late _ (List.mem_singleton_self _), before, rest, rfl, types, early⟩
  · rintro (⟨rfl, types⟩ | ⟨untouched, before, after, rfl, types, quiet⟩)
    · exact ⟨deeds, [], rfl, types, by simp⟩
    · refine ⟨before, after ++ [deed], by simp, types, ?_⟩
      exact List.forall_mem_append.mpr ⟨quiet, by simpa using untouched⟩

theorem standing_enroll {new : Entry κ} : Standing (deeds ++ [.enroll new]) pair entry ↔
    if new.types = pair then new = entry else Standing deeds pair entry := by
  rw [standing_concat]
  by_cases here : new.types = pair
  · simp only [Deed.enroll.injEq, Deed.touches, here, decide_true, if_true]
    constructor
    · rintro (⟨same, -⟩ | ⟨untouched, -⟩)
      · exact same
      · simp at untouched
    · rintro rfl
      exact .inl ⟨rfl, here⟩
  · simp only [Deed.enroll.injEq, Deed.touches, here, decide_false, if_false, true_and]
    constructor
    · rintro (⟨rfl, types⟩ | standing)
      · exact absurd types here
      · exact standing
    · exact .inr

theorem standing_remove {other : ValueType × ValueType} :
    Standing (deeds ++ [.remove other]) pair entry ↔ other ≠ pair ∧ Standing deeds pair entry := by
  simp [standing_concat, Deed.touches]

theorem standing_list : Standing (deeds ++ [.list]) pair entry ↔ Standing deeds pair entry := by
  simp [standing_concat, Deed.touches]

theorem spoiled_concat :
    Spoiled (deeds ++ [deed]) ↔ Spoiled deeds ∨ (deed = .list ∧ Brittle deeds) := by
  constructor
  · rintro ⟨before, after, split, brittle⟩
    rcases List.eq_nil_or_concat after with rfl | ⟨rest, last, rfl⟩
    · obtain ⟨rfl, same⟩ := List.append_inj' split rfl
      exact .inr ⟨(List.cons.inj same).1, brittle⟩
    · rw [List.concat_eq_append, ← List.cons_append, ← List.append_assoc] at split
      obtain ⟨rfl, -⟩ := List.append_inj' split rfl
      exact .inl ⟨before, rest, rfl, brittle⟩
  · rintro (⟨before, after, rfl, brittle⟩ | ⟨rfl, brittle⟩)
    · exact ⟨before, after ++ [deed], by simp, brittle⟩
    · exact ⟨deeds, [], rfl, brittle⟩

structure Reflects (registry : Registry κ) (deeds : List (Deed κ)) : Prop where
  poisoned : registry.poisoned = true ↔ Spoiled deeds
  standing : registry.poisoned = false → ∀ pair entry,
    registry.entries.get? pair = some entry ↔ Standing deeds pair entry
  distinct : registry.entries.keys.Nodup
  /-- Every entry is kept under the types that it reports. -/
  own : ∀ entry ∈ registry.entries.entries, entry.2.types = entry.1

theorem Reflects.new : Reflects (default : Registry κ) [] where
  poisoned := by
    refine iff_of_false Bool.false_ne_true ?_
    rintro ⟨before, after, split, -⟩
    simp at split
  standing _ _ _ := iff_of_false (fun found => nomatch found) not_standing_nil
  distinct := List.nodup_nil
  own _ mem := absurd mem List.not_mem_nil

namespace Reflects

variable {registry : Registry κ}

theorem healthy (reflects : Reflects registry deeds) (unspoiled : ¬ Spoiled deeds) :
    registry.poisoned = false := by
  rw [← Bool.not_eq_true, reflects.poisoned]
  exact unspoiled

theorem brittle_iff (reflects : Reflects registry deeds) (healthy : registry.poisoned = false) :
    registry.entries.values.any Entry.panics = true ↔ Brittle deeds := by
  simp only [List.any_eq_true, OrderedMap.values, List.mem_map]
  constructor
  · rintro ⟨_, ⟨⟨pair, entry⟩, mem, rfl⟩, panics⟩
    have found := OrderedMap.get?_of_mem reflects.distinct mem
    exact ⟨pair, entry, (reflects.standing healthy pair entry).mp found, panics⟩
  · rintro ⟨pair, entry, standing, panics⟩
    have found := (reflects.standing healthy pair entry).mpr standing
    exact ⟨entry, ⟨_, OrderedMap.mem_of_get? found, rfl⟩, panics⟩

/-- A poisoned registry takes no more deeds. -/
theorem onto_of_poisoned (poisoned : registry.poisoned = true) (deed : Deed κ) :
    deed.onto registry = registry := by
  cases deed with
  | enroll | remove =>
    simp only [Deed.onto, register, Registry.remove, guarded, poisoned, if_true]
  | list => simp only [Deed.onto, pairs, guarded, poisoned, if_true]

theorem onto (reflects : Reflects registry deeds) (deed : Deed κ) :
    Reflects (deed.onto registry) (deeds ++ [deed]) := by
  cases poisoned : registry.poisoned with
  | true =>
    have spoiled := reflects.poisoned.mp poisoned
    rw [onto_of_poisoned poisoned]
    -- A poisoned registry takes no deed, and it stays so.
    refine ⟨iff_of_true poisoned (spoiled_concat.mpr (.inl spoiled)), ?_, reflects.distinct,
      reflects.own⟩
    exact fun healthy => absurd (poisoned.symm.trans healthy) (by simp)
  | false =>
    have unspoiled : ¬ Spoiled deeds := fun spoiled => by
      simp [reflects.poisoned.mpr spoiled] at poisoned
    have standing := reflects.standing poisoned
    cases deed with
    | enroll new =>
      have entered : (Deed.enroll new).onto registry =
          { registry with entries := registry.entries.insert new.types new } := by
        simp [Deed.onto, register, guarded, poisoned]
      rw [entered]
      refine ⟨by simp [spoiled_concat, poisoned, unspoiled], fun _ pair entry => ?_,
        OrderedMap.nodup_keys_insert reflects.distinct _ _, fun entry mem => ?_⟩
      · rw [standing_enroll, OrderedMap.get?_insert]
        split
        next => exact Option.some_inj
        next => exact standing pair entry
      · rcases OrderedMap.mem_insert mem with rfl | old
        · rfl
        · exact reflects.own entry old
    | remove other =>
      have removed : (Deed.remove other).onto registry =
          { registry with entries := registry.entries.erase other } := by
        simp [Deed.onto, Registry.remove, guarded, poisoned]
      rw [removed]
      refine ⟨by simp [spoiled_concat, poisoned, unspoiled], fun _ pair entry => ?_,
        OrderedMap.nodup_keys_erase reflects.distinct _,
        fun entry mem => reflects.own entry (OrderedMap.mem_erase mem)⟩
      rw [standing_remove, OrderedMap.get?_erase, ← standing pair entry]
      split
      next same => simp [same]
      next apart => simp [apart]
    | list =>
      -- Listing asks every entry for its types, and nothing else can spoil a registry.
      have listed : Deed.list.onto registry = { registry with
          poisoned := registry.entries.values.any Entry.panics } := by
        simp only [Deed.onto, pairs, guarded, poisoned, reported]
        cases registry.entries.values.any Entry.panics with
        | true => rfl
        | false => exact congrArg (Registry.mk registry.entries) poisoned
      rw [listed]
      refine ⟨?_, fun _ pair entry => ?_, reflects.distinct, reflects.own⟩
      · rw [spoiled_concat, ← reflects.brittle_iff poisoned]
        simp [unspoiled]
      · rw [standing_list]
        exact standing pair entry

/-- Deeds one after another. -/
theorem foldl {past : List (Deed κ)} (reflects : Reflects registry past) (deeds : List (Deed κ)) :
    Reflects (deeds.foldl Deed.onto registry) (past ++ deeds) := by
  induction deeds generalizing past registry with
  | nil => rwa [List.append_nil]
  | cons deed rest ih =>
    rw [← List.singleton_append, ← List.append_assoc]
    exact ih (reflects.onto deed)

/-- The pairs of the entries are those for which an entry stands. -/
theorem mem_keys (reflects : Reflects registry deeds) (unspoiled : ¬ Spoiled deeds) :
    pair ∈ registry.entries.keys ↔ Present deeds pair := by
  simp only [OrderedMap.mem_keys, reflects.standing (reflects.healthy unspoiled), Present]

theorem types_eq_keys (reflects : Reflects registry deeds) :
    registry.entries.values.map Entry.types = registry.entries.keys := by
  rw [OrderedMap.values, List.map_map]
  exact List.map_congr_left reflects.own

end Reflects

end Registry

def Moment.deed? (id : Nat) (moment : Moment κ) : Option (Registry.Deed κ) :=
  match moment.world.deed? moment.request with
  | some (aim, deed) =>
    if aim = id ∧ id < moment.world.registries.length then some deed else none
  | none => none

def Registry.deeds (id : Nat) (past : List (Moment κ)) : List (Registry.Deed κ) :=
  past.filterMap (Moment.deed? id)

theorem Registry.deeds_append (id : Nat) (past more : List (Moment κ)) :
    deeds id (past ++ more) = deeds id past ++ deeds id more :=
  List.filterMap_append

namespace World

section Serve

variable [Closures κ] {world last : World κ} {past : List (Moment κ)}

/-- A registry changes by the deed that is done to it, whatever else the request sets going. -/
theorem registry_serve (id : Nat) (held : List Hold) (request : Request κ) :
    (world.serve held request).2.registry id =
      (Moment.deed? id ⟨world, held, request⟩).elim (world.registry id)
        (Registry.Deed.onto (world.registry id)) := by
  have turn := world.serve_turn held request
  have same : (world.serve held request).2.registry id =
      (world.serve held request).2.stock.registries.getD id default := rfl
  unfold Moment.deed?
  rw [same]
  generalize (world.serve held request).2.stock = stock at turn
  generalize world.deed? request = deed at turn ⊢
  generalize world.conversion? request = conversion at turn
  cases turn with
  | rest | keep | copy | erased | drop | newTable | newMapper | convert => rfl
  | newRegistry =>
    simp only [Stock.keep, Option.elim, World.registry, List.getD_eq_getElem?_getD,
      List.getElem?_append]
    split
    next => rfl
    next beyond =>
      rw [List.getElem?_eq_none (Nat.le_of_not_lt beyond)]
      cases id - world.registries.length <;> rfl
  | @deed other done =>
    by_cases here : other = id
    · subst here
      by_cases bound : other < world.registries.length
      · simp [bound, List.getD_eq_getElem?_getD]
      · rw [List.set_eq_of_length_le (by omega)]
        simp [bound, World.registry]
    · simp [here, List.getD_eq_getElem?_getD, List.getElem?_set_ne here, World.registry]

/-- A registry is what its deeds make of it, whatever becomes of the requests they belong to. -/
theorem History.registry (history : History world past last) (id : Nat) :
    last.registry id = (Registry.deeds id past).foldl Registry.Deed.onto (world.registry id) := by
  induction history with
  | start => rfl
  | write entry _ ih => exact ih
  | clear _ ih => exact ih
  | serve held request _ ih =>
    rw [registry_serve, ih, Registry.deeds_append, List.foldl_append]
    simp only [Registry.deeds, List.filterMap_cons, List.filterMap_nil]
    cases Moment.deed? id _ <;> rfl

variable {schema : Schema} {tracing : Bool}

theorem History.reflects (history : History (initial schema tracing) past world) (id : Nat) :
    (world.registry id).Reflects (Registry.deeds id past) := by
  rw [history.registry id]
  exact Registry.Reflects.new.foldl (Registry.deeds id past)

end Serve

end World

/-- A reply to an erased mapping, as it is handed on to somebody who expects a type. -/
def Outcome.expecting (type : ValueType) : Reply → Reply
  | .ok (.erased erased) => .ofExcept ((erased.valueAs type).map .value)
  | reply => reply

theorem Launch.outcome_expecting (server : Server κ) (held : List Hold) (type : ValueType)
    (served : Launch κ Erased × World κ) :
    Launch.outcome server held
        (served.1.check fun erased => (erased.valueAs type).map Answer.value, served.2) =
      (Launch.outcome server held (served.1.map .erased, served.2)).map
        fun ended => (Outcome.expecting type ended.1, ended.2) := by
  rw [Launch.outcome_map]
  simp only [Launch.outcome, Launch.check, Script.exec_run_bind, Option.map_map]
  rcases served.1.script.run.exec server (served.1.holds ++ held) served.2 with
    _ | ⟨_ | _ | result, later⟩
  · rfl
  · rfl
  · rfl
  · rfl

namespace Registry

variable {registry : Registry κ} {pair : ValueType × ValueType}

theorem lookup_of_found {entry : Entry κ} (healthy : registry.poisoned = false)
    (found : registry.entries.get? pair = some entry) :
    registry.lookup pair = (.ok entry, registry) := by
  simp [lookup, guarded, healthy, found]

theorem lookup_of_absent (healthy : registry.poisoned = false)
    (absent : registry.entries.get? pair = none) :
    registry.lookup pair = (.error (.noMapper pair.1.name pair.2.name), registry) := by
  simp [lookup, guarded, healthy, absent]

theorem lookup_of_poisoned (poisoned : registry.poisoned = true) :
    registry.lookup pair = (.error .lockPoisoned, registry) := by
  simp [lookup, guarded, poisoned]

end Registry

namespace World

variable [Closures κ] {world : World κ} {held held' : List Hold} {id : Nat} {depth : Nat}
  {request : Request κ}

/-- In what order things are held makes no difference. -/
theorem answer_congr_held (same : ∀ hold, hold ∈ held' ↔ hold ∈ held) :
    world.answer depth held' request = world.answer depth held request := by
  induction depth generalizing world held held' request with
  | zero => rfl
  | succ depth ih =>
    have lives (mapper : MapperId) : world.alive held' mapper = world.alive held mapper :=
      Bool.eq_iff_iff.mpr
        ⟨alive_mono fun hold => (same hold).mp, alive_mono fun hold => (same hold).mpr⟩
    have served : world.serve held' request = world.serve held request := by
      cases request with
      | convert mapper input => simp only [serve, lives]
      | _ => rfl
    have appended (holds : List Hold) (hold : Hold) :
        hold ∈ holds ++ held' ↔ hold ∈ holds ++ held := by
      simp only [List.mem_append, same]
    have all : ∀ moment ∈ (world.serve held request).1.script.run.trace (answer depth)
        (trace depth) ((world.serve held request).1.holds ++ held) (world.serve held request).2,
        True := fun _ _ => trivial
    have run := Script.exec_congr (fun _ _ _ => ih (appended _)) all
    simp only [answer_succ_eq, Launch.outcome, served, run]

end World

end RecordMapping
