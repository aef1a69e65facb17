import Mathlib.Data.Finset.Lattice.Lemmas
import RecordMapping.Proofs.Clause
import RecordMapping.Proofs.Standing

namespace RecordMapping

variable {σ τ κ : Type}

namespace OrderedMap

variable {α β : Type} [DecidableEq α]

/-- The entries of a map are its keys with what is stored under them. -/
theorem entries_eq_keys {map : OrderedMap α β} (distinct : map.keys.Nodup) :
    map.entries = map.keys.filterMap fun key => (map.get? key).map (Prod.mk key) := by
  have stored : ∀ entry ∈ map.entries, (map.get? entry.1).map (Prod.mk entry.1) = some entry := by
    intro entry mem
    rw [get?_of_mem distinct (show (entry.1, entry.2) ∈ map.entries from mem)]
    rfl
  rw [keys, List.filterMap_map]
  exact (List.filterMap_some.symm.trans (List.filterMap_congr fun entry mem =>
    (stored entry mem).symm))

/-- A new value takes the place of the old one, or the last place. -/
theorem entries_insert {map : OrderedMap α β} (distinct : map.keys.Nodup) (key : α) (value : β) :
    (map.insert key value).entries =
      if key ∈ map.keys then
        map.entries.map fun entry => if entry.1 = key then (key, value) else entry
      else map.entries ++ [(key, value)] := by
  obtain ⟨entries⟩ := map
  change store key value entries = _
  unfold keys at distinct ⊢
  induction entries with
  | nil => rfl
  | cons entry rest ih =>
    obtain ⟨fresh, distinct⟩ := List.nodup_cons.mp distinct
    by_cases here : entry.1 = key
    · have others : (rest.map fun other => if other.1 = key then (key, value) else other) =
          rest := by
        refine List.map_congr_left (g := id) (fun other mem => if_neg ?_) |>.trans rest.map_id
        rintro same
        exact fresh (List.mem_map.mpr ⟨other, mem, same.trans here.symm⟩)
      simp [store, here, others]
    · simp only [store, if_neg here, ih distinct, List.map_cons, List.mem_cons,
        Ne.symm here, false_or]
      split <;> rfl

end OrderedMap

/-- An entry of a configuration after another assignment. -/
def Assignment.replacing (assignment : Assignment κ) (entry : String × CustomMember κ) :
    String × CustomMember κ :=
  if entry.1 = assignment.key then (assignment.key, assignment.custom) else entry

theorem Assignment.replacing_fst (assignment : Assignment κ) (entry : String × CustomMember κ) :
    (assignment.replacing entry).1 = entry.1 := by
  unfold replacing
  split
  next here => exact here.symm
  next => rfl

theorem Assignment.replacing_comm {first second : Assignment κ} (apart : first.key ≠ second.key)
    (entry : String × CustomMember κ) :
    first.replacing (second.replacing entry) = second.replacing (first.replacing entry) := by
  by_cases here : entry.1 = first.key
  · simp [replacing, here, apart]
  · by_cases there : entry.1 = second.key
    · simp [replacing, there, apart.symm]
    · simp [replacing, here, there]

namespace Config

namespace Clause

/-- The key that is to be left out. -/
def ignored? : Clause κ → Option String
  | .ignore dest => some (Text.fold dest)
  | _ => none

def before? : Clause κ → Option κ
  | .before hook => some hook
  | _ => none

def after? : Clause κ → Option κ
  | .after hook => some hook
  | _ => none

def constructor? : Clause κ → Option κ
  | .construct constructor => some constructor
  | _ => none

def setting : Clause κ → Setting
  | .ignore _ => .ignored
  | .assign _ => .custom
  | .before _ => .before
  | .after _ => .after
  | .construct _ => .constructor

end Clause

/-- A configuration in normal form. -/
@[ext]
structure Form (κ : Type) where
  ignored : Finset String
  custom : List (String × CustomMember κ)
  before : Option κ
  after : Option κ
  constructor : Option κ

namespace Form

/-- What the clauses come to: the set of what is ignored, the last assignment for each key in the
order of the first ones, and the last closure of each kind. -/
def of (clauses : List (Clause κ)) : Form κ where
  ignored := (clauses.filterMap Clause.ignored?).toFinset
  custom := (Clause.keys clauses).filterMap fun key =>
    (Clause.last? clauses key).map fun assignment => (key, assignment.custom)
  before := (clauses.filterMap Clause.before?).getLast?
  after := (clauses.filterMap Clause.after?).getLast?
  constructor := (clauses.filterMap Clause.constructor?).getLast?

def keys (form : Form κ) : List String := form.custom.map (·.1)

def put (form : Form κ) : Clause κ → Form κ
  | .ignore dest => { form with ignored := insert (Text.fold dest) form.ignored }
  | .assign assignment =>
    { form with custom :=
        if assignment.key ∈ form.keys then form.custom.map assignment.replacing
        else form.custom ++ [(assignment.key, assignment.custom)] }
  | .before hook => { form with before := some hook }
  | .after hook => { form with after := some hook }
  | .construct constructor => { form with constructor := some constructor }

variable {clauses : List (Clause κ)}

theorem custom_of (clauses : List (Clause κ)) :
    (of clauses).custom = (told clauses).custom.entries := by
  rw [OrderedMap.entries_eq_keys (distinct_told clauses), keys_told]
  simp only [of, get?_told, Option.map_map]
  rfl

theorem keys_of (clauses : List (Clause κ)) : (of clauses).keys = Clause.keys clauses := by
  rw [← keys_told, keys, custom_of]
  rfl

/-- Another clause changes the normal form by itself, whatever it follows. -/
theorem of_concat (clauses : List (Clause κ)) (clause : Clause κ) :
    of (clauses ++ [clause]) = (of clauses).put clause := by
  have custom : (of (clauses ++ [clause])).custom = ((of clauses).put clause).custom := by
    rw [custom_of, told_concat]
    cases clause with
    | assign assignment =>
      simp only [put_assign, put, keys_of, custom_of]
      rw [OrderedMap.entries_insert (distinct_told clauses), keys_told]
      rfl
    | _ => exact (custom_of clauses).symm
  have ignored : (of (clauses ++ [clause])).ignored = ((of clauses).put clause).ignored := by
    simp only [of, List.filterMap_append]
    cases clause <;> simp [List.filterMap_cons, Clause.ignored?, put]
  have before : (of (clauses ++ [clause])).before = ((of clauses).put clause).before := by
    simp only [of, List.filterMap_append]
    cases clause <;> simp [Clause.before?, put]
  have after : (of (clauses ++ [clause])).after = ((of clauses).put clause).after := by
    simp only [of, List.filterMap_append]
    cases clause <;> simp [Clause.after?, put]
  have constructor :
      (of (clauses ++ [clause])).constructor = ((of clauses).put clause).constructor := by
    simp only [of, List.filterMap_append]
    cases clause <;> simp [Clause.constructor?, put]
  exact Form.ext ignored custom before after constructor

theorem of_append (clauses more : List (Clause κ)) :
    of (clauses ++ more) = more.foldl put (of clauses) := by
  induction more generalizing clauses with
  | nil => simp
  | cons clause rest ih =>
    rw [List.foldl_cons, ← of_concat, ← ih, List.append_assoc, List.singleton_append]

/-- To ignore a name has the same effect wherever it is said. -/
theorem of_ignore (early late : List (Clause κ)) (dest : String) :
    of (early ++ .ignore dest :: late) =
      { of (early ++ late) with
        ignored := insert (Text.fold dest) (of (early ++ late)).ignored } := by
  refine Form.ext ?_ ?_ ?_ ?_ ?_
  · simp [of, Clause.ignored?]
  · simp [of, Clause.keys, Clause.last?, List.filterMap_cons, Clause.key?, Clause.assigned?]
  · simp [of, Clause.before?]
  · simp [of, Clause.after?]
  · simp [of, Clause.constructor?]

theorem mem_ignored_of {key : String} : key ∈ (of clauses).ignored ↔
    ∃ dest, .ignore dest ∈ clauses ∧ Text.fold dest = key := by
  simp only [of, List.mem_toFinset, List.mem_filterMap]
  constructor
  · rintro ⟨clause, mem, told⟩
    cases clause with
    | ignore dest => exact ⟨dest, mem, Option.some.inj told⟩
    | _ => simp [Clause.ignored?] at told
  · rintro ⟨dest, mem, rfl⟩
    exact ⟨_, mem, rfl⟩

/-- Two normal forms that differ in nothing but the order of the assignments. -/
structure Permuted (form other : Form κ) : Prop where
  ignored : form.ignored = other.ignored
  custom : form.custom.Perm other.custom
  before : form.before = other.before
  after : form.after = other.after
  constructor : form.constructor = other.constructor

variable {form other : Form κ}

theorem Permuted.refl (form : Form κ) : form.Permuted form :=
  ⟨rfl, .refl _, rfl, rfl, rfl⟩

theorem Permuted.mem_keys (permuted : form.Permuted other) {key : String} :
    key ∈ form.keys ↔ key ∈ other.keys :=
  (permuted.custom.map (·.1)).mem_iff

theorem Permuted.put (permuted : form.Permuted other) (clause : Clause κ) :
    (form.put clause).Permuted (other.put clause) := by
  obtain ⟨ignored, custom, before, after, constructor⟩ := permuted
  cases clause with
  | ignore dest => exact ⟨congrArg (insert _) ignored, custom, before, after, constructor⟩
  | assign assignment =>
    refine ⟨ignored, ?_, before, after, constructor⟩
    have known : assignment.key ∈ form.keys ↔ assignment.key ∈ other.keys :=
      (custom.map (·.1)).mem_iff
    simp only [Form.put, known]
    split
    next => exact custom.map _
    next => exact custom.append_right _
  | before hook => exact ⟨ignored, custom, rfl, after, constructor⟩
  | after hook => exact ⟨ignored, custom, before, rfl, constructor⟩
  | construct made => exact ⟨ignored, custom, before, after, rfl⟩

theorem Permuted.foldl (permuted : form.Permuted other) (clauses : List (Clause κ)) :
    (clauses.foldl Form.put form).Permuted (clauses.foldl Form.put other) := by
  induction clauses generalizing form other with
  | nil => exact permuted
  | cons clause rest ih => exact ih (permuted.put clause)

/-- Clauses of different kinds commute, and one that leaves a member out commutes with all. -/
theorem put_comm (form : Form κ) {first second : Clause κ}
    (apart : first.setting ≠ second.setting ∨ first.setting = .ignored) :
    (form.put first).put second = (form.put second).put first := by
  cases first with
  | ignore dest =>
    cases second with
    | ignore other =>
      simp only [put]
      rw [Finset.insert_comm]
    | _ => rfl
  | _ =>
    cases second with
    | _ => first | rfl | simp [Clause.setting] at apart

variable {assignment first second : Assignment κ}

/-- A key that has an assignment keeps its place. -/
theorem put_of_known (known : assignment.key ∈ form.keys) :
    form.put (.assign assignment) =
      { form with custom := form.custom.map assignment.replacing } := by
  simp only [put, if_pos known]

/-- A new key comes last. -/
theorem put_of_fresh (fresh : assignment.key ∉ form.keys) :
    form.put (.assign assignment) =
      { form with custom := form.custom ++ [(assignment.key, assignment.custom)] } := by
  simp only [put, if_neg fresh]

theorem mem_keys_put {key : String} :
    key ∈ (form.put (.assign assignment)).keys ↔ key ∈ form.keys ∨ key = assignment.key := by
  by_cases known : assignment.key ∈ form.keys
  · have kept : (form.put (.assign assignment)).keys = form.keys := by
      rw [put_of_known known, keys, keys, List.map_map]
      exact List.map_congr_left fun entry _ => assignment.replacing_fst entry
    rw [kept]
    constructor
    · exact .inl
    · rintro (mem | rfl)
      · exact mem
      · exact known
  · rw [put_of_fresh known]
    simp [keys]

/-- Other keys are as new after an assignment as before it. -/
theorem fresh_put {key : String} (fresh : key ∉ form.keys) (apart : key ≠ assignment.key) :
    key ∉ (form.put (.assign assignment)).keys := by
  rw [mem_keys_put]
  exact not_or.mpr ⟨fresh, apart⟩

/-- Assignments for different keys commute if one of the keys has its place already. -/
theorem put_assign_comm (apart : first.key ≠ second.key)
    (known : first.key ∈ form.keys) :
    (form.put (.assign first)).put (.assign second) =
      (form.put (.assign second)).put (.assign first) := by
  rw [put_of_known (mem_keys_put.mpr (.inl known))]
  by_cases other : second.key ∈ form.keys
  · rw [put_of_known (mem_keys_put.mpr (.inl other)), put_of_known known, put_of_known other]
    have swapped : second.replacing ∘ first.replacing = first.replacing ∘ second.replacing := by
      funext entry
      rw [Function.comp_apply, Function.comp_apply, Assignment.replacing_comm apart]
    simp only [List.map_map, swapped]
  · rw [put_of_fresh (fresh_put other apart.symm), put_of_known known, put_of_fresh other]
    simp [Assignment.replacing, apart.symm]

/-- Assignments for different keys can be told in either order, up to the order of the keys. -/
theorem put_swap (form : Form κ) (apart : first.key ≠ second.key) :
    ((form.put (.assign first)).put (.assign second)).Permuted
      ((form.put (.assign second)).put (.assign first)) := by
  by_cases known : first.key ∈ form.keys
  · rw [put_assign_comm apart known]
    exact .refl _
  by_cases other : second.key ∈ form.keys
  · rw [put_assign_comm apart.symm other]
    exact .refl _
  -- Both keys are new: they take the last two places, in the order in which they are told.
  rw [put_of_fresh (fresh_put other apart.symm), put_of_fresh (fresh_put known apart),
    put_of_fresh known, put_of_fresh other]
  refine ⟨rfl, ?_, rfl, rfl, rfl⟩
  simpa using (List.Perm.swap _ _ []).append_left form.custom

end Form

/-- What is ignored before the first build is what the mapper was told to ignore. -/
theorem ignored_told (clauses : List (Clause κ)) (key : String) :
    (told clauses).ignored.get? key =
      if key ∈ (Form.of clauses).ignored then some .explicit else none := by
  induction clauses using List.reverseRecOn with
  | nil => rfl
  | append_singleton clauses clause ih =>
    rw [told_concat, Form.of_concat]
    cases clause with
    | ignore dest =>
      simp only [put, ignore, Form.put, OrderedMap.get?_insert, ih, Finset.mem_insert]
      by_cases here : Text.fold dest = key
      · simp [here]
      · simp [here, Ne.symm here]
    | _ => exact ih

theorem closures_told (clauses : List (Clause κ)) :
    (told clauses).before = (Form.of clauses).before ∧
      (told clauses).after = (Form.of clauses).after ∧
      (told clauses).constructor = (Form.of clauses).constructor := by
  induction clauses using List.reverseRecOn with
  | nil => exact ⟨rfl, rfl, rfl⟩
  | append_singleton clauses clause ih =>
    rw [told_concat, Form.of_concat]
    obtain ⟨before, after, constructor⟩ := ih
    cases clause with
    | ignore | assign => exact ⟨before, after, constructor⟩
    | before hook => exact ⟨rfl, after, constructor⟩
    | after hook => exact ⟨before, rfl, constructor⟩
    | construct made => exact ⟨before, after, rfl⟩

theorem contains_told (clauses : List (Clause κ)) (key : String) :
    (told clauses).custom.contains key = true ↔ key ∈ (Form.of clauses).keys := by
  rw [OrderedMap.contains_iff, ← OrderedMap.mem_keys, keys_told, Form.keys_of]

/-- The normal forms leave out the same names, and have assignments for the same keys. -/
structure Form.Kin (form other : Form κ) : Prop where
  ignored : form.ignored = other.ignored
  keys : ∀ key, key ∈ form.keys ↔ key ∈ other.keys

theorem Form.Permuted.kin {form other : Form κ} (permuted : form.Permuted other) :
    form.Kin other :=
  ⟨permuted.ignored, fun _ => permuted.mem_keys⟩

def Form.steps (form : Form κ) : List (Plan.Step κ) :=
  form.custom.map fun (key, custom) =>
    if key ∈ form.ignored then .leaveOut custom.dest
    else .assign .custom custom.dest custom.label custom.assignment

theorem steps_of (clauses : List (Clause κ)) :
    (told clauses).custom.entries.map (Plan.Step.ofCustom (told clauses).ignored) =
      (Form.of clauses).steps := by
  rw [Form.steps, Form.custom_of]
  refine List.map_congr_left fun (key, custom) _ => ?_
  simp only [Plan.Step.ofCustom, ignored_told]
  by_cases off : key ∈ (Form.of clauses).ignored <;> simp [off]

end Config

theorem Dialogue.Similar.refl (dialogue : Dialogue σ κ) : dialogue.Similar dialogue Eq where
  answer := by rintro s _ rfl question; rfl
  ask := by rintro s _ rfl question; rfl
  report := by rintro s _ rfl event; rfl

namespace Plan

variable {dialogue : Dialogue σ κ} {other : Dialogue τ κ} {sources dests : List (Property Record)}

/-- What a build matches by name, as far as the service bridges it. -/
def matched (dialogue : Dialogue σ κ) (sources dests : List (Property Record))
    (config : Config κ) (state : σ) : Except String (Composition κ) :=
  let (candidates, ignored, state) :=
    matchMembers dialogue dests config.custom.contains sources config.ignored state
  (bridgeMembers dialogue candidates ignored state).1

theorem compose_matched (dialogue : Dialogue σ κ) (sources dests : List (Property Record))
    (config : Config κ) (state : σ) :
    (compose dialogue sources dests config state).1 =
      (matched dialogue sources dests config state).map
        (·.append (.ofSteps (config.custom.entries.map (Step.ofCustom config.ignored)))) := by
  have explicit := (compose_built dialogue sources dests config state).ignored.explicit
  rw [← Step.ofCustom_congr explicit, ← Composition.ofCustom_eq_ofSteps]
  rfl

/-- Matching asks of what is ignored only whether a name is. -/
theorem matchMembers_congr (dialogue : Dialogue σ κ) (dests : List (Property Record))
    (custom : String → Bool) (sources : List (Property Record)) {ignored ignored' : Ignored}
    (same : ∀ key, ignored.contains key = ignored'.contains key) (state : σ) :
    (matchMembers dialogue dests custom sources ignored state).1 =
        (matchMembers dialogue dests custom sources ignored' state).1 ∧
      (matchMembers dialogue dests custom sources ignored state).2.2 =
        (matchMembers dialogue dests custom sources ignored' state).2.2 := by
  induction sources generalizing ignored ignored' state with
  | nil => exact ⟨rfl, rfl⟩
  | cons source rest ih =>
    have agree :
        Match.find dests custom ignored source = Match.find dests custom ignored' source := by
      simp only [Match.find, same]
    simp only [matchMembers, ← agree]
    cases Match.find dests custom ignored source with
    | claimed => exact ih same state
    | ignored | paired dest =>
      obtain ⟨candidates, states⟩ := ih same state
      exact ⟨congrArg (List.cons _) candidates, states⟩
    | unmatched readOnly =>
      have grown (key : String) :
          (ignored.insert (Text.fold source.name) .unmatched).contains key =
            (ignored'.insert (Text.fold source.name) .unmatched).contains key := by
        rw [Bool.eq_iff_iff, OrderedMap.contains_insert, OrderedMap.contains_insert, same]
      obtain ⟨candidates, states⟩ :=
        ih grown (dialogue.report (.unmatched source.name readOnly) state)
      exact ⟨congrArg (List.cons _) candidates, states⟩

/-- What is remembered on the way makes no difference to the questions and their answers. -/
theorem bridgeMembers_congr (dialogue : Dialogue σ κ) (candidates : List Candidate)
    (ignored ignored' : Ignored) (state : σ) :
    (bridgeMembers dialogue candidates ignored state).1 =
      (bridgeMembers dialogue candidates ignored' state).1 := by
  induction candidates generalizing ignored ignored' state with
  | nil => rfl
  | cons candidate rest ih =>
    cases candidate with
    | leftOut name => exact congrArg (Except.map _) (ih ignored ignored' state)
    | pair source dest =>
      simp only [bridgeMembers]
      obtain ⟨answer, next, heard⟩ : ∃ answer next,
          dialogue.ask (.member dest.signature source.signature) state = (answer, next) :=
        ⟨_, _, rfl⟩
      rw [heard]
      cases answer with
      | convert converter | refuse error => exact congrArg (Except.map _) (ih _ _ _)
      | panic text => rfl

theorem matched_congr {config config' : Config κ}
    (claimed : ∀ key, config.custom.contains key = config'.custom.contains key)
    (ignored : ∀ key, config.ignored.contains key = config'.ignored.contains key)
    (state : σ) :
    matched dialogue sources dests config state = matched dialogue sources dests config' state := by
  have custom : config.custom.contains = config'.custom.contains := funext claimed
  obtain ⟨candidates, states⟩ := matchMembers_congr dialogue dests config.custom.contains sources
    ignored state
  simp only [matched, ← custom, candidates, states]
  exact bridgeMembers_congr dialogue _ _ _ _

/-- Builds over normal forms that leave out the same names and have the same keys match the same
members, if their services answer alike. -/
theorem compose_of_kin {related : σ → τ → Prop} (similar : dialogue.Similar other related) {s : σ}
    {t : τ} (start : related s t) {clauses clauses' : List (Config.Clause κ)}
    (kin : (Config.Form.of clauses).Kin (.of clauses')) (sources dests : List (Property Record)) :
    ∃ auto : Except String (Composition κ),
      (compose dialogue sources dests (.told clauses) s).1 =
          auto.map (·.append (.ofSteps (Config.Form.of clauses).steps)) ∧
        (compose other sources dests (.told clauses') t).1 =
          auto.map (·.append (.ofSteps (Config.Form.of clauses').steps)) := by
  refine ⟨matched other sources dests (.told clauses) t, ?_, ?_⟩
  · rw [(similar.compose sources dests (.told clauses) start).result, compose_matched,
      Config.steps_of]
  · have claimed (key : String) : (Config.told clauses).custom.contains key =
        (Config.told clauses').custom.contains key := by
      rw [Bool.eq_iff_iff, Config.contains_told, Config.contains_told, kin.keys]
    have ignored (key : String) : (Config.told clauses).ignored.contains key =
        (Config.told clauses').ignored.contains key := by
      simp only [OrderedMap.contains, Config.ignored_told, kin.ignored]
    rw [compose_matched, Config.steps_of, matched_congr claimed ignored]

end Plan

namespace Mapper

/-- A mapper that has been told these clauses since it was made, and has not been used. -/
def told (source dest : Slot) (service : ServiceId) (clauses : List (Config.Clause κ)) :
    Mapper κ :=
  { Mapper.new source dest service with config := .told clauses }

end Mapper

def Config.Form.plan (form : Form κ) (id : MapperId) (source dest : Slot)
    (auto : Composition κ) : Plan κ where
  mapper := id
  build := 1
  source := source
  dest := dest
  constructor := form.constructor
  before := form.before
  assignments := (auto.append (.ofSteps form.steps)).assignments
  after := form.after
  bindings := (auto.append (.ofSteps form.steps)).bindings

def Config.Form.outcome (form : Form κ) (id : MapperId) (source dest : Slot) :
    Except String (Composition κ) → Outcome (Option (Plan κ))
  | .ok auto => .ok (some (form.plan id source dest auto))
  | .error text => .panic text

namespace Mapper.Action

variable {schema : Schema} {dialogue : Dialogue σ κ} {other : Dialogue τ κ} {action : Action κ}
  {source dest : Slot} {service service' : ServiceId} {clauses clauses' : List (Config.Clause κ)}

theorem perform_of_told (id : MapperId) {state : σ} {auto : Except String (Composition κ)}
    (building : action.composition? schema dialogue (.told source dest service clauses) state =
      some (auto.map (·.append (.ofSteps (Config.Form.of clauses).steps)))) :
    (action.perform schema dialogue id (.told source dest service clauses) state).1 =
      (Config.Form.of clauses).outcome id source dest auto := by
  obtain ⟨config, next, -, performed⟩ := perform_builds id building
  rw [performed]
  cases auto with
  | error text => rfl
  | ok auto =>
    obtain ⟨before, after, constructor⟩ := Config.closures_told clauses
    simp only [Except.map, Config.Form.outcome, Config.Form.plan, assembled, told, before, after,
      constructor]
    rfl

/-- The first plan of a mapper comes from the normal form of what it has been told, and from what is
matched by name; and that is the same for all normal forms of a kin. -/
theorem perform_of_kin {related : σ → τ → Prop} (similar : dialogue.Similar other related) {s : σ}
    {t : τ} (start : related s t) (kin : (Config.Form.of clauses).Kin (.of clauses'))
    (uses : action.configures = false) (id id' : MapperId) :
    ∃ auto : Except String (Composition κ),
      (action.perform schema dialogue id (.told source dest service clauses) s).1 =
          (Config.Form.of clauses).outcome id source dest auto ∧
        (action.perform schema other id' (.told source dest service' clauses') t).1 =
          (Config.Form.of clauses').outcome id' source dest auto := by
  have composes {s : σ} {t : τ} (start : related s t) := Plan.compose_of_kin similar start kin
    (schema.properties source) (schema.properties dest)
  cases action with
  | compile =>
    obtain ⟨auto, one, two⟩ := composes start
    exact ⟨auto, perform_of_told id (congrArg some one),
      perform_of_told id' (congrArg some two)⟩
  | recompile =>
    obtain ⟨auto, one, two⟩ := composes (similar.report start (.recompileForced source dest))
    exact ⟨auto, perform_of_told id (congrArg some one),
      perform_of_told id' (congrArg some two)⟩
  | _ => simp [Action.configures] at uses

end Mapper.Action

end RecordMapping
