import RecordMapping.Expression
import RecordMapping.Proofs.Chronicle
import RecordMapping.Proofs.Listing
import RecordMapping.Proofs.Precedence

namespace RecordMapping

variable {κ : Type}

namespace Plan

variable {σ : Type} {dialogue : Dialogue σ κ} {sources dests : List (Property Record)}
  {config later : Config κ} {heard : List (Exchange κ)} {composed : Except String (Composition κ)}

/-- What a build adds to the ignored members: the name of a member that could not be assigned, since
it has no writable counterpart or the service has refused to bridge the two. -/
inductive Leaves (sources dests : List (Property Record)) (config : Config κ)
    (heard : List (Exchange κ)) : String → Omission → Prop where
  | unmatched {source : Property Record} (free : source ∈ unclaimed config.custom.contains sources)
    (fresh : config.ignored.get? (Text.fold source.name) = none)
    (unserved : counterpart? dests source.name = none) :
    Leaves sources dests config heard (Text.fold source.name) .unmatched
  | unbridged {source dest : Property Record} {error : MappingError}
    (free : source ∈ unclaimed config.custom.contains sources)
    (fresh : config.ignored.get? (Text.fold source.name) = none)
    (served : counterpart? dests source.name = some dest)
    (told : ⟨.member dest.signature source.signature, .refuse error⟩ ∈ heard) :
    Leaves sources dests config heard (Text.fold source.name) .unbridged

theorem Leaves.fresh {key : String} {omission : Omission}
    (leaves : Leaves sources dests config heard key omission) : config.ignored.get? key = none := by
  cases leaves <;> assumption

theorem Leaves.exists_source {key : String} {omission : Omission}
    (leaves : Leaves sources dests config heard key omission) :
    ∃ source ∈ unclaimed config.custom.contains sources, Text.fold source.name = key := by
  cases leaves with
  | unmatched free | unbridged free => exact ⟨_, free, rfl⟩

theorem mem_unclaimed {custom : String → Bool} {source : Property Record} :
    source ∈ unclaimed custom sources ↔
      source ∈ sources ∧ source.isReadable = true ∧ custom (Text.fold source.name) = false := by
  simp [unclaimed]

/-- The names refused are those of the sources in the exchanges that end in refusal. -/
theorem mem_refused_iff_heard {candidates : List Candidate} {key : String}
    (asked : heard.map (·.question) <+: candidates.filterMap Candidate.question?) :
    key ∈ refused candidates (heard.map (·.answer)) ↔
      ∃ question error, ⟨question, .refuse error⟩ ∈ heard ∧
        Text.fold question.source.name = key := by
  induction candidates generalizing heard with
  | nil =>
    obtain rfl : heard = [] := by simpa using asked
    simp [refused]
  | cons candidate rest ih =>
    cases candidate with
    | leftOut name => exact ih asked
    | pair source dest =>
      rw [Candidate.questions_pair] at asked
      cases heard with
      | nil => simp
      | cons exchange more =>
        obtain ⟨same, asked⟩ := List.cons_prefix_cons.mp asked
        have later := ih asked
        obtain ⟨question, answer⟩ := exchange
        obtain rfl := same
        cases answer with
        | convert | panic => simpa [refused] using later
        | refuse error =>
          simp only [List.map_cons, refused, List.mem_cons, later]
          constructor
          · rintro (same | ⟨question, error', mem, same⟩)
            · exact ⟨_, error, .inl rfl, same.symm⟩
            · exact ⟨question, error', .inr mem, same⟩
          · rintro ⟨question, error', now | mem, same⟩
            · obtain ⟨rfl, -⟩ := Exchange.mk.inj now
              exact .inl same.symm
            · exact .inr ⟨question, error', mem, same⟩

/-- A build keeps what is ignored and adds what it leaves, and that is all. -/
theorem Built.ignored_iff (built : Built dialogue sources dests config heard composed later)
    (key : String) (omission : Omission) :
    later.ignored.get? key = some omission ↔
      config.ignored.get? key = some omission ∨
        Leaves sources dests config heard key omission := by
  have refusals : key ∈ refused (candidates sources dests config) (heard.map (·.answer)) ↔
      Leaves sources dests config heard key .unbridged := by
    rw [mem_refused_iff_heard built.asked]
    constructor
    · rintro ⟨question, error, mem, rfl⟩
      obtain ⟨source, free, dest, found, rfl⟩ := built.asks mem
      obtain ⟨fresh, served⟩ := target?_eq_some.mp found
      exact .unbridged free fresh served mem
    · rintro ⟨⟩
      next told => exact ⟨_, _, told, rfl⟩
  have unmatched : Leaves sources dests config heard key .unmatched ↔
      config.ignored.get? key = none ∧ ∃ source ∈ unclaimed config.custom.contains sources,
        Text.fold source.name = key ∧ counterpart? dests source.name = none := by
    constructor
    · rintro ⟨⟩
      next free fresh unserved => exact ⟨fresh, _, free, rfl, unserved⟩
    · rintro ⟨fresh, source, free, rfl, unserved⟩
      exact .unmatched free fresh unserved
  -- Members of one name share their counterpart, so a refused name is not an unmatched one as well.
  have apart (turned : Leaves sources dests config heard key .unbridged) :
      ¬Leaves sources dests config heard key .unmatched := by
    rw [unmatched]
    rintro ⟨-, source, -, same, unserved⟩
    cases turned with
    | unbridged _ _ served _ =>
      rw [counterpart?_congr same, served] at unserved
      simp at unserved
  rw [built.ignored key omission]
  split
  next refused =>
    have turned := refusals.mp refused
    rw [turned.fresh]
    constructor
    · rintro rfl
      exact .inr turned
    · rintro (known | leaves)
      · simp at known
      · cases omission with
        | unbridged => rfl
        | unmatched => exact absurd leaves (apart turned)
        | explicit => cases leaves
  next kept =>
    refine or_congr_right ?_
    cases omission with
    | explicit =>
      constructor
      · rintro ⟨⟨⟩, _⟩
      · rintro ⟨⟩
    | unmatched => simp [unmatched]
    | unbridged => simp [← refusals, kept]

/-- A build asks nothing about a name that is ignored. -/
theorem Built.silent (built : Built dialogue sources dests config heard composed later)
    {key : String} {omission : Omission} (known : config.ignored.get? key = some omission)
    {exchange : Exchange κ} (mem : exchange ∈ heard) :
    Text.fold exchange.question.source.name ≠ key ∧
      Text.fold exchange.question.dest.name ≠ key := by
  obtain ⟨source, _, dest, found, asked⟩ := built.asks mem
  obtain ⟨fresh, served⟩ := target?_eq_some.mp found
  have apart : Text.fold source.name ≠ key := by
    rintro rfl
    exact absurd (known.symm.trans fresh) (by simp)
  rw [asked]
  exact ⟨apart, (fold_of_counterpart? served).trans_ne apart⟩

/-- What a plan lists under an ignored name is ignored or has a source of its own. -/
theorem Built.kind_of_ignored {composition : Composition κ}
    (built : Built dialogue sources dests config heard (.ok composition) later)
    (keyed : ∀ entry ∈ config.custom.entries, entry.1 = Text.fold entry.2.dest)
    {key : String} {omission : Omission} (known : config.ignored.get? key = some omission)
    {binding : Binding} (mem : binding ∈ composition.bindings)
    (named : Text.fold binding.name = key) :
    binding.kind = .ignored ∨ binding.kind = .custom ∧ config.custom.contains key = true := by
  obtain ⟨autos, rfl, autos_deal, _⟩ := built.steps
  obtain ⟨step, listed, rfl⟩ := List.mem_map.mp mem
  rcases List.mem_append.mp listed with matched | own
  · obtain ⟨source, _, deals⟩ := autos_deal step matched
    refine .inl (deals.kind.resolve_right fun auto => ?_)
    have fresh := deals.free auto
    rw [← deals.name, named, known] at fresh
    simp at fresh
  · obtain ⟨entry, held, rfl⟩ := List.mem_map.mp own
    rw [Config.Tells.name_ofCustom, ← keyed entry held] at named
    have claimed := OrderedMap.contains_iff_mem.mpr ⟨entry, held, named⟩
    unfold Step.ofCustom
    split
    next => exact .inl rfl
    next => exact .inr ⟨rfl, claimed⟩

/-- A plan lists every member that it matches. -/
theorem Built.lists {composition : Composition κ}
    (built : Built dialogue sources dests config heard (.ok composition) later)
    {source : Property Record} (free : source ∈ unclaimed config.custom.contains sources) :
    ∃ binding ∈ composition.bindings, Text.fold binding.name = Text.fold source.name := by
  obtain ⟨autos, rfl, -, autos_cover⟩ := built.steps
  obtain ⟨step, listed, deals⟩ := autos_cover source free
  exact ⟨step.binding, List.mem_map_of_mem (List.mem_append_left _ listed), deals.name⟩

theorem Built.calm {composition : Composition κ}
    (built : Built dialogue sources dests config heard (.ok composition) later) :
    heard.findSome? (·.answer.panic?) = none := by
  have outcome := built.outcome
  cases found : heard.findSome? (·.answer.panic?) with
  | some text => simp [found] at outcome
  | none => rfl

/-- A build that has succeeded has been refused nothing but what it leaves. -/
theorem Built.answered {composition : Composition κ}
    (built : Built dialogue sources dests config heard (.ok composition) later)
    {exchange : Exchange κ} (mem : exchange ∈ heard) :
    (∃ converter, exchange.answer = .convert converter) ∨
      Leaves sources dests config heard (Text.fold exchange.question.source.name) .unbridged := by
  obtain ⟨source, free, dest, found, asked⟩ := built.asks mem
  obtain ⟨fresh, served⟩ := target?_eq_some.mp found
  obtain ⟨question, answer⟩ := exchange
  obtain rfl : question = _ := asked
  cases answer with
  | convert converter => exact .inl ⟨converter, rfl⟩
  | refuse error => exact .inr (.unbridged free fresh served mem)
  | panic text =>
    exact absurd (List.findSome?_eq_none_iff.mp built.calm _ mem) (by simp [Resolution.panic?])

/-- A build that follows another hears nothing but success and leaves nothing more, if it is
answered as the other was. -/
theorem Built.again {other : Dialogue σ κ} {middle : Config κ} {more : List (Exchange κ)}
    {composition : Composition κ}
    (built : Built dialogue sources dests config heard (.ok composition) middle)
    (again : Built other sources dests middle more composed later)
    (alike : ∀ first ∈ heard, ∀ second ∈ more, first.question = second.question →
      first.answer = second.answer) :
    (∀ exchange ∈ more, ∃ converter, exchange.answer = .convert converter) ∧
      ∀ key omission, ¬Leaves sources dests middle more key omission := by
  have custom : middle.custom = config.custom := by rw [built.others]
  have unknown {key : String} (fresh : middle.ignored.get? key = none) (omission : Omission) :
      config.ignored.get? key = none ∧ ¬Leaves sources dests config heard key omission := by
    have grown := fun omission => built.ignored_iff key omission
    simp only [fresh, reduceCtorEq, false_iff, not_or] at grown
    exact ⟨Option.eq_none_iff_forall_not_mem.mpr fun omission => (grown omission).1,
      (grown omission).2⟩
  have converts : ∀ exchange ∈ more, ∃ converter, exchange.answer = .convert converter := by
    intro second mem
    obtain ⟨source, free, dest, found, asked⟩ := again.asks mem
    obtain ⟨fresh, served⟩ := target?_eq_some.mp found
    obtain ⟨fresh', unleft⟩ := unknown fresh .unbridged
    have listed := mem_questions (custom ▸ free) (target?_eq_some.mpr ⟨fresh', served⟩)
    rw [← built.finished built.calm] at listed
    obtain ⟨first, told, same⟩ := List.mem_map.mp listed
    rw [← alike first told second mem (same.trans asked.symm)]
    refine (built.answered told).resolve_right fun leaves => unleft ?_
    rwa [same] at leaves
  refine ⟨converts, fun key omission leaves => ?_⟩
  cases leaves with
  | unmatched free fresh unserved =>
    obtain ⟨fresh', unleft⟩ := unknown fresh .unmatched
    exact unleft (.unmatched (custom ▸ free) fresh' unserved)
  | unbridged free fresh served told =>
    obtain ⟨converter, same⟩ := converts _ told
    simp at same

end Plan

namespace Moment

def Leaves (id : MapperId) (mapper : Mapper κ) (moment : Moment κ) (key : String)
    (omission : Omission) : Prop :=
  Plan.Leaves (moment.world.schema.properties mapper.source)
    (moment.world.schema.properties mapper.dest) mapper.config (moment.heard id) key omission

structure Idle (id : MapperId) (moment : Moment κ) : Prop where
  composes : moment.composition? id = none
  uses : ∀ action, moment.done? id = some action → action.configures = false

namespace Does

variable {id : MapperId} {mapper later : Mapper κ} {moment : Moment κ}

theorem slots (does : Does id mapper moment later) :
    later.source = mapper.source ∧ later.dest = mapper.dest := by
  cases does <;> exact ⟨rfl, rfl⟩

theorem same_of_idle (does : Does id mapper moment later) (idle : moment.Idle id) :
    later = mapper := by
  cases does with
  | nothing => rfl
  | set _ _ done sets => exact absurd sets.configures (by simp [idle.uses _ done])
  | built building | aborted building =>
    exact absurd (idle.composes.symm.trans building) (by simp)

/-- Whatever is ignored after a moment was so before, or the mapper has just been told to ignore it,
or a build has just left it. -/
theorem ignored_iff (does : Does id mapper moment later) (key : String) (omission : Omission) :
    later.config.ignored.get? key = some omission ↔
      (∃ dest, moment.done? id = some (.ignore dest) ∧ Text.fold dest = key) ∧
          omission = .explicit ∨
      (¬∃ dest, moment.done? id = some (.ignore dest) ∧ Text.fold dest = key) ∧
        (mapper.config.ignored.get? key = some omission ∨
          moment.composition? id ≠ none ∧ moment.Leaves id mapper key omission) := by
  have untold (uses : ∀ action, moment.done? id = some action → action.configures = false) :
      ¬∃ dest, moment.done? id = some (.ignore dest) ∧ Text.fold dest = key :=
    fun ⟨_, done, _⟩ => nomatch uses _ done
  cases does with
  | nothing idle uses => simp [untold uses, idle]
  | @set action change idle healthy done sets =>
    simp only [done, idle, ne_eq, not_true_eq_false, false_and, or_false, Option.some.injEq]
    cases sets with
    | @ignore dest name same =>
      by_cases here : Text.fold dest = key
      · simp [Config.ignore, same, here, eq_comm]
      · simp [Config.ignore, same, here]
    | register assigns =>
      have apart : ∀ other, action ≠ .ignore other := by
        rintro other rfl
        simp [Mapper.Action.assigns?] at assigns
      simp [Config.register, apart]
    | before | after | constructor => simp
  | built building healthy uses composes | aborted building healthy uses composes =>
    simp only [untold uses, false_and, not_false_eq_true, true_and, false_or, building, ne_eq,
      reduceCtorEq]
    exact composes.ignored_iff key omission

end Does

/-- A build completes at the moment and adds the name to what its mapper ignores. -/
def Records [Closures κ] (id : MapperId) (key : String) (moment : Moment κ) : Prop :=
  moment.completes id = true ∧ ∃ mapper later,
    moment.world.mappers[id]? = some mapper ∧ mapper.config.ignored.get? key = none ∧
      (moment.world.serve moment.held moment.request).2.mappers[id]? = some later ∧
      later.config.ignored.contains key = true

end Moment

namespace World

section Histories

variable [Closures κ] {schema : Schema} {tracing : Bool} {past more : List (Moment κ)}
  {first world last : World κ} {id : MapperId} {mapper : Mapper κ}

theorem serve_composes {held : List Hold} {request : Request κ}
    {composed : Except String (Composition κ)} (found : world.mappers[id]? = some mapper)
    (building : Moment.composition? id ⟨world, held, request⟩ = some composed) :
    ∃ later, (world.serve held request).2.mappers[id]? = some later ∧
      (later.source = mapper.source ∧ later.dest = mapper.dest) ∧
      Moment.Composes id mapper ⟨world, held, request⟩ composed later.config := by
  obtain ⟨later, kept, does⟩ := serve_does found held request
  refine ⟨later, kept, does.slots, ?_⟩
  cases does with
  | nothing idle | set idle => exact absurd (idle.symm.trans building) (by simp)
  | built building' _ _ composes | aborted building' _ _ composes =>
    obtain rfl := Option.some.inj (building'.symm.trans building)
    exact composes

/-- Nothing that is ignored is forgotten, and only being told to ignore it changes its reason. -/
theorem History.keeps (history : History first more last)
    (found : first.mappers[id]? = some mapper) :
    ∃ later, last.mappers[id]? = some later ∧
      (later.source = mapper.source ∧ later.dest = mapper.dest) ∧
      ∀ key omission, mapper.config.ignored.get? key = some omission →
        later.config.ignored.get? key = some omission ∨
          later.config.ignored.get? key = some .explicit ∧
            ∃ dest, .ignore dest ∈ more.filterMap (·.done? id) ∧ Text.fold dest = key := by
  refine history.onward (P := fun past later =>
      (later.source = mapper.source ∧ later.dest = mapper.dest) ∧
      ∀ key omission, mapper.config.ignored.get? key = some omission →
        later.config.ignored.get? key = some omission ∨
          later.config.ignored.get? key = some .explicit ∧
            ∃ dest, .ignore dest ∈ past.filterMap (·.done? id) ∧ Text.fold dest = key)
    found ⟨⟨rfl, rfl⟩, fun _ _ known => .inl known⟩ ?_
  rintro past moment middle later ⟨slots, before⟩ does
  refine ⟨⟨does.slots.1.trans slots.1, does.slots.2.trans slots.2⟩, fun key omission known => ?_⟩
  rw [List.filterMap_append]
  by_cases told : ∃ dest, moment.done? id = some (.ignore dest) ∧ Text.fold dest = key
  · refine .inr ⟨(does.ignored_iff key .explicit).mpr (.inl ⟨told, rfl⟩), ?_⟩
    obtain ⟨dest, done, same⟩ := told
    exact ⟨dest, List.mem_append_right _ (by simp [done]), same⟩
  · have kept {omission : Omission} (known : middle.config.ignored.get? key = some omission) :
        later.config.ignored.get? key = some omission :=
      (does.ignored_iff key omission).mpr (.inr ⟨told, .inl known⟩)
    rcases before key omission known with same | ⟨explicit, dest, mem, same⟩
    · exact .inl (kept same)
    · exact .inr ⟨kept explicit, dest, List.mem_append_left _ mem, same⟩

theorem History.idle (history : History first more last)
    (found : first.mappers[id]? = some mapper) (idle : ∀ moment ∈ more, moment.Idle id) :
    last.mappers[id]? = some mapper := by
  obtain ⟨later, found', same⟩ := history.onward
    (P := fun past later => (∀ moment ∈ past, moment.Idle id) → later = mapper) found
    (fun _ => rfl) fun before does idle => by
      rw [List.forall_mem_append, List.forall_mem_singleton] at idle
      exact (does.same_of_idle idle.2).trans (before idle.1)
  exact same idle ▸ found'

/-- What a build has recorded stays on record, and is the name of a member of the source. -/
theorem History.recorded (history : History first past world)
    (found : world.mappers[id]? = some mapper) {moment : Moment κ} (mem : moment ∈ past)
    {key : String} (records : moment.Records id key) :
    (∃ omission, mapper.config.ignored.get? key = some omission) ∧
      ∃ source ∈ world.schema.properties mapper.source, source.isReadable = true ∧
        Text.fold source.name = key := by
  obtain ⟨completes, middle, later, found', fresh, kept, known⟩ := records
  obtain ⟨early, rest, rfl⟩ := List.append_of_mem mem
  obtain ⟨before, after⟩ := history.split
  obtain ⟨composition, building⟩ := Moment.completes_iff.mp completes
  obtain ⟨later', kept', slots, composes⟩ := serve_composes found' building
  obtain rfl := Option.some.inj (kept'.symm.trans kept)
  obtain ⟨last, found'', slots', keeps⟩ := after.keeps kept
  obtain rfl := Option.some.inj (found''.symm.trans found)
  obtain ⟨omission, known⟩ := OrderedMap.contains_iff.mp known
  constructor
  · rcases keeps key omission known with same | ⟨explicit, _⟩
    · exact ⟨omission, same⟩
    · exact ⟨.explicit, explicit⟩
  · have same : moment.world.schema = world.schema := by rw [before.schema, history.schema]
    have leaves := ((composes.ignored_iff key omission).mp known).resolve_left (by simp [fresh])
    obtain ⟨source, free, rfl⟩ := leaves.exists_source
    obtain ⟨listed, readable, -⟩ := Plan.mem_unclaimed.mp free
    rw [same, ← slots.1, ← slots'.1] at listed
    exact ⟨source, listed, readable, rfl⟩

/-- A plan lists the name of every member of the source that can be read. -/
theorem History.lists (history : History (initial schema tracing) past world)
    (found : world.mappers[id]? = some mapper) {source : Property Record}
    (listed : source ∈ world.schema.properties mapper.source)
    (readable : source.isReadable = true) {held : List Hold} {request : Request κ} {plan : Plan κ}
    (made : Moment.built? id ⟨world, held, request⟩ = some plan) :
    ∃ binding ∈ plan.bindings, Text.fold binding.name = Text.fold source.name := by
  obtain ⟨composition, later, rfl, composes⟩ := composes_of_built found made
  cases claimed : mapper.config.custom.contains (Text.fold source.name) with
  | true =>
    obtain ⟨binding, once, -⟩ := (history.tells found).bound_once composes claimed
    have mem : binding ∈ composition.bindings.filter fun binding =>
        Text.fold binding.name = Text.fold source.name := once ▸ List.mem_cons_self
    obtain ⟨listed, named⟩ := List.mem_filter.mp mem
    exact ⟨binding, listed, by simpa using named⟩
  | false => exact composes.lists (Plan.mem_unclaimed.mpr ⟨listed, readable, claimed⟩)

/-- A build right after another hears nothing but success and adds nothing. -/
theorem History.again {early : List (Moment κ)} {earlier : Moment κ}
    (history : History first (early ++ earlier :: more) world)
    (found : world.mappers[id]? = some mapper) (completes : earlier.completes id = true)
    (idle : ∀ moment ∈ more, moment.Idle id) {held : List Hold} {request : Request κ}
    {composed : Except String (Composition κ)}
    (building : Moment.composition? id ⟨world, held, request⟩ = some composed)
    (alike : ∀ first ∈ earlier.heard id, ∀ second ∈ Moment.heard id ⟨world, held, request⟩,
      first.question = second.question → first.answer = second.answer) :
    (∃ composition, composed = .ok composition) ∧
      (∀ exchange ∈ Moment.heard id ⟨world, held, request⟩,
        ∃ converter, exchange.answer = .convert converter) ∧
      ∃ later, (world.serve held request).2.mappers[id]? = some later ∧
        ∀ key, later.config.ignored.get? key = mapper.config.ignored.get? key := by
  obtain ⟨composition, completed⟩ := Moment.completes_iff.mp completes
  obtain ⟨start, started⟩ := Moment.found_of_composition completed
  obtain ⟨before, after⟩ := history.split
  -- The second build starts from the configuration that the first has left.
  obtain ⟨middle, kept, slots, first⟩ := serve_composes started completed
  obtain rfl : mapper = middle := Option.some.inj (found.symm.trans (after.idle kept idle))
  obtain ⟨later, kept', -, second⟩ := serve_composes found building
  have same : earlier.world.schema = world.schema := by rw [before.schema, history.schema]
  unfold Moment.Composes at first second
  rw [same, ← slots.1, ← slots.2] at first
  obtain ⟨converts, unleft⟩ := first.again second alike
  refine ⟨?_, converts, later, kept', fun key => Option.ext fun omission => ?_⟩
  · have calm : ∀ exchange ∈ Moment.heard id ⟨world, held, request⟩,
        exchange.answer.panic? = none := by
      intro exchange mem
      obtain ⟨converter, answer⟩ := converts exchange mem
      rw [answer]
      rfl
    exact ⟨_, (second.of_calm calm).1⟩
  · simpa [unleft key omission] using second.ignored_iff key omission

/-- How the ignored members of a mapper evolve, from what a history has left of them. -/
structure Omissions (past : List (Moment κ)) (world : World κ) (id : MapperId)
    (mapper : Mapper κ) : Prop where
  /-- However a history goes on, nothing is forgotten, and a reason changes only when the mapper is
  told to ignore the name. -/
  kept : ∀ more last, History world more last → ∃ later, last.mappers[id]? = some later ∧
    ∀ key omission, mapper.config.ignored.get? key = some omission →
      later.config.ignored.get? key = some omission ∨
        later.config.ignored.get? key = some .explicit ∧
          ∃ dest, .ignore dest ∈ more.filterMap (·.done? id) ∧ Text.fold dest = key
  /-- A build adds just what it leaves, and does not touch the sources of the members' own. -/
  built : ∀ held request composed,
    Moment.composition? id ⟨world, held, request⟩ = some composed →
    ∃ later, (world.serve held request).2.mappers[id]? = some later ∧
      later.config.custom = mapper.config.custom ∧
      ∀ key omission, later.config.ignored.get? key = some omission ↔
        mapper.config.ignored.get? key = some omission ∨
          Moment.Leaves id mapper ⟨world, held, request⟩ key omission
  unbuilt : ∀ held request, Moment.composition? id ⟨world, held, request⟩ = none →
    ∃ later, (world.serve held request).2.mappers[id]? = some later ∧
      ∀ key, later.config.ignored.get? key = mapper.config.ignored.get? key ∨
        later.config.ignored.get? key = some .explicit ∧
          ∃ dest, Moment.done? id ⟨world, held, request⟩ = some (.ignore dest) ∧
            Text.fold dest = key
  /-- The service is asked about no ignored name, whatever it could answer by now. -/
  silent : ∀ key omission, mapper.config.ignored.get? key = some omission →
    ∀ held request, ∀ exchange ∈ Moment.heard id ⟨world, held, request⟩,
      Text.fold exchange.question.source.name ≠ key ∧
        Text.fold exchange.question.dest.name ≠ key
  unmatched : ∀ key omission, mapper.config.ignored.get? key = some omission →
    ∀ held request plan, Moment.built? id ⟨world, held, request⟩ = some plan →
      ∀ binding ∈ plan.bindings, Text.fold binding.name = key →
        binding.kind = .ignored ∨
          binding.kind = .custom ∧ mapper.config.custom.contains key = true
  listed : ∀ moment ∈ past, ∀ key, moment.Records id key →
    (∃ omission, mapper.config.ignored.get? key = some omission) ∧
      ∀ held request plan, Moment.built? id ⟨world, held, request⟩ = some plan →
        ∃ binding ∈ plan.bindings, Text.fold binding.name = key
  /-- A build right after another hears nothing but success and adds nothing, provided that the
  service answers equal questions of the two equally. -/
  again : ∀ early earlier more, past = early ++ earlier :: more → earlier.completes id = true →
    (∀ moment ∈ more, moment.Idle id) →
    ∀ held request composed, Moment.composition? id ⟨world, held, request⟩ = some composed →
      (∀ first ∈ earlier.heard id, ∀ second ∈ Moment.heard id ⟨world, held, request⟩,
        first.question = second.question → first.answer = second.answer) →
      (∃ composition, composed = .ok composition) ∧
        (∀ exchange ∈ Moment.heard id ⟨world, held, request⟩,
          ∃ converter, exchange.answer = .convert converter) ∧
        ∃ later, (world.serve held request).2.mappers[id]? = some later ∧
          ∀ key, later.config.ignored.get? key = mapper.config.ignored.get? key

/-- The ignored members only become more, each for the reason for which it was left out first,
unless the mapper has been told to ignore it. -/
theorem omissions_only_grow (history : History (initial schema tracing) past world)
    (found : world.mappers[id]? = some mapper) : Omissions past world id mapper := by
  have tells := history.tells found
  constructor
  · intro more last after
    obtain ⟨later, found', -, keeps⟩ := after.keeps found
    exact ⟨later, found', keeps⟩
  · intro held request composed building
    obtain ⟨later, kept, -, composes⟩ := serve_composes found building
    have others := composes.others
    exact ⟨later, kept, by rw [others], fun key omission => composes.ignored_iff key omission⟩
  · intro held request idle
    obtain ⟨later, kept, does⟩ := serve_does found held request
    refine ⟨later, kept, fun key => ?_⟩
    by_cases told : ∃ dest, Moment.done? id ⟨world, held, request⟩ = some (.ignore dest) ∧
        Text.fold dest = key
    · exact .inr ⟨(does.ignored_iff key .explicit).mpr (.inl ⟨told, rfl⟩), told⟩
    · refine .inl (Option.ext fun omission => ?_)
      simpa [told, idle] using does.ignored_iff key omission
  · intro key omission known held request exchange mem
    cases building : Moment.composition? id ⟨world, held, request⟩ with
    | none =>
      rw [Moment.heard_of_idle building] at mem
      exact absurd mem List.not_mem_nil
    | some composed =>
      obtain ⟨later, -, -, composes⟩ := serve_composes found building
      exact composes.silent known mem
  · intro key omission known held request plan made binding mem named
    obtain ⟨composition, later, rfl, composes⟩ := composes_of_built found made
    exact composes.kind_of_ignored (fun entry held => (tells.keyed entry held).1) known mem named
  · intro moment mem key records
    obtain ⟨known, source, listed, readable, rfl⟩ := history.recorded found mem records
    exact ⟨known, fun held request plan made => history.lists found listed readable made⟩
  · rintro early earlier more rfl completes idle held request composed building alike
    exact history.again found completes idle building alike

end Histories

/-- The first of two twins is refused, so that later neither is asked about any more. -/
theorem omissions_only_grow_of_twins :
    let world := (initial Schema.twins false : World Closure).after
      [.newMapper "mapper" 0 1 none, .mapper "mapper" (.compile none)]
    ∃ past mapper, History (initial Schema.twins false) past world ∧
      world.mappers[0]? = some mapper ∧ Omissions past world 0 mapper ∧
      (∃ moment ∈ past, moment.Records 0 "a") ∧
      mapper.config.ignored.get? "a" = some .unbridged ∧
      (Moment.built? 0 ⟨world, [], .mapper 0 (.recompile none)⟩).map (·.bindings) =
        some [.ignored "A", .ignored "a"] := by
  intro world
  have history := History.of_operations (initial Schema.twins false : World Closure)
    [.newMapper "mapper" 0 1 none, .mapper "mapper" (.compile none)]
  have found : world.mappers[0]? = some _ := rfl
  refine ⟨_, _, history, found, omissions_only_grow history found,
    ⟨_, List.mem_cons_of_mem _ List.mem_cons_self, by decide +kernel, _, _, rfl, rfl, rfl, ?_⟩, ?_,
    ?_⟩
  all_goals decide +kernel

end World

end RecordMapping
