import RecordMapping.Proofs.Reference

namespace RecordMapping

variable {σ κ : Type}

theorem OrderedMap.contains_iff {α β : Type} [DecidableEq α] {map : OrderedMap α β} {key : α} :
    map.contains key = true ↔ ∃ value, map.get? key = some value :=
  Option.isSome_iff_exists

theorem Plan.counterpart?_congr {dests : List (Property Record)} {a b : String}
    (same : Text.fold a = Text.fold b) : counterpart? dests a = counterpart? dests b := by
  simp [counterpart?, Property.named?, same]

theorem Plan.target?_of_none {dests : List (Property Record)} {ignored : Ignored}
    {source : Property Record} (unserved : counterpart? dests source.name = none) :
    target? dests ignored source = none := by
  simp [target?, unserved]

/-- Remembering a name that no writable member has makes no difference to any member. -/
theorem Plan.candidate_insert {dests : List (Property Record)} {source : Property Record}
    (unserved : counterpart? dests source.name = none) (ignored : Ignored) (omission : Omission) :
    candidate dests (ignored.insert (Text.fold source.name) omission) =
      candidate dests ignored := by
  funext other
  by_cases same : Text.fold source.name = Text.fold other.name
  · have unserved' := (counterpart?_congr same).symm.trans unserved
    simp only [candidate, target?_of_none unserved']
  · have apart : (ignored.insert (Text.fold source.name) omission).contains (Text.fold other.name) =
        ignored.contains (Text.fold other.name) := by
      simp [OrderedMap.contains, same]
    simp only [candidate, target?, apart]

theorem Match.find_of_claimed {dests : List (Property Record)} {custom : String → Bool}
    {ignored : Ignored} {source : Property Record}
    (claimed : ¬ (source.isReadable && !custom (Text.fold source.name)) = true) :
    find dests custom ignored source = .claimed := by
  have taken : (!source.isReadable || custom (Text.fold source.name)) = true := by
    simpa [Decidable.or_iff_not_imp_left] using claimed
  simp [find, taken]

theorem Match.find_of_unclaimed {dests : List (Property Record)} {custom : String → Bool}
    {ignored : Ignored} {source : Property Record}
    (free : (source.isReadable && !custom (Text.fold source.name)) = true) :
    find dests custom ignored source =
      if ignored.contains (Text.fold source.name) then .ignored
      else match Plan.counterpart? dests source.name with
        | none => .unmatched (Property.named? dests source.name).isSome
        | some dest => .paired dest := by
  have open' : (!source.isReadable || custom (Text.fold source.name)) = false := by
    simpa using free
  simp only [find, open', Plan.counterpart?]
  cases Property.named? dests source.name with
  | none => rfl
  | some dest => by_cases writable : dest.isWritable <;> simp [Option.filter, writable]

namespace Plan

theorem unclaimed_cons_of_claimed {custom : String → Bool} {source : Property Record}
    (claimed : ¬ (source.isReadable && !custom (Text.fold source.name)) = true)
    (rest : List (Property Record)) : unclaimed custom (source :: rest) = unclaimed custom rest :=
  List.filter_cons_of_neg claimed

theorem unclaimed_cons_of_free {custom : String → Bool} {source : Property Record}
    (free : (source.isReadable && !custom (Text.fold source.name)) = true)
    (rest : List (Property Record)) :
    unclaimed custom (source :: rest) = source :: unclaimed custom rest :=
  List.filter_cons_of_pos free

theorem matchMembers_candidates (dialogue : Dialogue σ κ) (dests : List (Property Record))
    (custom : String → Bool) (sources : List (Property Record)) (ignored : Ignored) (state : σ) :
    (matchMembers dialogue dests custom sources ignored state).1 =
      (unclaimed custom sources).map (candidate dests ignored) := by
  induction sources generalizing ignored state with
  | nil => rfl
  | cons source rest ih =>
    by_cases free : (source.isReadable && !custom (Text.fold source.name)) = true
    · rw [unclaimed_cons_of_free free]
      by_cases held : ignored.contains (Text.fold source.name) = true
      · simp [matchMembers, Match.find_of_unclaimed free, held, ih, candidate, target?]
      · cases found : counterpart? dests source.name with
        | none =>
          -- The rest is matched against a longer list of ignored names, to no effect.
          simp [matchMembers, Match.find_of_unclaimed free, held, found, ih,
            candidate_insert found, candidate, target?]
        | some dest =>
          simp [matchMembers, Match.find_of_unclaimed free, held, found, ih, candidate, target?]
    · simp [matchMembers, Match.find_of_claimed free, ih, unclaimed_cons_of_claimed free]

theorem matchMembers_cons_ignored (dialogue : Dialogue σ κ) (dests : List (Property Record))
    (custom : String → Bool) (source : Property Record) (rest : List (Property Record))
    (ignored : Ignored) (state : σ) :
    (matchMembers dialogue dests custom (source :: rest) ignored state).2.1 =
      match Match.find dests custom ignored source with
      | .unmatched readOnly =>
        (matchMembers dialogue dests custom rest
          (ignored.insert (Text.fold source.name) .unmatched)
          (dialogue.report (.unmatched source.name readOnly) state)).2.1
      | _ => (matchMembers dialogue dests custom rest ignored state).2.1 := by
  cases found : Match.find dests custom ignored source <;> simp only [matchMembers, found]

/-- Matching remembers the names that no writable member has, unless they are ignored already. -/
theorem matchMembers_ignored (dialogue : Dialogue σ κ) (dests : List (Property Record))
    (custom : String → Bool) (sources : List (Property Record)) (ignored : Ignored) (state : σ)
    (key : String) (omission : Omission) :
    (matchMembers dialogue dests custom sources ignored state).2.1.get? key = some omission ↔
      ignored.get? key = some omission ∨ omission = .unmatched ∧ ignored.get? key = none ∧
        ∃ source ∈ unclaimed custom sources,
          Text.fold source.name = key ∧ counterpart? dests source.name = none := by
  induction sources generalizing ignored state with
  | nil => simp [matchMembers, unclaimed]
  | cons source rest ih =>
    rw [matchMembers_cons_ignored]
    by_cases free : (source.isReadable && !custom (Text.fold source.name)) = true
    · rw [unclaimed_cons_of_free free]
      by_cases held : ignored.contains (Text.fold source.name) = true
      · obtain ⟨old, known⟩ := OrderedMap.contains_iff.mp held
        have found : Match.find dests custom ignored source = .ignored := by
          simp [Match.find_of_unclaimed free, held]
        simp only [found, ih, List.mem_cons]
        grind
      · have absent : ignored.get? (Text.fold source.name) = none := by
          simpa [OrderedMap.contains] using held
        cases served : counterpart? dests source.name with
        | none =>
          obtain ⟨readOnly, found⟩ : ∃ readOnly,
              Match.find dests custom ignored source = .unmatched readOnly := by
            simp [Match.find_of_unclaimed free, held, served]
          simp only [found, ih, OrderedMap.get?_insert, List.mem_cons]
          grind
        | some dest =>
          have found : Match.find dests custom ignored source = .paired dest := by
            simp [Match.find_of_unclaimed free, held, served]
          simp only [found, ih, List.mem_cons]
          grind
    · simp only [Match.find_of_claimed free, ih, unclaimed_cons_of_claimed free]

def refused : List Candidate → List (Resolution κ) → List String
  | [], _ => []
  | .leftOut _ :: rest, answers => refused rest answers
  | .pair source _ :: rest, .refuse _ :: answers => Text.fold source.name :: refused rest answers
  | .pair _ _ :: rest, answers => refused rest answers.tail

@[simp] theorem refused_nil (candidates : List Candidate) :
    refused candidates ([] : List (Resolution κ)) = [] := by
  induction candidates with
  | nil => rfl
  | cons candidate rest ih => cases candidate <;> simpa [refused] using ih

/-- How candidates are bridged when `exchanges` are what is asked and answered. -/
structure Bridged (dialogue : Dialogue σ κ) (candidates : List Candidate) (ignored : Ignored)
    (exchanges : List (Exchange κ)) (outcome : Except String (Composition κ)) (later : Ignored) :
    Prop where
  answers : ∀ exchange ∈ exchanges, ∃ state,
    (dialogue.ask exchange.question state).1 = exchange.answer
  asked : exchanges.map (·.question) <+: candidates.filterMap Candidate.question?
  finished : exchanges.findSome? (·.answer.panic?) = none →
    exchanges.map (·.question) = candidates.filterMap Candidate.question?
  unbroken : exchanges.Pairwise fun exchange _ => exchange.answer.panic? = none
  outcome : outcome = match exchanges.findSome? (·.answer.panic?) with
    | some text => .error text
    | none => .ok (.ofSteps (answered candidates (exchanges.map (·.answer))))
  ignored : ∀ key, later.get? key =
    if key ∈ refused candidates (exchanges.map (·.answer)) then some .unbridged
    else ignored.get? key

theorem bridgeMembers_transcribed (dialogue : Dialogue σ κ) (candidates : List Candidate)
    (ignored : Ignored) (state : σ) (past : List (Exchange κ)) :
    ∃ exchanges,
      (bridgeMembers dialogue.transcribed candidates ignored (state, past)).2.2.2 =
        past ++ exchanges ∧
      Bridged dialogue candidates ignored exchanges
        (bridgeMembers dialogue.transcribed candidates ignored (state, past)).1
        (bridgeMembers dialogue.transcribed candidates ignored (state, past)).2.1 := by
  induction candidates generalizing ignored state past with
  | nil =>
    refine ⟨[], by simp [bridgeMembers], by simp, by simp, by simp, .nil, rfl, ?_⟩
    simp [refused, bridgeMembers]
  | cons candidate rest ih =>
    cases candidate with
    | leftOut name =>
      obtain ⟨exchanges, transcript, later⟩ := ih ignored state past
      refine ⟨exchanges, transcript, later.answers, later.asked, later.finished, later.unbroken, ?_,
        later.ignored⟩
      simp only [bridgeMembers, later.outcome]
      cases exchanges.findSome? (·.answer.panic?) <;> rfl
    | pair source dest =>
      -- A question adds one exchange to the transcript, and the rest of the candidates the others.
      obtain ⟨answer, next, heard⟩ : ∃ answer next,
          dialogue.ask (.member dest.signature source.signature) state = (answer, next) :=
        ⟨_, _, rfl⟩
      let exchange : Exchange κ := ⟨.member dest.signature source.signature, answer⟩
      have noted : dialogue.transcribed.ask (.member dest.signature source.signature)
          (state, past) = (answer, next, past ++ [exchange]) := by
        simp [Dialogue.transcribed, heard, exchange]
      have genuine : ∃ state, (dialogue.ask exchange.question state).1 = exchange.answer :=
        ⟨state, by rw [heard]⟩
      cases answer with
      | convert converter =>
        obtain ⟨exchanges, transcript, later⟩ := ih ignored next (past ++ [exchange])
        refine ⟨exchange :: exchanges, ?_, ?_, ?_, ?_, ?_, ?_, ?_⟩
        · simpa [bridgeMembers, noted] using transcript
        · exact List.forall_mem_cons.mpr ⟨genuine, later.answers⟩
        · exact List.cons_prefix_cons.mpr ⟨rfl, later.asked⟩
        · intro calm
          exact congrArg _ (later.finished calm)
        · exact List.pairwise_cons.mpr ⟨fun _ _ => rfl, later.unbroken⟩
        · rw [show (exchange :: exchanges).findSome? (·.answer.panic?) =
            exchanges.findSome? (·.answer.panic?) from rfl]
          simp only [bridgeMembers, noted, later.outcome]
          cases exchanges.findSome? (·.answer.panic?) <;> rfl
        · simp only [bridgeMembers, noted]
          exact later.ignored
      | refuse error =>
        -- A refusal is on record before the next candidate is asked about.
        obtain ⟨exchanges, transcript, later⟩ := ih
          (ignored.insert (Text.fold source.name) .unbridged)
          (dialogue.report (.notBridged dest.name error) next) (past ++ [exchange])
        refine ⟨exchange :: exchanges, ?_, ?_, ?_, ?_, ?_, ?_, ?_⟩
        · simpa [bridgeMembers, noted, Dialogue.transcribed_report] using transcript
        · exact List.forall_mem_cons.mpr ⟨genuine, later.answers⟩
        · exact List.cons_prefix_cons.mpr ⟨rfl, later.asked⟩
        · intro calm
          exact congrArg _ (later.finished calm)
        · exact List.pairwise_cons.mpr ⟨fun _ _ => rfl, later.unbroken⟩
        · rw [show (exchange :: exchanges).findSome? (·.answer.panic?) =
            exchanges.findSome? (·.answer.panic?) from rfl]
          simp only [bridgeMembers, noted, Dialogue.transcribed_report, later.outcome]
          cases exchanges.findSome? (·.answer.panic?) <;> rfl
        · intro key
          have grown := later.ignored key
          rw [OrderedMap.get?_insert] at grown
          simp only [bridgeMembers, noted, Dialogue.transcribed_report, grown, List.map_cons,
            exchange, refused, List.mem_cons]
          grind
      | panic text =>
        -- Nothing is asked after a panic, so this exchange is the last.
        refine ⟨[exchange], ?_, ?_, ?_, ?_, ?_, ?_, ?_⟩
        · simp [bridgeMembers, noted]
        · simpa using genuine
        · exact List.cons_prefix_cons.mpr ⟨rfl, List.nil_prefix⟩
        · simp [exchange, Resolution.panic?]
        · exact List.pairwise_singleton _ _
        · simp [bridgeMembers, noted, exchange, Resolution.panic?]
        · cases rest <;> simp [bridgeMembers, noted, exchange, refused, refused_nil]

theorem mem_refused {candidates : List Candidate} {answers : List (Resolution κ)} {key : String}
    (h : key ∈ refused candidates answers) :
    ∃ source dest, .pair source dest ∈ candidates ∧ Text.fold source.name = key := by
  induction candidates generalizing answers with
  | nil => simp [refused] at h
  | cons candidate rest ih =>
    have lift (later : ∃ source dest, .pair source dest ∈ rest ∧ Text.fold source.name = key) :
        ∃ source dest, .pair source dest ∈ candidate :: rest ∧ Text.fold source.name = key := by
      obtain ⟨source, dest, mem, same⟩ := later
      exact ⟨source, dest, List.mem_cons_of_mem _ mem, same⟩
    cases candidate with
    | leftOut name => exact lift (ih h)
    | pair source dest =>
      rcases answers with _ | ⟨_ | error | text, answers⟩
      · simp at h
      · exact lift (ih h)
      · rcases List.mem_cons.mp h with same | later
        · exact ⟨source, dest, List.mem_cons_self, same.symm⟩
        · exact lift (ih later)
      · exact lift (ih h)

theorem target?_eq_some {dests : List (Property Record)} {ignored : Ignored}
    {source dest : Property Record} :
    target? dests ignored source = some dest ↔
      ignored.get? (Text.fold source.name) = none ∧ counterpart? dests source.name = some dest := by
  by_cases held : ignored.contains (Text.fold source.name) = true
  · obtain ⟨old, known⟩ := OrderedMap.contains_iff.mp held
    simp [target?, held, known]
  · have absent : ignored.get? (Text.fold source.name) = none := by
      simpa [OrderedMap.contains] using held
    simp [target?, held, absent]

theorem mem_candidates_pair {sources dests : List (Property Record)} {config : Config κ}
    {source dest : Property Record} :
    .pair source dest ∈ candidates sources dests config ↔
      source ∈ unclaimed config.custom.contains sources ∧
        target? dests config.ignored source = some dest := by
  simp only [candidates, List.mem_map, candidate]
  constructor
  · rintro ⟨other, mem, same⟩
    cases found : target? dests config.ignored other with
    | none => simp [found] at same
    | some target =>
      simp only [found, Candidate.pair.injEq] at same
      obtain ⟨rfl, rfl⟩ := same
      exact ⟨mem, found⟩
  · rintro ⟨mem, found⟩
    exact ⟨source, mem, by simp [found]⟩

/-- What is ignored after a build: what was before, the names that the service refuses, and those
that no writable member has. -/
def Remembered (sources dests : List (Property Record)) (config : Config κ)
    (answers : List (Resolution κ)) (later : Ignored) : Prop :=
  ∀ key omission, later.get? key = some omission ↔
    if key ∈ refused (candidates sources dests config) answers then omission = .unbridged
    else config.ignored.get? key = some omission ∨
      omission = .unmatched ∧ config.ignored.get? key = none ∧
        ∃ source ∈ unclaimed config.custom.contains sources,
          Text.fold source.name = key ∧ counterpart? dests source.name = none

theorem Remembered.explicit {sources dests : List (Property Record)} {config : Config κ}
    {answers : List (Resolution κ)} {later : Ignored}
    (remembered : Remembered sources dests config answers later) (key : String) :
    later.get? key = some .explicit ↔ config.ignored.get? key = some .explicit := by
  rw [remembered key .explicit]
  split
  next turned =>
    obtain ⟨source, dest, mem, rfl⟩ := mem_refused turned
    have fresh := (target?_eq_some.mp (mem_candidates_pair.mp mem).2).1
    simp [fresh]
  next => simp

structure Built (dialogue : Dialogue σ κ) (sources dests : List (Property Record))
    (config : Config κ) (heard : List (Exchange κ)) (outcome : Except String (Composition κ))
    (later : Config κ) : Prop where
  answers : ∀ exchange ∈ heard, ∃ state,
    (dialogue.ask exchange.question state).1 = exchange.answer
  asked : heard.map (·.question) <+: questions sources dests config
  finished : heard.findSome? (·.answer.panic?) = none →
    heard.map (·.question) = questions sources dests config
  outcome : outcome = match heard.findSome? (·.answer.panic?) with
    | some text => .error text
    | none => .ok (.ofSteps (reference sources dests config (heard.map (·.answer))))
  others : later = { config with ignored := later.ignored }
  ignored : Remembered sources dests config (heard.map (·.answer)) later.ignored

theorem Step.ofCustom_congr {ignored later : Ignored}
    (same : ∀ key, later.get? key = some .explicit ↔ ignored.get? key = some .explicit) :
    (ofCustom later : String × CustomMember κ → Step κ) = ofCustom ignored := by
  funext entry
  simp only [ofCustom, same]

theorem matchMembers_transcribed (dialogue : Dialogue σ κ) (dests : List (Property Record))
    (custom : String → Bool) (sources : List (Property Record)) (ignored : Ignored)
    (state : σ × List (Exchange κ)) :
    (matchMembers dialogue.transcribed dests custom sources ignored state).2.2.2 = state.2 := by
  induction sources generalizing ignored state with
  | nil => rfl
  | cons source rest ih =>
    cases found : Match.find dests custom ignored source with
    | claimed | ignored | paired => simp only [matchMembers, found, ih]
    | unmatched =>
      simp only [matchMembers, found, ih]
      rfl

theorem compose_built (dialogue : Dialogue σ κ) (sources dests : List (Property Record))
    (config : Config κ) (state : σ) :
    Built dialogue sources dests config (heard dialogue sources dests config state)
      (compose dialogue sources dests config state).1
      (compose dialogue sources dests config state).2.1 := by
  have noted := dialogue.transcribed_similar.compose sources dests config
    (s := (state, [])) (t := state) rfl
  rw [← noted.result, ← noted.value]
  obtain ⟨found, ignored, after, matched⟩ : ∃ found ignored after,
      matchMembers dialogue.transcribed dests config.custom.contains sources config.ignored
        (state, []) = (found, ignored, after) := ⟨_, _, _, rfl⟩
  have silent := matchMembers_transcribed dialogue dests config.custom.contains sources
    config.ignored (state, [])
  have paired := matchMembers_candidates dialogue.transcribed dests config.custom.contains sources
    config.ignored (state, [])
  have grown := matchMembers_ignored dialogue.transcribed dests config.custom.contains sources
    config.ignored (state, [])
  rw [matched] at silent paired grown
  obtain ⟨asking, past⟩ := after
  obtain rfl : past = [] := silent
  obtain rfl : found = candidates sources dests config := paired
  obtain ⟨exchanges, transcript, bridged⟩ :=
    bridgeMembers_transcribed dialogue (candidates sources dests config) ignored asking []
  obtain ⟨outcome, later, last, answered⟩ : ∃ outcome later last,
      bridgeMembers dialogue.transcribed (candidates sources dests config) ignored (asking, []) =
        (outcome, later, last) := ⟨_, _, _, rfl⟩
  rw [answered] at transcript bridged
  obtain rfl : heard dialogue sources dests config state = exchanges := by
    simpa [heard, compose, matched, answered] using transcript
  simp only [compose, matched, answered]
  have remembered : Remembered sources dests config
      ((heard dialogue sources dests config state).map (·.answer)) later := by
    intro key omission
    rw [bridged.ignored key]
    split
    next => simp [eq_comm]
    next => exact grown key omission
  refine ⟨bridged.answers, bridged.asked, bridged.finished, ?_, rfl, remembered⟩
  have told : outcome = _ := bridged.outcome
  rw [told, Composition.ofCustom_eq_ofSteps, Step.ofCustom_congr remembered.explicit]
  cases (heard dialogue sources dests config state).findSome? (·.answer.panic?) with
  | some text => rfl
  | none => simp [Except.map, reference]

theorem Built.of_calm {dialogue : Dialogue σ κ} {sources dests : List (Property Record)}
    {config later : Config κ} {heard : List (Exchange κ)}
    {outcome : Except String (Composition κ)}
    (built : Built dialogue sources dests config heard outcome later)
    (calm : ∀ exchange ∈ heard, exchange.answer.panic? = none) :
    outcome = .ok (.ofSteps (reference sources dests config (heard.map (·.answer)))) ∧
      heard.map (·.question) = questions sources dests config := by
  have none := List.findSome?_eq_none_iff.mpr calm
  exact ⟨by rw [built.outcome, none], built.finished none⟩

theorem answered_kind {candidates : List Candidate} {answers : List (Resolution κ)}
    {kind : Binding.Kind} {dest label : String} {assignment : Assignment κ}
    (h : .assign kind dest label assignment ∈ answered candidates answers) : kind = .auto := by
  induction candidates generalizing answers with
  | nil => simp [answered] at h
  | cons candidate rest ih =>
    cases candidate with
    | leftOut name =>
      rcases List.mem_cons.mp h with same | later
      · simp at same
      · exact ih later
    | pair source target =>
      rcases List.mem_cons.mp h with same | later
      · unfold Step.ofAnswer at same
        split at same
        next => exact (Step.assign.inj same).1
        next => simp at same
      · exact ih later

@[simp] theorem length_answered (candidates : List Candidate) (answers : List (Resolution κ)) :
    (answered candidates answers).length = candidates.length := by
  induction candidates generalizing answers with
  | nil => rfl
  | cons candidate rest ih => cases candidate <;> simp [answered, ih]

theorem reference_kind {sources dests : List (Property Record)} {config : Config κ}
    {answers : List (Resolution κ)} {kind : Binding.Kind} {dest label : String}
    {assignment : Assignment κ}
    (h : .assign kind dest label assignment ∈ reference sources dests config answers) :
    kind ≠ .ignored := by
  rcases List.mem_append.mp h with auto | custom
  · simp [answered_kind auto]
  · obtain ⟨entry, _, same⟩ := List.mem_map.mp custom
    unfold Step.ofCustom at same
    split at same
    next => simp at same
    next => simp [← (Step.assign.inj same).1]

/-- Whatever a service that never panics answers, a build succeeds with the plan of the reference.
It asks about every match once and in order, and leaves all but the ignored members as they were. -/
theorem compose_eq_reference (dialogue : Dialogue σ κ) (sources dests : List (Property Record))
    (config : Config κ) (state : σ)
    (calm : ∀ question state text, (dialogue.ask question state).1 ≠ .panic text) :
    ∃ answers composition ignored,
      answers = (heard dialogue sources dests config state).map (·.answer) ∧
      (compose dialogue sources dests config state).1 = .ok composition ∧
      composition = .ofSteps (reference sources dests config answers) ∧
      composition.bindings.length =
        (unclaimed config.custom.contains sources).length + config.custom.entries.length ∧
      composition.assignments.length =
        (composition.bindings.filter fun binding => binding.kind ≠ .ignored).length ∧
      (heard dialogue sources dests config state).map (·.question) =
        questions sources dests config ∧
      (compose dialogue sources dests config state).2.1 = { config with ignored := ignored } ∧
      Remembered sources dests config answers ignored := by
  have built := compose_built dialogue sources dests config state
  have quiet : ∀ exchange ∈ heard dialogue sources dests config state,
      exchange.answer.panic? = none := by
    intro exchange mem
    obtain ⟨asked, answer⟩ := built.answers exchange mem
    cases same : exchange.answer with
    | panic text => exact absurd (answer.trans same) (calm exchange.question asked text)
    | convert | refuse => rfl
  obtain ⟨outcome, questions⟩ := built.of_calm quiet
  refine ⟨_, _, _, rfl, outcome, rfl, ?_, ?_, questions, built.others, built.ignored⟩
  · simp [Composition.ofSteps, reference, candidates]
  · exact (Composition.ofSteps_aligned _ fun _ _ _ _ mem => reference_kind mem).symm

end Plan

/-- Two source members of one name up to case, the first of a type that the destination has not. -/
def Schema.twins : Schema where
  layout
    | 0 => ⟨[.field ⟨"A", .text, .readWrite, "A", false⟩,
        .field ⟨"a", .i32, .readWrite, "a", false⟩], []⟩
    | 1 => ⟨[.field ⟨"a", .i32, .readWrite, "a", false⟩], []⟩
    | _ => ⟨[], []⟩

/-- The first twin is asked about, refused and left out, and the second is assigned. -/
theorem compose_twins :
    (∀ question state text,
      ((Dialogue.ofAnswers (Conversions.answers (default : Conversions Unit))).ask question
        state).1 ≠ .panic text) ∧
    ∃ composition,
      (Plan.compose (Dialogue.ofAnswers (Conversions.answers (default : Conversions Unit)))
        (Schema.twins.properties 0) (Schema.twins.properties 1) default ()).1 = .ok composition ∧
      composition.bindings = [.ignored "A", ⟨"a", .auto, some "a"⟩] := by
  have calm := fun question (_ : Unit) text =>
    Conversions.answers_ne_panic (default : Conversions Unit) question text
  obtain ⟨_, composition, _, rfl, built, rfl, _⟩ :=
    Plan.compose_eq_reference
      (Dialogue.ofAnswers (Conversions.answers (default : Conversions Unit)))
      (Schema.twins.properties 0) (Schema.twins.properties 1) default () calm
  exact ⟨calm, _, built, by decide⟩

end RecordMapping
