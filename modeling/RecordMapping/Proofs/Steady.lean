import RecordMapping.Proofs.Construction

namespace RecordMapping

variable {σ κ : Type}

namespace Dialogue

inductive Reaches (dialogue : Dialogue σ κ) (first : σ) : σ → Prop where
  | start : Reaches dialogue first first
  | ask {state : σ} (question : Question) :
    Reaches dialogue first state → Reaches dialogue first (dialogue.ask question state).2
  | report {state : σ} (event : Event) :
    Reaches dialogue first state → Reaches dialogue first (dialogue.report event state)

theorem Reaches.trans {dialogue : Dialogue σ κ} {first middle last : σ}
    (early : dialogue.Reaches first middle) (late : dialogue.Reaches middle last) :
    dialogue.Reaches first last := by
  induction late with
  | start => exact early
  | ask question _ ih => exact .ask question ih
  | report event _ ih => exact .report event ih

/-- From `first` on, a question has one answer, whatever else is asked or reported meanwhile. -/
def Steady (dialogue : Dialogue σ κ) (answers : Question → Resolution κ) (first : σ) : Prop :=
  ∀ state, dialogue.Reaches first state →
    ∀ question, (dialogue.ask question state).1 = answers question

theorem Steady.later {dialogue : Dialogue σ κ} {answers : Question → Resolution κ}
    {first last : σ} (steady : dialogue.Steady answers first)
    (reach : dialogue.Reaches first last) : dialogue.Steady answers last :=
  fun state late => steady state (reach.trans late)

/-- A steady service is told apart from the bare function of its answers by nobody. -/
theorem steady_similar (dialogue : Dialogue σ κ) (answers : Question → Resolution κ) :
    dialogue.Similar (ofAnswers answers) fun state _ => dialogue.Steady answers state where
  answer steady question := steady _ .start question
  ask steady question := steady.later (.ask question .start)
  report steady event := steady.later (.report event .start)

end Dialogue

/-- A conversion table is steady as long as nobody registers a conversion. -/
theorem Surroundings.steady_table {table : Conversions κ} {id : Nat} {surroundings : Surroundings κ}
    (found : surroundings.table id = table) (schema : Schema) :
    (dialogue schema (.table id)).Steady table.answers surroundings := by
  subst found
  intro state reach
  suffices same : state.tables = surroundings.tables by
    intro question
    simp [dialogue, ask, Conversions.answers, table, same]
  induction reach with
  | start => rfl
  | ask question _ ih => exact ih
  | report event _ ih =>
    simp only [dialogue, report]
    split <;> exact ih

namespace Plan

/-- The step for a source member, when its question has the given answer. -/
def settle (answers : Question → Resolution κ) (dests : List (Property Record)) (ignored : Ignored)
    (source : Property Record) : Step κ :=
  match target? dests ignored source with
  | none => .leaveOut source.name
  | some dest =>
    .ofAnswer source dest (some (answers (.member dest.signature source.signature)))

def settled (answers : Question → Resolution κ) (sources dests : List (Property Record))
    (config : Config κ) : List (Step κ) :=
  (unclaimed config.custom.contains sources).map (settle answers dests config.ignored) ++
    config.custom.entries.map (Step.ofCustom config.ignored)

section Fates

variable {answers : Question → Resolution κ} {dests : List (Property Record)} {ignored : Ignored}
  {source dest : Property Record}

theorem candidate_of_none (found : target? dests ignored source = none) :
    candidate dests ignored source = .leftOut source.name := by
  simp [candidate, found]

theorem candidate_of_some (found : target? dests ignored source = some dest) :
    candidate dests ignored source = .pair source dest := by
  simp [candidate, found]

theorem settle_of_none (found : target? dests ignored source = none) :
    settle answers dests ignored source = .leaveOut source.name := by
  simp [settle, found]

theorem settle_of_some (found : target? dests ignored source = some dest) :
    settle answers dests ignored source = .ofAnswer source dest
      (some (answers (.member dest.signature source.signature))) := by
  simp [settle, found]

theorem settle_of_convert {converter : Converter κ}
    (found : target? dests ignored source = some dest)
    (told : answers (.member dest.signature source.signature) = .convert converter) :
    settle answers dests ignored source =
      .assign .auto dest.name source.name ⟨.member source, converter, dest⟩ := by
  rw [settle_of_some found, told]; rfl

theorem settle_of_refuse {error : MappingError}
    (found : target? dests ignored source = some dest)
    (told : answers (.member dest.signature source.signature) = .refuse error) :
    settle answers dests ignored source = .leaveOut source.name := by
  rw [settle_of_some found, told]; rfl

end Fates

variable {answers : Question → Resolution κ} {sources dests : List (Property Record)}
  {config : Config κ}

theorem answered_eq_settle (members : List (Property Record)) (ignored : Ignored) :
    answered (members.map (candidate dests ignored))
        (((members.map (candidate dests ignored)).filterMap Candidate.question?).map answers) =
      members.map (settle answers dests ignored) := by
  induction members with
  | nil => rfl
  | cons source rest ih =>
    cases found : target? dests ignored source with
    | none =>
      rw [List.map_cons, List.map_cons, candidate_of_none found, settle_of_none found, ← ih]
      rfl
    | some dest =>
      rw [List.map_cons, List.map_cons, candidate_of_some found, settle_of_some found, ← ih]
      rfl

theorem mem_refused_iff {members : List (Property Record)} {ignored : Ignored} {key : String} :
    key ∈ refused (members.map (candidate dests ignored))
        (((members.map (candidate dests ignored)).filterMap Candidate.question?).map answers) ↔
      ∃ source ∈ members, Text.fold source.name = key ∧ ∃ dest error,
        target? dests ignored source = some dest ∧
          answers (.member dest.signature source.signature) = .refuse error := by
  induction members with
  | nil => simp
  | cons source rest ih =>
    cases found : target? dests ignored source with
    | none =>
      rw [List.map_cons, candidate_of_none found, Candidate.questions_leftOut, refused, ih]
      simp [found]
    | some dest =>
      rw [List.map_cons, candidate_of_some found, Candidate.questions_pair, List.map_cons]
      cases told : answers (.member dest.signature source.signature) with
      | convert converter =>
        simp only [refused, List.tail_cons, ih]
        simp [found, told]
      | refuse error =>
        simp only [refused, List.mem_cons, ih]
        simp [found, told, eq_comm]
      | panic text =>
        simp only [refused, List.tail_cons, ih]
        simp [found, told]

theorem mem_questions {source dest : Property Record}
    (mem : source ∈ unclaimed config.custom.contains sources)
    (found : target? dests config.ignored source = some dest) :
    .member dest.signature source.signature ∈ questions sources dests config :=
  List.mem_filterMap.mpr ⟨.pair source dest, mem_candidates_pair.mpr ⟨mem, found⟩, rfl⟩

theorem heard_ofAnswers
    (calm : ∀ question ∈ questions sources dests config, (answers question).panic? = none) :
    (∀ exchange ∈ heard (.ofAnswers answers) sources dests config (),
        exchange.answer.panic? = none) ∧
      (heard (.ofAnswers answers) sources dests config ()).map (·.answer) =
        (questions sources dests config).map answers := by
  have built := compose_built (.ofAnswers answers) sources dests config ()
  have told : ∀ exchange ∈ heard (.ofAnswers answers) sources dests config (),
      exchange.answer = answers exchange.question := by
    intro exchange mem
    obtain ⟨_, same⟩ := built.answers exchange mem
    exact same.symm
  have quiet : ∀ exchange ∈ heard (.ofAnswers answers) sources dests config (),
      exchange.answer.panic? = none := by
    intro exchange mem
    rw [told exchange mem]
    exact calm _ (built.asked.subset (List.mem_map_of_mem mem))
  refine ⟨quiet, ?_⟩
  rw [← (built.of_calm quiet).2, List.map_map]
  exact List.map_congr_left told

theorem compose_ofAnswers
    (calm : ∀ question ∈ questions sources dests config, (answers question).panic? = none) :
    (compose (.ofAnswers answers) sources dests config ()).1 =
      .ok (.ofSteps (settled answers sources dests config)) := by
  obtain ⟨quiet, told⟩ := heard_ofAnswers calm
  rw [((compose_built _ _ _ _ _).of_calm quiet).1, told, reference, candidates, questions,
    candidates, answered_eq_settle]
  rfl

theorem calm_of_composed {composition : Composition κ}
    (composed : (compose (.ofAnswers answers) sources dests config ()).1 = .ok composition) :
    ∀ question ∈ questions sources dests config, (answers question).panic? = none := by
  have built := compose_built (.ofAnswers answers) sources dests config ()
  have outcome := built.outcome
  rw [composed] at outcome
  cases found : (heard (.ofAnswers answers) sources dests config ()).findSome?
      (·.answer.panic?) with
  | some text => simp [found] at outcome
  | none =>
    intro question mem
    rw [← built.finished found] at mem
    obtain ⟨exchange, told, rfl⟩ := List.mem_map.mp mem
    obtain ⟨_, same⟩ := built.answers exchange told
    have calm := List.findSome?_eq_none_iff.mp found exchange told
    rwa [← same] at calm

theorem settle_eq_leaveOut
    (calm : ∀ question ∈ questions sources dests config, (answers question).panic? = none)
    {source : Property Record} (mem : source ∈ unclaimed config.custom.contains sources) :
    settle answers dests config.ignored source = .leaveOut source.name ↔
      ∀ dest, target? dests config.ignored source = some dest →
        ∃ error, answers (.member dest.signature source.signature) = .refuse error := by
  cases found : target? dests config.ignored source with
  | none => simp [settle_of_none found]
  | some dest =>
    cases told : answers (.member dest.signature source.signature) with
    | convert converter => simp [settle_of_convert found told, told]
    | refuse error => simp [settle_of_refuse found told, told]
    | panic text =>
      have asked := calm _ (mem_questions mem found)
      simp [told, Resolution.panic?] at asked

/-- A build remembers exactly the names of the members that it leaves out. -/
theorem compose_remembers
    (calm : ∀ question ∈ questions sources dests config, (answers question).panic? = none)
    (key : String) :
    (compose (.ofAnswers answers) sources dests config ()).2.1.ignored.contains key = true ↔
      config.ignored.contains key = true ∨
        ∃ source ∈ unclaimed config.custom.contains sources, Text.fold source.name = key ∧
          settle answers dests config.ignored source = .leaveOut source.name := by
  have remembered := (compose_built (.ofAnswers answers) sources dests config ()).ignored key
  rw [(heard_ofAnswers calm).2, questions, candidates] at remembered
  have refuses := @mem_refused_iff _ answers dests (unclaimed config.custom.contains sources)
    config.ignored key
  generalize refused _ _ = names at remembered refuses
  simp only [OrderedMap.contains_iff, remembered]
  constructor
  · rintro ⟨omission, known⟩
    split at known
    next turned =>
      obtain ⟨source, mem, same, dest, error, found, told⟩ := refuses.mp turned
      exact .inr ⟨source, mem, same, settle_of_refuse found told⟩
    next =>
      rcases known with before | ⟨_, _, source, mem, same, unserved⟩
      · exact .inl ⟨omission, before⟩
      · exact .inr ⟨source, mem, same, settle_of_none (target?_of_none unserved)⟩
  · intro known
    by_cases turned : key ∈ names
    · exact ⟨.unbridged, by rw [if_pos turned]⟩
    · simp only [if_neg turned]
      rcases known with ⟨omission, before⟩ | ⟨source, mem, same, left⟩
      · exact ⟨omission, .inl before⟩
      · cases before : config.ignored.get? key with
        | some omission => exact ⟨omission, .inl rfl⟩
        | none =>
          refine ⟨.unmatched, .inr ⟨rfl, rfl, source, mem, same, ?_⟩⟩
          cases served : counterpart? dests source.name with
          | none => rfl
          | some dest =>
            have found : target? dests config.ignored source = some dest :=
              target?_eq_some.mpr ⟨by rw [same, before], served⟩
            obtain ⟨error, told⟩ := (settle_eq_leaveOut calm mem).mp left dest found
            exact absurd (refuses.mpr ⟨source, mem, same, dest, error, found, told⟩) turned

end Plan

end RecordMapping
