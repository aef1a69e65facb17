import RecordMapping.Mapper

namespace RecordMapping

variable {σ τ κ α β : Type}

/-- From related states two dialogues answer alike, and they stay related. -/
structure Dialogue.Similar (dialogue : Dialogue σ κ) (other : Dialogue τ κ)
    (related : σ → τ → Prop) : Prop where
  answer : ∀ {s t}, related s t → ∀ question,
    (dialogue.ask question s).1 = (other.ask question t).1
  ask : ∀ {s t}, related s t → ∀ question,
    related (dialogue.ask question s).2 (other.ask question t).2
  report : ∀ {s t}, related s t → ∀ event, related (dialogue.report event s) (other.report event t)

structure Alike (related : σ → τ → Prop) (x : α × β × σ) (y : α × β × τ) : Prop where
  result : x.1 = y.1
  value : x.2.1 = y.2.1
  state : related x.2.2 y.2.2

namespace Dialogue.Similar

variable {dialogue : Dialogue σ κ} {other : Dialogue τ κ} {related : σ → τ → Prop} {s : σ} {t : τ}

theorem matchMembers (similar : dialogue.Similar other related) (dests : List (Property Record))
    (custom : String → Bool) (sources : List (Property Record)) (ignored : Ignored)
    (start : related s t) :
    Alike related (Plan.matchMembers dialogue dests custom sources ignored s)
      (Plan.matchMembers other dests custom sources ignored t) := by
  induction sources generalizing ignored s t with
  | nil => exact ⟨rfl, rfl, start⟩
  | cons source rest ih =>
    cases found : Match.find dests custom ignored source with
    | claimed => simpa only [Plan.matchMembers, found] using ih ignored start
    | ignored | paired =>
      have later := ih ignored start
      simp only [Plan.matchMembers, found]
      exact ⟨by rw [later.result], later.value, later.state⟩
    | unmatched readOnly =>
      have later := ih (ignored.insert (Text.fold source.name) .unmatched)
        (similar.report start (.unmatched source.name readOnly))
      simp only [Plan.matchMembers, found]
      exact ⟨by rw [later.result], later.value, later.state⟩

theorem bridgeMembers (similar : dialogue.Similar other related) (candidates : List Candidate)
    (ignored : Ignored) (start : related s t) :
    Alike related (Plan.bridgeMembers dialogue candidates ignored s)
      (Plan.bridgeMembers other candidates ignored t) := by
  induction candidates generalizing ignored s t with
  | nil => exact ⟨rfl, rfl, start⟩
  | cons candidate rest ih =>
    cases candidate with
    | leftOut name =>
      have later := ih ignored start
      simp only [Plan.bridgeMembers]
      exact ⟨by rw [later.result], later.value, later.state⟩
    | pair source dest =>
      have same := similar.answer start (.member dest.signature source.signature)
      have next := similar.ask start (.member dest.signature source.signature)
      obtain ⟨answer, s', heard⟩ : ∃ answer s',
          dialogue.ask (.member dest.signature source.signature) s = (answer, s') := ⟨_, _, rfl⟩
      obtain ⟨answer', t', heard'⟩ : ∃ answer t',
          other.ask (.member dest.signature source.signature) t = (answer, t') := ⟨_, _, rfl⟩
      rw [heard, heard'] at same next
      obtain rfl : answer = answer' := same
      simp only [Plan.bridgeMembers, heard, heard']
      cases answer with
      | convert converter =>
        have later := ih ignored next
        exact ⟨by simp only [later.result], later.value, later.state⟩
      | refuse error =>
        have later := ih (ignored.insert (Text.fold source.name) .unbridged)
          (similar.report next (.notBridged dest.name error))
        exact ⟨by simp only [later.result], later.value, later.state⟩
      | panic text => exact ⟨rfl, rfl, next⟩

theorem compose (similar : dialogue.Similar other related) (sources dests : List (Property Record))
    (config : Config κ) (start : related s t) :
    Alike related (Plan.compose dialogue sources dests config s)
      (Plan.compose other sources dests config t) := by
  have matched := similar.matchMembers dests config.custom.contains sources config.ignored start
  have bridged := similar.bridgeMembers
    (Plan.matchMembers dialogue dests config.custom.contains sources config.ignored s).1
    (Plan.matchMembers dialogue dests config.custom.contains sources config.ignored s).2.1
    matched.state
  simp only [Plan.compose]
  rw [← matched.result, ← matched.value]
  exact ⟨by rw [bridged.result, bridged.value], by rw [bridged.value], bridged.state⟩

end Dialogue.Similar

/-- The dialogue with a service that remembers nothing, and nobody listening. -/
def Dialogue.ofAnswers (answers : Question → Resolution κ) : Dialogue Unit κ where
  ask question state := (answers question, state)
  report _ state := state

def Conversions.answers (table : Conversions κ) (question : Question) : Resolution κ :=
  .ofExcept (table.bridge question)

theorem Conversions.answers_ne_panic (table : Conversions κ) (question : Question)
    (text : String) : table.answers question ≠ .panic text := by
  unfold answers Resolution.ofExcept
  split <;> simp

end RecordMapping
