import RecordMapping.Proofs.Formation

namespace RecordMapping

variable {σ κ : Type}

namespace Plan

theorem fold_of_counterpart? {dests : List (Property Record)} {name : String}
    {dest : Property Record} (found : counterpart? dests name = some dest) :
    Text.fold dest.name = Text.fold name :=
  Property.fold_of_named? (counterpart?_eq_some.mp found).1

/-- What a plan does with an unclaimed source member: it assigns the member to its counterpart or
leaves it out, and it leaves out what is ignored. -/
structure Step.DealsWith (ignored : Ignored) (source : Property Record) (step : Step κ) : Prop where
  name : Text.fold step.binding.name = Text.fold source.name
  kind : step.binding.kind = .ignored ∨ step.binding.kind = .auto
  label : ∀ label, step.binding.source = some label → label = source.name
  free : step.binding.kind = .auto → ignored.get? (Text.fold source.name) = none
  assigned : ∀ assignment, step.assignment? = some assignment →
    step.binding.kind = .auto ∧ Text.fold assignment.dest.name = Text.fold source.name

theorem Step.dealsWith_leaveOut (ignored : Ignored) (source : Property Record) :
    (leaveOut source.name : Step κ).DealsWith ignored source where
  name := by simp only [binding, Binding.ignored]
  kind := .inl rfl
  label _ none := nomatch none
  free auto := nomatch auto
  assigned _ none := nomatch none

theorem Step.dealsWith_ofAnswer {dests : List (Property Record)} {ignored : Ignored}
    {source dest : Property Record} (found : target? dests ignored source = some dest)
    (answer : Option (Resolution κ)) : (ofAnswer source dest answer).DealsWith ignored source := by
  obtain ⟨free, served⟩ := target?_eq_some.mp found
  have same := fold_of_counterpart? served
  unfold ofAnswer
  split
  next converter =>
    refine ⟨same, .inr rfl, ?_, fun _ => free, ?_⟩
    · rintro label ⟨⟩
      rfl
    · rintro assignment ⟨⟩
      exact ⟨rfl, same⟩
  next => exact dealsWith_leaveOut ignored source

section Answered

variable {dests : List (Property Record)} {ignored : Ignored} {members : List (Property Record)}
  {answers : List (Resolution κ)}

/-- Each step among the answered candidates deals with one of their members. -/
theorem dealsWith_of_mem_answered {step : Step κ}
    (mem : step ∈ answered (members.map (candidate dests ignored)) answers) :
    ∃ source ∈ members, step.DealsWith ignored source := by
  induction members generalizing answers with
  | nil => simp [answered] at mem
  | cons source rest ih =>
    have later {answers : List (Resolution κ)}
        (mem : step ∈ answered (rest.map (candidate dests ignored)) answers) :
        ∃ other ∈ source :: rest, step.DealsWith ignored other := by
      obtain ⟨other, listed, deals⟩ := ih mem
      exact ⟨other, List.mem_cons_of_mem _ listed, deals⟩
    rw [List.map_cons] at mem
    cases found : target? dests ignored source with
    | none =>
      simp only [candidate, found] at mem
      rcases List.mem_cons.mp mem with rfl | mem
      · exact ⟨source, List.mem_cons_self, Step.dealsWith_leaveOut ignored source⟩
      · exact later mem
    | some dest =>
      simp only [candidate, found] at mem
      rcases List.mem_cons.mp mem with rfl | mem
      · exact ⟨source, List.mem_cons_self, Step.dealsWith_ofAnswer found _⟩
      · exact later mem

/-- Each member of the answered candidates is dealt with by one of the steps. -/
theorem exists_dealsWith {source : Property Record} (mem : source ∈ members) :
    ∃ step ∈ answered (members.map (candidate dests ignored)) answers,
      step.DealsWith ignored source := by
  induction members generalizing answers with
  | nil => simp at mem
  | cons first rest ih =>
    have now : ∃ step others,
        answered ((first :: rest).map (candidate dests ignored)) answers = step :: others ∧
          step.DealsWith ignored first ∧
          ∃ answers, others = answered (rest.map (candidate dests ignored)) answers := by
      cases found : target? dests ignored first with
      | none =>
        refine ⟨.leaveOut first.name, answered (rest.map (candidate dests ignored)) answers, ?_,
          Step.dealsWith_leaveOut ignored first, answers, rfl⟩
        simp only [List.map_cons, candidate, found, answered]
      | some dest =>
        refine ⟨.ofAnswer first dest answers.head?,
          answered (rest.map (candidate dests ignored)) answers.tail, ?_,
          Step.dealsWith_ofAnswer found _, answers.tail, rfl⟩
        simp only [List.map_cons, candidate, found, answered]
    obtain ⟨step, others, same, deals, answers', rfl⟩ := now
    rw [same]
    rcases List.mem_cons.mp mem with rfl | later
    · exact ⟨step, List.mem_cons_self, deals⟩
    · obtain ⟨step', listed, deals'⟩ := ih later
      exact ⟨step', List.mem_cons_of_mem _ listed, deals'⟩

end Answered

section Built

variable {dialogue : Dialogue σ κ} {sources dests : List (Property Record)}
  {config later : Config κ} {heard : List (Exchange κ)} {composition : Composition κ}

/-- A build that succeeds takes a step for each unclaimed source member, and then one for each
member with a source of its own. -/
theorem Built.steps (built : Built dialogue sources dests config heard (.ok composition) later) :
    ∃ autos : List (Step κ),
      composition = .ofSteps (autos ++ config.custom.entries.map (Step.ofCustom config.ignored)) ∧
      (∀ step ∈ autos, ∃ source ∈ unclaimed config.custom.contains sources,
        step.DealsWith config.ignored source) ∧
      ∀ source ∈ unclaimed config.custom.contains sources, ∃ step ∈ autos,
        step.DealsWith config.ignored source := by
  have outcome := built.outcome
  cases calm : heard.findSome? (·.answer.panic?) with
  | some text => simp [calm] at outcome
  | none =>
    rw [calm] at outcome
    exact ⟨_, Except.ok.inj outcome, fun _ => dealsWith_of_mem_answered,
      fun _ => exists_dealsWith⟩

/-- A build asks only about unclaimed members that are not ignored. -/
theorem Built.asks {composed : Except String (Composition κ)}
    (built : Built dialogue sources dests config heard composed later) {exchange : Exchange κ}
    (mem : exchange ∈ heard) :
    ∃ source ∈ unclaimed config.custom.contains sources, ∃ dest,
      target? dests config.ignored source = some dest ∧
        exchange.question = .member dest.signature source.signature := by
  have asked := built.asked.subset (List.mem_map_of_mem mem)
  obtain ⟨candidate, listed, same⟩ := List.mem_filterMap.mp asked
  cases candidate with
  | leftOut name => simp [Candidate.question?] at same
  | pair source dest =>
    obtain ⟨free, found⟩ := mem_candidates_pair.mp listed
    exact ⟨source, free, dest, found, (Option.some.inj same).symm⟩

end Built

end Plan

end RecordMapping
