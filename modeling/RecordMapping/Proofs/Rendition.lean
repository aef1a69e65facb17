import RecordMapping.Proofs.Lockstep
import RecordMapping.Proofs.Reordering

namespace RecordMapping

variable {σ κ α β : Type}

/-- Results that differ at most in such a spelling, and come with the same of everything else. -/
inductive Outcome.Near : Outcome α × β → Outcome α × β → Prop where
  | both {outcome other : Outcome α} (alike : outcome.Alike other) (rest : β) :
    Near (outcome, rest) (other, rest)

namespace Outcome

theorem Near.refl (result : Outcome α × β) : Near result result := .both (.same result.1) result.2

theorem Alike.map {outcome other : Outcome α} (alike : outcome.Alike other) (f : α → β) :
    (outcome.map f).Alike (other.map f) := by
  cases alike with
  | same => exact .same _
  | unknown type same => exact .unknown type same

end Outcome

namespace Mapper

open Outcome (Near)

variable (schema : Schema) (dialogue : Dialogue σ κ) (mapper : Mapper κ) (state : σ)
  {dest dest' : String} (same : Text.fold dest = Text.fold dest')

include same

theorem ignore_near :
    Near (mapper.ignore schema dialogue dest state)
      (mapper.ignore schema dialogue dest' state) := by
  simp only [ignore, Property.member, Action.named?_congr same]
  cases Property.named? (schema.properties mapper.dest) dest' with
  | none => exact .both (.unknown _ same) _
  | some member => exact .refl _

theorem assignSource_near (source : Source κ) :
    Near (mapper.assignSource schema dialogue dest source state)
      (mapper.assignSource schema dialogue dest' source state) := by
  simp only [assignSource, Property.writableMember, Property.usableMember, Property.member,
    Action.named?_congr same]
  cases Property.named? (schema.properties mapper.dest) dest' with
  | none => exact .both (.unknown _ same) _
  | some member => exact .refl _

theorem assignMember_near {source source' : String}
    (same' : Text.fold source = Text.fold source') :
    Near (mapper.assignMember schema dialogue dest source state)
      (mapper.assignMember schema dialogue dest' source' state) := by
  simp only [assignMember, Property.readableMember, Property.usableMember, Property.member,
    Action.named?_congr same']
  cases Property.named? (schema.properties mapper.source) source' with
  | none => exact .both (.unknown _ same') _
  | some property =>
    dsimp only
    split
    next => exact .refl _
    next => exact mapper.assignSource_near schema dialogue state same _

theorem assignComputed_near (type : ValueType) (compute : κ) :
    Near (mapper.assignComputed schema dialogue dest type compute state)
      (mapper.assignComputed schema dialogue dest' type compute state) := by
  simp only [assignComputed, Property.writableMember, Property.usableMember, Property.member,
    Action.named?_congr same]
  cases Property.named? (schema.properties mapper.dest) dest' with
  | none => exact .both (.unknown _ same) _
  | some member => exact .refl _

end Mapper

namespace World

open Outcome (Near)

/-- The same is set going, unless both are over at once with results that differ in a spelling. -/
inductive Resembling : Launch κ α × World κ → Launch κ α × World κ → Prop where
  | same (served : Launch κ α × World κ) : Resembling served served
  | ended {outcome other : Outcome α} (alike : outcome.Alike other) (world : World κ) :
    Resembling (.now outcome, world) (.now other, world)

theorem act_near (world : World κ) (id : MapperId) (mapper : Mapper κ)
    {action action' : Dialogue (Surroundings κ) κ → Mapper κ → Surroundings κ →
      Outcome Unit × Mapper κ × Surroundings κ}
    (near : ∀ dialogue, Near (action dialogue mapper world.surroundings)
      (action' dialogue mapper world.surroundings)) :
    Resembling (callMapper.done (world.act id mapper action))
      (callMapper.done (world.act id mapper action')) := by
  have near := near (Surroundings.dialogue world.schema mapper.service)
  simp only [act]
  generalize action _ mapper world.surroundings = done at near ⊢
  generalize action' _ mapper world.surroundings = done' at near ⊢
  obtain ⟨alike, mapper, surroundings⟩ := near
  exact .ended (alike.map _) _

section Serve

variable [Closures κ] (world : World κ)

theorem callMapper_respelled (id : MapperId) (mapper : Mapper κ) {call other : MapperCall κ}
    (respelled : call.Respelled other) :
    Resembling (world.callMapper id mapper call) (world.callMapper id mapper other) := by
  cases respelled with
  | ignore same =>
    exact world.act_near id mapper fun _ => mapper.ignore_near world.schema _ _ same
  | assignMember same same' =>
    exact world.act_near id mapper fun _ => mapper.assignMember_near world.schema _ _ same same'
  | assignSource expression same =>
    simp only [callMapper]
    split
    next source _ =>
      exact world.act_near id mapper fun _ => mapper.assignSource_near world.schema _ _ same source
    next => exact .same _
  | assignComputed type compute same =>
    exact world.act_near id mapper fun _ =>
      mapper.assignComputed_near world.schema _ _ same type compute

/-- A request in another spelling of its selectors. -/
theorem serve_respelled (held : List Hold) {request other : Request κ}
    (respelled : request.Respelled other) :
    Resembling (world.serve held request) (world.serve held other) := by
  cases respelled with
  | operation respelled =>
    cases respelled with
    | itself operation => exact .same _
    | mapper handle respelled =>
      simp only [serve, perform]
      split
      next => exact world.callMapper_respelled _ _ respelled
      next => exact .same _
    | @memberSource keep slot name name' same =>
      simp only [serve, perform, Property.readableMember, Property.usableMember, Property.member,
        Mapper.Action.named?_congr same]
      cases Property.named? (world.schema.properties slot) name' with
      | none => exact .ended (.unknown _ same) _
      | some property => exact .same _
  | mapper id respelled =>
    simp only [serve]
    split
    next => exact world.callMapper_respelled id _ respelled
    next => exact .same _

theorem answer_near (depth : Nat) (held : List Hold) {request other : Request κ}
    (respelled : request.Respelled other) :
    Option.Rel Near (world.answer depth held request) (world.answer depth held other) := by
  cases depth with
  | zero => exact .none
  | succ depth =>
    have resembling := world.serve_respelled held respelled
    simp only [answer_succ_eq]
    generalize world.serve held request = served at resembling ⊢
    generalize world.serve held other = served' at resembling ⊢
    cases resembling with
    | same =>
      cases Launch.outcome (answer depth) held served with
      | none => exact .none
      | some result => exact .some (.refl result)
    | ended alike world =>
      simp only [Launch.outcome_now]
      exact .some (.both alike world)

end Serve

/-- Replies that differ at most in a spelling, with sessions in step. -/
inductive Akin : Reply × World κ → Reply × World κ → Prop where
  | both {reply other : Reply} (alike : reply.Alike other) {world world' : World κ}
    (inStep : world.InStep world') : Akin (reply, world) (other, world')

structure Seen (seen other : Reply × List LogEntry) : Prop where
  reply : seen.1.Alike other.1
  log : List.Forall₂ LogEntry.Alike seen.2 other.2

theorem akin_of_near {answered answered' other : Option (Reply × World κ)}
    (agreed : Option.Rel Agree answered answered') (near : Option.Rel Near answered' other) :
    Option.Rel Akin answered other := by
  cases agreed with
  | none =>
    cases near
    exact .none
  | some agree =>
    obtain ⟨reply, inStep⟩ := agree
    cases near with
    | some near =>
      obtain ⟨alike, later⟩ := near
      exact .some (.both alike inStep)

section Runs

/-- Scripts in two spellings run to the same end, if the two servers answer alike. -/
theorem exec_respelled {server server' : Server κ} (held : List Hold)
    (steady : ∀ (world other : World κ) (request : Request κ), world.InStep other →
      Option.Rel Agree (server world held request) (server' other held request))
    (tolerant : ∀ (world other : World κ) (request request' : Request κ), world.InStep other →
      request.Respelled request' →
      Option.Rel Akin (server world held request) (server' other held request'))
    {script script' : Script κ α} (respelled : script.Respelled script') {world other : World κ}
    (inStep : world.InStep other) :
    Option.Rel Agree (script.exec server held world) (script'.exec server' held other) := by
  -- One request that comes to both servers gets one reply; one that is respelled gets two replies,
  -- and then the scripts go on alike with either.
  induction respelled generalizing world other with
  | done result => exact .some (.both _ inStep)
  | panic text => exact .some (.both _ inStep)
  | log alike _ ih => exact ih (inStep.write alike)
  | call request _ ih =>
    have answered := steady world other request inStep
    simp only [Script.exec]
    generalize server world held request = here at answered ⊢
    generalize server' other held request = there at answered ⊢
    cases answered with
    | none => exact .none
    | some agree =>
      obtain ⟨reply, inStep⟩ := agree
      exact ih reply inStep
  | @respell request request' _ _ selects _ ih =>
    have answered := tolerant world other request request' inStep selects
    simp only [Script.exec]
    generalize server world held request = here at answered ⊢
    generalize server' other held request' = there at answered ⊢
    cases answered with
    | none => exact .none
    | some akin =>
      obtain ⟨alike, inStep⟩ := akin
      exact ih _ _ alike inStep

variable {first second : Closures κ} (respelled : first.Respelled second) {world other : World κ}

include respelled

/-- A request that comes to both sessions is answered alike in both. -/
theorem answer_agree (depth : Nat) (inStep : world.InStep other) (held : List Hold)
    (request : Request κ) :
    Option.Rel Agree (@answer κ first depth world held request)
      (@answer κ second depth other held request) := by
  induction depth generalizing world other held request with
  | zero => exact .none
  | succ depth ih =>
    obtain ⟨holds, script, later⟩ := serve_paced respelled inStep held request
    -- Inside, a request in two spellings is answered in the second session as it is in the first
    -- spelling, and there the two spellings are near.
    have ends := exec_respelled ((@serve κ second other held request).1.holds ++ held)
      (fun _ _ request inStep => ih inStep _ request)
      (fun _ _ request _ inStep selects =>
        akin_of_near (ih inStep _ request) (@answer_near κ second _ depth _ _ _ selects))
      script later
    simp only [answer_succ_eq, Launch.outcome, holds]
    generalize Script.exec _ _ _ (@serve κ first world held request).2 = here at ends ⊢
    generalize Script.exec _ _ _ (@serve κ second other held request).2 = there at ends ⊢
    cases ends with
    | none => exact .none
    | some agree =>
      obtain ⟨ended, inStep⟩ := agree
      exact .some (.both _ inStep)

/-- The replies to an operation in two spellings differ at most in the spelling of a name. -/
theorem operate_respelled (depth : Nat) (inStep : world.InStep other)
    {operation operation' : Operation κ} (selects : operation.Respelled operation') :
    Option.Rel Akin (@operate κ first depth world operation)
      (@operate κ second depth other operation') := by
  unfold operate
  rw [inStep.clearLog]
  exact akin_of_near (answer_agree respelled depth (.refl _) [] _)
    (@answer_near κ second _ depth [] _ _ (.operation selects))

/-- Two renditions of a session show alike replies and logs, operation by operation. -/
theorem replies_respelled (depth : Nat) {operations operations' : List (Operation κ)}
    (selects : List.Forall₂ Operation.Respelled operations operations')
    (inStep : world.InStep other) :
    List.Forall₂ (Option.Rel Seen) (@replies κ first depth world operations)
      (@replies κ second depth other operations') := by
  induction selects generalizing world other with
  | nil => exact .nil
  | cons now _ ih =>
    have operated := operate_respelled respelled depth inStep now
    simp only [replies]
    generalize @operate κ first depth world _ = here at operated ⊢
    generalize @operate κ second depth other _ = there at operated ⊢
    cases operated with
    | none => exact .cons .none .nil
    | some akin =>
      obtain ⟨alike, inStep⟩ := akin
      exact .cons (.some ⟨alike, inStep.log⟩) (ih inStep)

end Runs

/-- The session in which operations have been performed one after another, unless one nests too
deep. -/
def upon [Closures κ] (depth : Nat) (world : World κ) (operations : List (Operation κ)) :
    Option (World κ) :=
  operations.foldlM (fun world operation => (world.operate depth operation).map (·.2)) world

/-- Two renditions leave the same session, but for alike entries of its log. -/
theorem upon_respelled {first second : Closures κ} (respelled : first.Respelled second)
    (depth : Nat) {operations operations' : List (Operation κ)}
    (selects : List.Forall₂ Operation.Respelled operations operations') {world other : World κ}
    (inStep : world.InStep other) :
    Option.Rel InStep (@upon κ first depth world operations)
      (@upon κ second depth other operations') := by
  induction selects generalizing world other with
  | nil => exact .some inStep
  | cons now _ ih =>
    have operated := operate_respelled respelled depth inStep now
    simp only [upon, List.foldlM_cons]
    generalize @operate κ first depth world _ = here at operated ⊢
    generalize @operate κ second depth other _ = there at operated ⊢
    cases operated with
    | none => exact .none
    | some akin =>
      obtain ⟨alike, inStep⟩ := akin
      exact ih inStep

end World

end RecordMapping
