import RecordMapping.Proofs.Step

namespace RecordMapping

variable {κ α : Type}

structure Moment (κ : Type) where
  world : World κ
  held : List Hold
  request : Request κ

def Moment.action? (id : MapperId) (moment : Moment κ) : Option (Mapper.Action κ) :=
  match moment.world.action? moment.held moment.request with
  | some (aim, action) => if aim = id then some action else none
  | none => none

theorem Plan.Serves.mappers [Closures κ] {plan : Plan κ} {world : World κ}
    {served : Launch κ Answer × World κ} (serves : plan.Serves world served) :
    served.2.schema = world.schema ∧ served.2.mappers = world.mappers := by
  cases serves with
  | plan keep => cases keep <;> exact ⟨rfl, rfl⟩
  | bindings => exact ⟨rfl, rfl⟩
  | run hands runs => rw [runs.world]; exact ⟨rfl, rfl⟩

namespace World

def performed (world : World κ) (id : MapperId) (mapper : Mapper κ) (action : Mapper.Action κ) :
    Outcome (Option (Plan κ)) × Mapper κ × Surroundings κ :=
  action.perform world.schema (Surroundings.dialogue world.schema mapper.service) id mapper
    world.surroundings

def afterwards (world : World κ) (id : MapperId) (mapper : Mapper κ) :
    Option (Mapper.Action κ) → Mapper κ
  | some action => (world.performed id mapper action).2.1
  | none => mapper

theorem carryOut_eq (world : World κ) (id : MapperId) (mapper : Mapper κ)
    (action : Mapper.Action κ) :
    world.carryOut id mapper action =
      ((world.performed id mapper action).1,
        { world with
          mappers := world.mappers.set id (world.performed id mapper action).2.1
          surroundings := (world.performed id mapper action).2.2 }) :=
  rfl

section Serve

variable [Closures κ]

theorem Comes.mappers {done : Outcome (Option (Plan κ)) × World κ}
    {served : Launch κ Answer × World κ} (comes : Comes Given done served) :
    served.2.schema = done.2.schema ∧ served.2.mappers = done.2.mappers := by
  obtain ⟨outcome, next⟩ := done
  cases outcome with
  | ok result =>
    cases comes with
    | done => exact ⟨rfl, rfl⟩
    | plan serves => exact serves.mappers
  | error cause | panic text => rw [comes.2]; exact ⟨rfl, rfl⟩

theorem serve_schema (world : World κ) (held : List Hold) (request : Request κ) :
    (world.serve held request).2.schema = world.schema := by
  have follows := world.serve_follows held request
  cases aimed : world.action? held request with
  | none =>
    rw [aimed] at follows
    exact follows.schema
  | some aim =>
    rw [aimed] at follows
    obtain ⟨mapper, found, comes⟩ := follows
    exact comes.mappers.1

/-- A request changes a mapper by the action that it aims at that mapper, and no other. -/
theorem serve_mapper {world : World κ} {id : MapperId} {mapper : Mapper κ}
    (found : world.mappers[id]? = some mapper) (held : List Hold) (request : Request κ) :
    (world.serve held request).2.mappers[id]? =
      some (world.afterwards id mapper (Moment.action? id ⟨world, held, request⟩)) := by
  have follows := world.serve_follows held request
  obtain ⟨bound, same⟩ := List.getElem?_eq_some_iff.mp found
  cases aimed : world.action? held request with
  | none =>
    rw [aimed] at follows
    obtain ⟨_, fresh, mappers, _⟩ := follows
    simp [Moment.action?, aimed, afterwards, mappers, List.getElem?_append_left bound, found]
  | some aim =>
    obtain ⟨other, action⟩ := aim
    rw [aimed] at follows
    obtain ⟨target, found', comes⟩ := follows
    rw [comes.mappers.2, carryOut_eq]
    by_cases here : other = id
    · subst here
      obtain rfl : target = mapper := Option.some.inj (found'.symm.trans found)
      simp [Moment.action?, aimed, afterwards, bound]
    · simp [Moment.action?, aimed, afterwards, here, List.getElem?_set_ne here, found]

/-- A mapper that a request makes is new, and nothing was done to it before. -/
theorem serve_fresh {world : World κ} {id : MapperId} (absent : world.mappers[id]? = none)
    (held : List Hold) (request : Request κ) :
    Moment.action? id ⟨world, held, request⟩ = none ∧
      ∀ mapper, (world.serve held request).2.mappers[id]? = some mapper →
        ∃ source dest service, mapper = .new source dest service := by
  have follows := world.serve_follows held request
  have bound := List.getElem?_eq_none_iff.mp absent
  cases aimed : world.action? held request with
  | none =>
    rw [aimed] at follows
    obtain ⟨_, fresh, mappers, made⟩ := follows
    refine ⟨by simp [Moment.action?, aimed], fun mapper found => ?_⟩
    rw [mappers, List.getElem?_append_right bound] at found
    exact made mapper (List.mem_of_getElem? found)
  | some aim =>
    obtain ⟨other, action⟩ := aim
    rw [aimed] at follows
    obtain ⟨target, found', comes⟩ := follows
    have apart : other ≠ id := by
      rintro rfl
      simp [absent] at found'
    refine ⟨by simp [Moment.action?, aimed, apart], fun mapper found => ?_⟩
    rw [comes.mappers.2, carryOut_eq, List.getElem?_set_ne apart, absent] at found
    simp at found

end Serve

/-- The sessions that come of a session when requests are served in it, in any order and with
anything held, and entries are written to the log meanwhile. -/
inductive History [Closures κ] (first : World κ) : List (Moment κ) → World κ → Prop where
  | start : History first [] first
  | write {past : List (Moment κ)} {world : World κ} (entry : LogEntry) :
    History first past world → History first past (world.write entry)
  | clear {past : List (Moment κ)} {world : World κ} :
    History first past world → History first past world.clearLog
  | serve {past : List (Moment κ)} {world : World κ} (held : List Hold) (request : Request κ) :
    History first past world →
      History first (past ++ [⟨world, held, request⟩]) (world.serve held request).2

namespace History

variable [Closures κ]

theorem trans {first middle last : World κ} {past more : List (Moment κ)}
    (early : History first past middle) (late : History middle more last) :
    History first (past ++ more) last := by
  induction late with
  | start => simpa using early
  | write entry _ ih => exact .write entry ih
  | clear _ ih => exact .clear ih
  | serve held request _ ih => simpa using History.serve held request ih

theorem schema {first last : World κ} {past : List (Moment κ)} (history : History first past last) :
    last.schema = first.schema := by
  induction history with
  | start => rfl
  | write entry _ ih => exact ih
  | clear _ ih => exact ih
  | serve held request _ ih => rw [serve_schema, ih]

theorem of_exec {server : Server κ} {held : List Hold}
    (answered : ∀ world held request reply later,
      server world held request = some (reply, later) →
        ∃ more, History world (⟨world, held, request⟩ :: more) later)
    {script : Script κ α} {world later : World κ} {ended : Except String α}
    (ends : script.exec server held world = some (ended, later)) :
    ∃ more, History world more later := by
  induction script generalizing world with
  | done | panic =>
    simp only [Script.exec, Option.some.injEq, Prod.mk.injEq] at ends
    obtain ⟨_, rfl⟩ := ends
    exact ⟨[], .start⟩
  | log entry next ih =>
    obtain ⟨more, late⟩ := ih ends
    exact ⟨_, (History.write entry .start).trans late⟩
  | call request next ih =>
    simp only [Script.exec] at ends
    split at ends
    next reply middle replied =>
      obtain ⟨early, served⟩ := answered _ _ _ _ _ replied
      obtain ⟨more, late⟩ := ih reply ends
      exact ⟨_, served.trans late⟩
    next => simp at ends

/-- Whatever a request sets going, its run belongs to one history. -/
theorem of_answer {depth : Nat} {world later : World κ} {held : List Hold} {request : Request κ}
    {reply : Reply} (answered : world.answer depth held request = some (reply, later)) :
    ∃ more, History world (⟨world, held, request⟩ :: more) later := by
  induction depth generalizing world held request reply later with
  | zero => simp [answer] at answered
  | succ depth ih =>
    unfold answer at answered
    simp only at answered
    split at answered
    next result last ends =>
      obtain ⟨more, late⟩ := of_exec (fun _ _ _ _ _ served => ih served) ends
      simp only [Option.some.injEq, Prod.mk.injEq] at answered
      obtain ⟨_, rfl⟩ := answered
      exact ⟨more, (History.serve held request .start).trans late⟩
    next => simp at answered

theorem of_operate {depth : Nat} {world later : World κ} {operation : Operation κ} {reply : Reply}
    (operated : world.operate depth operation = some (reply, later)) :
    ∃ more, History world (⟨world.clearLog, [], .operation operation⟩ :: more) later := by
  obtain ⟨more, late⟩ := of_answer operated
  exact ⟨more, (History.clear .start).trans late⟩

end History

section Operations

variable [Closures κ]

def moments (world : World κ) : List (Operation κ) → List (Moment κ)
  | [] => []
  | operation :: rest =>
    ⟨world, [], .operation operation⟩ :: moments (world.serve [] (.operation operation)).2 rest

def after (world : World κ) (operations : List (Operation κ)) : World κ :=
  operations.foldl (fun world operation => (world.serve [] (.operation operation)).2) world

theorem History.of_operations (world : World κ) (operations : List (Operation κ)) :
    History world (world.moments operations) (world.after operations) := by
  induction operations generalizing world with
  | nil => exact .start
  | cons operation rest ih => exact (History.serve [] (.operation operation) .start).trans (ih _)

end Operations

end World

end RecordMapping
