import RecordMapping.Proofs.Chronicle
import RecordMapping.Proofs.Asking

namespace RecordMapping

variable {κ α : Type}

namespace Script

def heard (server : Server κ) (held : List Hold) : Script κ α → World κ → List Reply
  | .done _, _ | .panic _, _ => []
  | .log entry next, world => next.heard server held (world.write entry)
  | .call request next, world =>
    match server world held request with
    | some (reply, later) => reply :: (next reply).heard server held later
    | none => []

/-- What is left of a script after it has been given some replies. -/
inductive After (script : Script κ α) : List Reply → Script κ α → Prop where
  | start : After script [] script
  | log {replies : List Reply} {entry : LogEntry} {next : Script κ α}
    (after : After script replies (.log entry next)) : After script replies next
  | call {replies : List Reply} {request : Request κ} {next : Reply → Script κ α}
    (after : After script replies (.call request next)) (reply : Reply) :
    After script (replies ++ [reply]) (next reply)

variable {script rest : Script κ α} {replies more : List Reply} {server : Server κ}
  {held : List Hold} {world : World κ}

/-- A run that is given the same replies comes to the same rest. -/
theorem After.resumes (after : script.After replies rest)
    (heard : script.heard server held world = replies ++ more) :
    ∃ later, script.exec server held world = rest.exec server held later ∧
      rest.heard server held later = more := by
  induction after generalizing more with
  | start => exact ⟨world, rfl, heard⟩
  | log _ ih =>
    obtain ⟨later, same, heard⟩ := ih heard
    exact ⟨_, same, heard⟩
  | @call replies request next _ reply ih =>
    have told : script.heard server held world = replies ++ reply :: more := by simpa using heard
    obtain ⟨later, same, given⟩ := ih told
    cases served : server later held request with
    | none => simp [Script.heard, served] at given
    | some answered =>
      obtain ⟨reply', next'⟩ := answered
      simp only [Script.heard, served, List.cons.injEq] at given
      obtain ⟨rfl, given⟩ := given
      exact ⟨next', by rw [same, exec, served], given⟩

theorem After.quiet (after : script.After replies rest) (quiet : script.Quiet) :
    replies = [] ∧ rest.Quiet := by
  induction after with
  | start => exact ⟨rfl, quiet⟩
  | log _ ih =>
    obtain ⟨none, _ | _ | ⟨_, quiet⟩⟩ := ih
    exact ⟨none, quiet⟩
  | call _ _ ih => cases ih.2

theorem Quiet.heard (quiet : script.Quiet) : script.heard server held world = [] := by
  induction quiet generalizing world with
  | done | panic => rfl
  | log entry _ ih => exact ih

end Script

def Launch.heard (server : Server κ) (held : List Hold) (served : Launch κ α × World κ) :
    List Reply :=
  served.1.script.run.heard server (served.1.holds ++ held) served.2

namespace World

def revised (world : World κ) (id : MapperId) (mapper : Mapper κ)
    (surroundings : Surroundings κ) : World κ :=
  { world with mappers := world.mappers.set id mapper, surroundings := surroundings }

def composed (world : World κ) (mapper : Mapper κ) :
    Except String (Composition κ) × Config κ × Surroundings κ :=
  Plan.compose (Surroundings.dialogue world.schema mapper.service)
    (world.schema.properties mapper.source) (world.schema.properties mapper.dest) mapper.config
    world.surroundings

def asks (world : World κ) (mapper : Mapper κ) : List Question :=
  (Plan.heard (Surroundings.dialogue world.schema mapper.service)
    (world.schema.properties mapper.source) (world.schema.properties mapper.dest) mapper.config
    world.surroundings).map (·.question)

/-- The plan, the count and the lock of a mapper are as they were. -/
structure Keeps (id : MapperId) (world later : World κ) : Prop where
  schema : later.schema = world.schema
  mapper : ∀ mapper, world.mappers[id]? = some mapper →
    ∃ after, later.mappers[id]? = some after ∧ mapper.SameCache after ∧
      after.poisoned = mapper.poisoned

variable {world : World κ} {id : MapperId} {mapper other : Mapper κ}
  {surroundings after : Surroundings κ} {config : Config κ}

theorem Keeps.of_mappers {later : World κ} (schema : later.schema = world.schema)
    (mappers : later.mappers = world.mappers) : world.Keeps id later where
  schema := schema
  mapper mapper found := ⟨mapper, mappers ▸ found, ⟨rfl, rfl⟩, rfl⟩

theorem revised_mapper (found : world.mappers[id]? = some mapper) (other : Mapper κ)
    (surroundings : Surroundings κ) :
    (world.revised id other surroundings).mappers[id]? = some other :=
  List.getElem?_set_self (List.getElem?_eq_some_iff.mp found).1

@[simp] theorem revised_revised :
    (world.revised id mapper surroundings).revised id other after =
      world.revised id other after := by
  simp [revised, List.set_set]

theorem revised_self (found : world.mappers[id]? = some mapper) :
    world.revised id mapper world.surroundings = world := by
  obtain ⟨bound, rfl⟩ := List.getElem?_eq_some_iff.mp found
  simp [revised]

theorem compile_of_poisoned (found : world.mappers[id]? = some mapper)
    (poisoned : mapper.poisoned = true) :
    world.compile id mapper = (.error .lockPoisoned, world) := by
  simp only [compile, act, Mapper.compile, poisoned, if_true]
  exact congrArg _ (revised_self found)

theorem compile_of_cached {plan : Plan κ} (found : world.mappers[id]? = some mapper)
    (healthy : mapper.poisoned = false) (cached : mapper.compiled = some plan) :
    world.compile id mapper = (.ok plan, world) := by
  simp only [compile, act, Mapper.compile, healthy, cached]
  exact congrArg _ (revised_self found)

theorem compile_of_panic (id : MapperId) {text : String} (healthy : mapper.poisoned = false)
    (uncached : mapper.compiled = none)
    (composed : world.composed mapper = (.error text, config, surroundings)) :
    world.compile id mapper =
      (.panic text,
        world.revised id { mapper with config := config, poisoned := true } surroundings) := by
  unfold World.composed at composed
  simp [compile, act, Mapper.compile, Mapper.rebuild, healthy, uncached, composed, revised]

theorem compile_of_composed (id : MapperId) {composition : Composition κ}
    (healthy : mapper.poisoned = false) (uncached : mapper.compiled = none)
    (composed : world.composed mapper = (.ok composition, config, surroundings)) :
    let plan := { mapper with config := config }.assembled id composition
    world.compile id mapper =
      (.ok plan,
        world.revised id
          { mapper with config := config, compiled := some plan, builds := mapper.builds + 1 }
          (surroundings.report (.planCompiled mapper.source mapper.dest
            composition.assignments.length (mapper.builds + 1)))) := by
  unfold World.composed at composed
  simp only [compile, act, Mapper.compile, Mapper.rebuild, healthy, uncached, composed]
  rfl

section Served

variable [Closures κ] {first last : World κ} {more : List (Moment κ)} {held : List Hold}
  {request : Request κ} {reply : Reply} {depth : Nat}

theorem Keeps.serve {later : World κ} (keeps : world.Keeps id later)
    (unbuilt : Moment.composition? id ⟨later, held, request⟩ = none) :
    world.Keeps id (later.serve held request).2 where
  schema := (later.serve_schema held request).trans keeps.schema
  mapper mapper found := by
    obtain ⟨after, found', ⟨compiled, builds⟩, poisoned⟩ := keeps.mapper mapper found
    have incomplete : Moment.completes id ⟨later, held, request⟩ = false := by
      simp [Moment.completes, unbuilt]
    obtain ⟨same, locked⟩ := afterwards_of_incomplete found' incomplete
    refine ⟨_, serve_mapper found' held request,
      ⟨same.compiled.trans compiled, same.builds.trans builds⟩, ?_⟩
    simp [locked, poisoned, Moment.aborts, unbuilt]

theorem Keeps.of_history (history : History first more last)
    (unbuilt : ∀ moment ∈ more, moment.composition? id = none) : first.Keeps id last := by
  induction history with
  | start => exact .of_mappers rfl rfl
  | write entry _ ih | clear _ ih =>
    obtain ⟨schema, mapper⟩ := ih unbuilt
    exact ⟨schema, mapper⟩
  | serve held request _ ih =>
    exact (ih fun moment mem => unbuilt moment (List.mem_append_left _ mem)).serve
      (unbuilt _ (List.mem_append_right _ List.mem_cons_self))

/-- Whatever the session serves without a build of the mapper keeps its plan. -/
theorem Keeps.of_answer (answered : world.answer depth held request = some (reply, last))
    (unbuilt : ∀ moment ∈ world.trace depth held request, moment.composition? id = none) :
    world.Keeps id last :=
  .of_history (history_trace answered) unbuilt

end Served

end World

namespace Client

inductive Call where
  | compile
  | map (source : Record) (dest : Option Record)

namespace Call

variable [Closures κ]

/-- What a call does with the plan that it gets. -/
def script (schema : Schema) (plan : Plan κ) :
    Call → ExceptT MappingError (Script κ) (Option Record)
  | .compile => return none
  | .map source dest => some <$> plan.run schema source dest

def alone (world : World κ) (id : MapperId) (mapper : Mapper κ) :
    Call → Launch κ (Option Record) × World κ
  | .compile =>
    (.now ((world.compile id mapper).1.map fun _ => none), (world.compile id mapper).2)
  | .map source dest =>
    let (launch, world) := world.runMapper id mapper source dest
    (launch.map some, world)

end Call

/-- A call that is over: what it got at the lock, the replies that its run was given, and what it
returned. -/
structure Result (κ : Type) where
  call : Call
  obtained : Outcome (Plan κ)
  replies : List Reply
  output : Outcome (Option Record)

def Result.failed (failure : Failure) (call : Call) : Result κ :=
  ⟨call, failure.outcome, [], failure.outcome⟩

def Result.locked : Call → Result κ := .failed (.error .lockPoisoned)

inductive Phase (κ : Type) where
  | idle
  | waiting (call : Call)
  | checking (call : Call)
  | building (call : Call)
  | counting (call : Call) (composition : Composition κ)
  | storing (call : Call) (plan : Plan κ)
  | leaving (call : Call) (plan : Plan κ)
  | running (call : Call) (plan : Plan κ) (replies : List Reply)
    (rest : Script κ (Except MappingError (Option Record)))

namespace Phase

def critical : Phase κ → Bool
  | .checking _ | .building _ | .counting _ _ | .storing _ _ | .leaving _ _ => true
  | .idle | .waiting _ | .running _ _ _ _ => false

def call? : Phase κ → Option Call
  | .idle => none
  | .waiting call | .checking call | .building call | .counting call _ | .storing call _
  | .leaving call _ | .running call _ _ _ => some call

end Phase

end Client

structure Client (κ : Type) where
  calls : List Client.Call
  phase : Client.Phase κ
  results : List (Client.Result κ)

/-- What the clients share: the session, the lock, and what was asked in each build so far. -/
structure Shared (κ : Type) where
  world : World κ
  holder : Option Nat
  asked : List (List Question)

def Client.program (client : Client κ) : List Client.Call :=
  client.results.map (·.call) ++ client.phase.call?.toList ++ client.calls

section Moves

variable [Closures κ]

/-- A move of client `i` in a call on the mapper `id`, with the result if the call is over then.
While a run waits for a reply, the session may do anything that keeps the plan of the mapper. -/
inductive Client.Phase.Move (id : MapperId) (i : Nat) :
    Shared κ → Phase κ → Shared κ → Phase κ → Option (Result κ) → Prop where
  | refuse {shared : Shared κ} {mapper : Mapper κ} {call : Call} (free : shared.holder = none)
    (found : shared.world.mappers[id]? = some mapper) (poisoned : mapper.poisoned = true) :
    Move id i shared (.waiting call) shared .idle (some (.locked call))
  | acquire {shared : Shared κ} {mapper : Mapper κ} {call : Call} (free : shared.holder = none)
    (found : shared.world.mappers[id]? = some mapper) (healthy : mapper.poisoned = false) :
    Move id i shared (.waiting call) { shared with holder := some i } (.checking call) none
  | reuse {shared : Shared κ} {mapper : Mapper κ} {call : Call} {plan : Plan κ}
    (found : shared.world.mappers[id]? = some mapper) (cached : mapper.compiled = some plan) :
    Move id i shared (.checking call) shared (.leaving call plan) none
  | miss {shared : Shared κ} {mapper : Mapper κ} {call : Call}
    (found : shared.world.mappers[id]? = some mapper) (uncached : mapper.compiled = none) :
    Move id i shared (.checking call) shared (.building call) none
  | build {shared : Shared κ} {mapper : Mapper κ} {call : Call} {composition : Composition κ}
    {config : Config κ} {surroundings : Surroundings κ}
    (found : shared.world.mappers[id]? = some mapper)
    (composed : shared.world.composed mapper = (.ok composition, config, surroundings)) :
    Move id i shared (.building call)
      { shared with
        world := shared.world.revised id { mapper with config := config } surroundings
        asked := shared.asked ++ [shared.world.asks mapper] }
      (.counting call composition) none
  | abort {shared : Shared κ} {mapper : Mapper κ} {call : Call} {text : String}
    {config : Config κ} {surroundings : Surroundings κ}
    (found : shared.world.mappers[id]? = some mapper)
    (composed : shared.world.composed mapper = (.error text, config, surroundings)) :
    Move id i shared (.building call)
      { world :=
          shared.world.revised id { mapper with config := config, poisoned := true } surroundings
        holder := none
        asked := shared.asked ++ [shared.world.asks mapper] }
      .idle (some (.failed (.panic text) call))
  | count {shared : Shared κ} {mapper : Mapper κ} {call : Call} {composition : Composition κ}
    (found : shared.world.mappers[id]? = some mapper) :
    Move id i shared (.counting call composition)
      { shared with
        world := shared.world.revised id { mapper with builds := mapper.builds + 1 }
          (shared.world.surroundings.report (.planCompiled mapper.source mapper.dest
            composition.assignments.length (mapper.builds + 1))) }
      (.storing call (mapper.assembled id composition)) none
  | store {shared : Shared κ} {mapper : Mapper κ} {call : Call} {plan : Plan κ}
    (found : shared.world.mappers[id]? = some mapper) :
    Move id i shared (.storing call plan)
      { shared with
        world := shared.world.revised id { mapper with compiled := some plan }
          shared.world.surroundings }
      (.leaving call plan) none
  | release {shared : Shared κ} {call : Call} {plan : Plan κ} :
    Move id i shared (.leaving call plan) { shared with holder := none }
      (.running call plan [] (call.script shared.world.schema plan).run) none
  | log {shared : Shared κ} {call : Call} {plan : Plan κ} {replies : List Reply}
    {entry : LogEntry} {next : Script κ (Except MappingError (Option Record))} :
    Move id i shared (.running call plan replies (.log entry next))
      { shared with world := shared.world.write entry } (.running call plan replies next) none
  | ask {shared : Shared κ} {call : Call} {plan : Plan κ} {replies : List Reply}
    {request : Request κ} {next : Reply → Script κ (Except MappingError (Option Record))}
    {later : World κ} (keeps : shared.world.Keeps id later) (reply : Reply) :
    Move id i shared (.running call plan replies (.call request next))
      { shared with world := later } (.running call plan (replies ++ [reply]) (next reply)) none
  | finish {shared : Shared κ} {call : Call} {plan : Plan κ} {replies : List Reply}
    {result : Except MappingError (Option Record)} :
    Move id i shared (.running call plan replies (.done result)) shared .idle
      (some ⟨call, .ok plan, replies, .ofExcept result⟩)
  | collapse {shared : Shared κ} {call : Call} {plan : Plan κ} {replies : List Reply}
    {text : String} :
    Move id i shared (.running call plan replies (.panic text)) shared .idle
      (some ⟨call, .ok plan, replies, .panic text⟩)

inductive Client.Move (id : MapperId) (i : Nat) (shared : Shared κ) :
    Client κ → Shared κ → Client κ → Prop where
  | begin {call : Call} {calls : List Call} {results : List (Result κ)} :
    Move id i shared ⟨call :: calls, .idle, results⟩ shared ⟨calls, .waiting call, results⟩
  | proceed {phase next : Phase κ} {after : Shared κ} {result : Option (Result κ)}
    {calls : List Call} {results : List (Result κ)}
    (move : phase.Move id i shared after next result) :
    Move id i shared ⟨calls, phase, results⟩ after ⟨calls, next, results ++ result.toList⟩

end Moves

section Steps

variable [Closures κ] {id : MapperId} {i : Nat} {shared after : Shared κ}

namespace Client

theorem Phase.Move.lock {phase next : Phase κ} {result : Option (Result κ)}
    (move : phase.Move id i shared after next result)
    (mine : phase.critical = true ↔ shared.holder = some i) :
    (next.critical = true ↔ after.holder = some i) ∧
      ∀ j, j ≠ i → (after.holder = some j ↔ shared.holder = some j) := by
  cases move with
  | acquire free => exact ⟨by simp [critical], fun j other => by simp [free, Ne.symm other]⟩
  | abort | release =>
    have held : shared.holder = some i := mine.mp rfl
    exact ⟨by simp [critical], fun j other => by simp [held, Ne.symm other]⟩
  | _ => simp_all [critical]

/-- The move of a client in a call, if it can make one. A request of its run is answered with
nothing done. -/
def Phase.next? (id : MapperId) (i : Nat) (shared : Shared κ) :
    Phase κ → Option (Shared κ × Phase κ × Option (Result κ))
  | .idle => none
  | .waiting call =>
    match shared.holder, shared.world.mappers[id]? with
    | none, some mapper =>
      if mapper.poisoned then some (shared, .idle, some (.locked call))
      else some ({ shared with holder := some i }, .checking call, none)
    | _, _ => none
  | .checking call =>
    shared.world.mappers[id]?.map fun mapper =>
      match mapper.compiled with
      | some plan => (shared, .leaving call plan, none)
      | none => (shared, .building call, none)
  | .building call =>
    shared.world.mappers[id]?.map fun mapper =>
      let asked := shared.asked ++ [shared.world.asks mapper]
      match shared.world.composed mapper with
      | (.ok composition, config, surroundings) =>
        let world := shared.world.revised id { mapper with config := config } surroundings
        (⟨world, shared.holder, asked⟩, .counting call composition, none)
      | (.error text, config, surroundings) =>
        let world :=
          shared.world.revised id { mapper with config := config, poisoned := true } surroundings
        (⟨world, none, asked⟩, .idle, some (.failed (.panic text) call))
  | .counting call composition =>
    shared.world.mappers[id]?.map fun mapper =>
      let event := .planCompiled mapper.source mapper.dest composition.assignments.length
        (mapper.builds + 1)
      let world := shared.world.revised id { mapper with builds := mapper.builds + 1 }
        (shared.world.surroundings.report event)
      ({ shared with world := world }, .storing call (mapper.assembled id composition), none)
  | .storing call plan =>
    shared.world.mappers[id]?.map fun mapper =>
      let world := shared.world.revised id { mapper with compiled := some plan }
        shared.world.surroundings
      ({ shared with world := world }, .leaving call plan, none)
  | .leaving call plan =>
    some ({ shared with holder := none },
      .running call plan [] (call.script shared.world.schema plan).run, none)
  | .running call plan replies (.done result) =>
    some (shared, .idle, some ⟨call, .ok plan, replies, .ofExcept result⟩)
  | .running call plan replies (.panic text) =>
    some (shared, .idle, some ⟨call, .ok plan, replies, .panic text⟩)
  | .running call plan replies (.log entry next) =>
    some ({ shared with world := shared.world.write entry }, .running call plan replies next, none)
  | .running call plan replies (.call _ next) =>
    some (shared, .running call plan (replies ++ [.ok .unit]) (next (.ok .unit)), none)

theorem Phase.Move.of_next? {phase next : Phase κ} {result : Option (Result κ)}
    (told : phase.next? id i shared = some (after, next, result)) :
    phase.Move id i shared after next result := by
  cases phase with
  | idle => simp [next?] at told
  | waiting call =>
    simp only [next?] at told
    split at told
    next mapper free found =>
      cases poisoned : mapper.poisoned with
      | true =>
        obtain ⟨rfl, rfl, rfl⟩ := by simpa [poisoned] using told
        exact .refuse free found poisoned
      | false =>
        obtain ⟨rfl, rfl, rfl⟩ := by simpa [poisoned] using told
        exact .acquire free found poisoned
    next => simp at told
  | checking call =>
    obtain ⟨mapper, found, told⟩ := Option.map_eq_some_iff.mp told
    cases cached : mapper.compiled with
    | some plan =>
      obtain ⟨rfl, rfl, rfl⟩ := by simpa [cached] using told
      exact .reuse found cached
    | none =>
      obtain ⟨rfl, rfl, rfl⟩ := by simpa [cached] using told
      exact .miss found cached
  | building call =>
    obtain ⟨mapper, found, told⟩ := Option.map_eq_some_iff.mp told
    rcases composed : shared.world.composed mapper with ⟨text | composition, config, surroundings⟩
    · obtain ⟨rfl, rfl, rfl⟩ := by simpa [composed] using told
      exact .abort found composed
    · obtain ⟨rfl, rfl, rfl⟩ := by simpa [composed] using told
      exact .build found composed
  | counting call composition =>
    obtain ⟨mapper, found, told⟩ := Option.map_eq_some_iff.mp told
    obtain ⟨rfl, rfl, rfl⟩ := by simpa using told
    exact .count found
  | storing call plan =>
    obtain ⟨mapper, found, told⟩ := Option.map_eq_some_iff.mp told
    obtain ⟨rfl, rfl, rfl⟩ := by simpa using told
    exact .store found
  | leaving call plan =>
    obtain ⟨rfl, rfl, rfl⟩ := by simpa [next?] using told
    exact .release
  | running call plan replies rest =>
    cases rest with
    | done result =>
      obtain ⟨rfl, rfl, rfl⟩ := by simpa [next?] using told
      exact .finish
    | panic text =>
      obtain ⟨rfl, rfl, rfl⟩ := by simpa [next?] using told
      exact .collapse
    | log entry next =>
      obtain ⟨rfl, rfl, rfl⟩ := by simpa [next?] using told
      exact .log
    | call request next =>
      obtain ⟨rfl, rfl, rfl⟩ := by simpa [next?] using told
      exact .ask (.of_mappers rfl rfl) _

/-- A client in a call can move, unless it waits for the lock while it is held. -/
theorem Phase.moves {phase : Phase κ} {mapper : Mapper κ}
    (found : shared.world.mappers[id]? = some mapper) (busy : phase ≠ .idle)
    (turn : phase.critical = true ∨ shared.holder = none) :
    ∃ after next result, phase.Move id i shared after next result := by
  suffices told : (phase.next? id i shared).isSome = true by
    obtain ⟨⟨after, next, result⟩, told⟩ := Option.isSome_iff_exists.mp told
    exact ⟨after, next, result, .of_next? told⟩
  cases phase with
  | idle => exact absurd rfl busy
  | waiting call =>
    have free : shared.holder = none := by simpa [critical] using turn
    cases poisoned : mapper.poisoned <;> simp [next?, free, found, poisoned]
  | checking | building | counting | storing | leaving => simp [next?, found]
  | running call plan replies rest => cases rest <;> simp [next?]

theorem Move.program {client later : Client κ}
    (move : Client.Move id i shared client after later) : later.program = client.program := by
  cases move with
  | begin => simp [Client.program, Phase.call?]
  | proceed move => cases move <;> simp [Client.program, Phase.call?, Result.locked, Result.failed]

end Client

end Steps

namespace Client

variable [Closures κ] {id : MapperId}

def Moves (id : MapperId) (later client : Client κ) : Prop :=
  ∃ i shared after, Move id i shared client after later

section Ends

variable {calls : List Call} {phase : Phase κ}

theorem ends_of_moves (busy : phase ≠ .idle)
    (moves : ∀ i shared after next result, phase.Move id i shared after next result →
      ∀ results, Acc (Moves id) ⟨calls, next, results⟩) (results : List (Result κ)) :
    Acc (Moves id) ⟨calls, phase, results⟩ := by
  refine ⟨_, fun later ⟨i, shared, after, move⟩ => ?_⟩
  cases move with
  | begin => exact absurd rfl busy
  | proceed move => exact moves _ _ _ _ _ move _

variable (idle : ∀ results, Acc (Moves id) (⟨calls, .idle, results⟩ : Client κ))
include idle

theorem ends_of_running (call : Call) (plan : Plan κ) (replies : List Reply)
    (rest : Script κ (Except MappingError (Option Record))) (results : List (Result κ)) :
    Acc (Moves id) ⟨calls, .running call plan replies rest, results⟩ := by
  induction rest generalizing replies results with
  | done | panic =>
    refine ends_of_moves (by simp) (fun _ _ _ _ _ move => ?_) results
    cases move
    exact idle
  | log entry next ih =>
    refine ends_of_moves (by simp) (fun _ _ _ _ _ move => ?_) results
    cases move
    exact ih replies
  | call request next ih =>
    refine ends_of_moves (by simp) (fun _ _ _ _ _ move => ?_) results
    cases move with
    | ask _ reply => exact ih reply _

theorem ends_of_phase (phase : Phase κ) (results : List (Result κ)) :
    Acc (Moves id) ⟨calls, phase, results⟩ := by
  have leaving (call : Call) (plan : Plan κ) :
      ∀ results, Acc (Moves id) ⟨calls, .leaving call plan, results⟩ :=
    ends_of_moves (by simp) fun _ _ _ _ _ move => by
      cases move
      exact ends_of_running idle call plan [] _
  have storing (call : Call) (plan : Plan κ) :
      ∀ results, Acc (Moves id) ⟨calls, .storing call plan, results⟩ :=
    ends_of_moves (by simp) fun _ _ _ _ _ move => by
      cases move
      exact leaving call plan
  have counting (call : Call) (composition : Composition κ) :
      ∀ results, Acc (Moves id) ⟨calls, .counting call composition, results⟩ :=
    ends_of_moves (by simp) fun _ _ _ _ _ move => by
      cases move
      exact storing call _
  have building (call : Call) :
      ∀ results, Acc (Moves id) (⟨calls, .building call, results⟩ : Client κ) :=
    ends_of_moves (by simp) fun _ _ _ _ _ move => by
      cases move with
      | build => exact counting call _
      | abort => exact idle
  have checking (call : Call) :
      ∀ results, Acc (Moves id) (⟨calls, .checking call, results⟩ : Client κ) :=
    ends_of_moves (by simp) fun _ _ _ _ _ move => by
      cases move with
      | reuse => exact leaving call _
      | miss => exact building call
  cases phase with
  | idle => exact idle results
  | waiting call =>
    refine ends_of_moves (by simp) (fun _ _ _ _ _ move => ?_) results
    cases move with
    | refuse => exact idle
    | acquire => exact checking call
  | checking call => exact checking call results
  | building call => exact building call results
  | counting call composition => exact counting call composition results
  | storing call plan => exact storing call plan results
  | leaving call plan => exact leaving call plan results
  | running call plan replies rest => exact ends_of_running idle call plan replies rest results

end Ends

theorem ends_of_idle (calls : List Call) (results : List (Result κ)) :
    Acc (Moves id) ⟨calls, .idle, results⟩ := by
  induction calls generalizing results with
  | nil =>
    refine ⟨_, fun later ⟨i, shared, after, move⟩ => ?_⟩
    cases move with
    | proceed move => cases move
  | cons call calls ih =>
    refine ⟨_, fun later ⟨i, shared, after, move⟩ => ?_⟩
    cases move with
    | begin => exact ends_of_phase ih _ results
    | proceed move => cases move

/-- No client can go on for ever. -/
theorem ends (client : Client κ) : Acc (Moves id) client :=
  ends_of_phase (ends_of_idle client.calls) client.phase client.results

end Client

section Lists

variable {α : Type} {r : α → α → Prop}

/-- One element of a list is replaced by a later one. -/
def List.Progresses (r : α → α → Prop) (later xs : List α) : Prop :=
  ∃ (i : Nat) (x y : α), xs[i]? = some x ∧ r y x ∧ later = xs.set i y

theorem List.acc_cons {x : α} {xs : List α} (first : Acc r x)
    (rest : Acc (List.Progresses r) xs) : Acc (List.Progresses r) (x :: xs) := by
  induction first generalizing xs with
  | intro x _ outer =>
    induction rest with
    | intro xs tail inner =>
      refine ⟨_, fun later ⟨i, z, y, found, moved, same⟩ => ?_⟩
      subst same
      cases i with
      | zero =>
        obtain rfl : x = z := by simpa using found
        exact outer y moved ⟨xs, tail⟩
      | succ i => exact inner _ ⟨i, z, y, by simpa using found, moved, rfl⟩

theorem List.acc_progresses {xs : List α} (ends : ∀ x ∈ xs, Acc r x) :
    Acc (List.Progresses r) xs := by
  induction xs with
  | nil => exact ⟨_, fun later ⟨i, x, y, found, _⟩ => by simp at found⟩
  | cons x xs ih =>
    exact List.acc_cons (ends x List.mem_cons_self)
      (ih fun y mem => ends y (List.mem_cons_of_mem _ mem))

end Lists

structure Crowd (κ : Type) where
  shared : Shared κ
  clients : List (Client κ)

namespace Crowd

def gathered (world : World κ) (programs : List (List Client.Call)) : Crowd κ where
  shared := ⟨world, none, []⟩
  clients := programs.map fun calls => ⟨calls, .idle, []⟩

variable [Closures κ]

inductive Step (id : MapperId) (i : Nat) (crowd : Crowd κ) : Crowd κ → Prop where
  | move {client later : Client κ} {shared : Shared κ} (there : crowd.clients[i]? = some client)
    (move : Client.Move id i crowd.shared client shared later) :
    Step id i crowd ⟨shared, crowd.clients.set i later⟩

/-- An interleaving of moves; the schedule says whose turn it is. -/
inductive Interleaving (id : MapperId) (first : Crowd κ) : List Nat → Crowd κ → Prop where
  | start : Interleaving id first [] first
  | step {schedule : List Nat} {i : Nat} {crowd later : Crowd κ}
    (before : Interleaving id first schedule crowd) (step : Step id i crowd later) :
    Interleaving id first (schedule ++ [i]) later

variable {id : MapperId} {i : Nat} {crowd later : Crowd κ}

theorem Step.programs (step : Step id i crowd later) :
    later.clients.map Client.program = crowd.clients.map Client.program := by
  obtain ⟨there, move⟩ := step
  obtain ⟨bound, rfl⟩ := List.getElem?_eq_some_iff.mp there
  rw [List.map_set, move.program, ← List.map_set, List.set_getElem_self]

/-- No interleaving goes on for ever. -/
theorem ends (id : MapperId) (crowd : Crowd κ) :
    Acc (fun later crowd => ∃ i, Step id i crowd later) crowd := by
  have clients : Acc (List.Progresses (Client.Moves id)) crowd.clients :=
    List.acc_progresses fun client _ => client.ends
  refine Subrelation.accessible ?_ (InvImage.accessible Crowd.clients clients)
  rintro later crowd ⟨i, there, move⟩
  exact ⟨i, _, _, there, ⟨i, _, _, move⟩, rfl⟩

/-- Client `i` makes its move, if it can make one. -/
def turn? (id : MapperId) (i : Nat) (crowd : Crowd κ) : Option (Crowd κ) :=
  match crowd.clients[i]? with
  | some ⟨call :: calls, .idle, results⟩ =>
    some { crowd with clients := crowd.clients.set i ⟨calls, .waiting call, results⟩ }
  | some ⟨calls, phase, results⟩ =>
    (phase.next? id i crowd.shared).map fun (shared, next, result) =>
      ⟨shared, crowd.clients.set i ⟨calls, next, results ++ result.toList⟩⟩
  | none => none

def play? (id : MapperId) : List Nat → Crowd κ → Option (Crowd κ)
  | [], crowd => some crowd
  | i :: schedule, crowd => (crowd.turn? id i).bind (play? id schedule)

theorem Step.of_turn? (told : crowd.turn? id i = some later) : Step id i crowd later := by
  unfold turn? at told
  split at told
  next call calls results there =>
    obtain rfl := Option.some.inj told
    exact .move there .begin
  next calls phase results _ there =>
    obtain ⟨⟨shared, next, result⟩, moves, rfl⟩ := Option.map_eq_some_iff.mp told
    exact .move there (.proceed (.of_next? moves))
  next => simp at told

theorem Interleaving.plays {first last : Crowd κ} {before schedule : List Nat}
    (interleaving : Interleaving id first before crowd)
    (played : play? id schedule crowd = some last) :
    Interleaving id first (before ++ schedule) last := by
  induction schedule generalizing before crowd with
  | nil =>
    obtain rfl := Option.some.inj played
    simpa using interleaving
  | cons i schedule ih =>
    obtain ⟨middle, told, played⟩ := Option.bind_eq_some_iff.mp played
    simpa using ih (interleaving.step (.of_turn? told)) played

namespace Interleaving

variable {id : MapperId} {first : Crowd κ} {schedule : List Nat} {shared after : Shared κ}
  {phase next : Client.Phase κ} {calls : List Client.Call} {results : List (Client.Result κ)}

theorem proceed {result : Option (Client.Result κ)}
    (before : Interleaving id first schedule ⟨shared, [⟨calls, phase, results⟩]⟩)
    (move : phase.Move id 0 shared after next result) :
    Interleaving id first (schedule ++ [0])
      ⟨after, [⟨calls, next, results ++ result.toList⟩]⟩ :=
  .step before (.move rfl (.proceed move))

theorem onward (before : Interleaving id first schedule ⟨shared, [⟨calls, phase, results⟩]⟩)
    (move : phase.Move id 0 shared after next none) :
    Interleaving id first (schedule ++ [0]) ⟨after, [⟨calls, next, results⟩]⟩ := by
  simpa using before.proceed move

def answered (schema : Schema) (call : Client.Call) (calls : List Client.Call)
    (results : List (Client.Result κ)) : Outcome (Plan κ) → Client κ
  | .ok plan => ⟨calls, .running call plan [] (call.script schema plan).run, results⟩
  | .error cause => ⟨calls, .idle, results ++ [.failed (.error cause) call]⟩
  | .panic text => ⟨calls, .idle, results ++ [.failed (.panic text) call]⟩

/-- The moves of a call that nobody interrupts are `World.compile`. -/
theorem alone {world : World κ} {mapper : Mapper κ} (found : world.mappers[id]? = some mapper)
    (asked : List (List Question)) (call : Client.Call) (calls : List Client.Call)
    (results : List (Client.Result κ)) :
    ∃ schedule asked', Interleaving id
      ⟨⟨world, none, asked⟩, [⟨call :: calls, .idle, results⟩]⟩ schedule
      ⟨⟨(world.compile id mapper).2, none, asked'⟩,
        [answered world.schema call calls results (world.compile id mapper).1]⟩ := by
  have begun : Interleaving id ⟨⟨world, none, asked⟩, [⟨call :: calls, .idle, results⟩]⟩ [0]
      ⟨⟨world, none, asked⟩, [⟨calls, .waiting call, results⟩]⟩ :=
    .step .start (.move rfl .begin)
  cases poisoned : mapper.poisoned with
  | true =>
    rw [World.compile_of_poisoned found poisoned]
    exact ⟨_, asked, begun.proceed (.refuse rfl found poisoned)⟩
  | false =>
    have entered := begun.onward (.acquire rfl found poisoned)
    cases cached : mapper.compiled with
    | some plan =>
      rw [World.compile_of_cached found poisoned cached]
      exact ⟨_, asked, (entered.onward (.reuse found cached)).onward .release⟩
    | none =>
      have missed := entered.onward (.miss found cached)
      rcases composed : world.composed mapper with ⟨text | composition, config, surroundings⟩
      · rw [World.compile_of_panic id poisoned cached composed]
        exact ⟨_, _, missed.proceed (.abort found composed)⟩
      · rw [World.compile_of_composed id poisoned cached composed]
        have built := missed.onward (.build found composed)
        have counted := built.onward (.count (World.revised_mapper found _ _))
        have stored := counted.onward (.store (by
          rw [World.revised_revised]
          exact World.revised_mapper found _ _))
        have left := stored.onward .release
        simp only [World.revised_revised] at left
        exact ⟨_, _, left⟩

end Interleaving

end Crowd

end RecordMapping
