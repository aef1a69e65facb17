import RecordMapping.Expression
import RecordMapping.Proofs.FirstUse

namespace RecordMapping

variable {κ : Type}

namespace Client

variable [Closures κ] {start : World κ} {id : MapperId} {mapper : Mapper κ} {plan : Plan κ}

theorem Call.alone_of_ok (call : Call) (alone : (start.compile id mapper).1 = .ok plan) :
    ∃ holds, call.alone start id mapper =
      (⟨holds, call.script start.schema plan⟩, (start.compile id mapper).2) := by
  cases call with
  | compile =>
    simp only [Call.alone, alone]
    exact ⟨[], rfl⟩
  | map source dest =>
    obtain ⟨outcome, later, compiled⟩ : ∃ outcome later,
      start.compile id mapper = (outcome, later) := ⟨_, _, rfl⟩
    have schema : start.schema = later.schema := congrArg (·.2.schema) compiled
    rw [compiled] at alone
    obtain rfl : outcome = .ok plan := alone
    simp only [Call.alone, World.runMapper, compiled, schema]
    exact ⟨[.mapper id], rfl⟩

theorem Call.quiet_script (call : Call) (schema : Schema) (quiet : plan.Quiet) :
    (call.script schema plan).run.Quiet := by
  cases call with
  | compile => exact .done _
  | map source dest =>
    exact Script.quiet_iff.mpr (.run_map (Script.quiet_iff.mp (quiet.run dest)) _)

namespace Result.Ran

variable {result : Result κ}

theorem obtained (ran : result.Ran start.schema plan) : result.obtained = .ok plan := by
  cases ran <;> rfl

/-- A call that is given the same replies when it comes alone returns the same. -/
theorem output (ran : result.Ran start.schema plan) (alone : (start.compile id mapper).1 = .ok plan)
    (server : Server κ) (held : List Hold)
    (heard : Launch.heard server held (result.call.alone start id mapper) = result.replies) :
    ∃ last, Launch.outcome server held (result.call.alone start id mapper) =
      some (result.output, last) := by
  obtain ⟨holds, same⟩ := result.call.alone_of_ok alone
  rw [same] at heard ⊢
  cases ran with
  | finish after | collapse after =>
    obtain ⟨later, resumed, _⟩ := after.resumes (heard.trans (List.append_nil _).symm)
    refine ⟨later, ?_⟩
    simp only [Launch.outcome, resumed]
    rfl

theorem quiet (ran : result.Ran start.schema plan) (quiet : plan.Quiet) :
    result.replies = [] := by
  cases ran with
  | finish after | collapse after => exact (after.quiet (Call.quiet_script _ _ quiet)).1

end Result.Ran

/-- A call of the client has got past the lock. -/
def Passed (client : Client κ) : Prop :=
  (∃ result ∈ client.results, ∃ plan, result.obtained = .ok plan) ∨
    ∃ call plan replies rest, client.phase = .running call plan replies rest

end Client

namespace Crowd

section Guarantee

variable [Closures κ] (start : World κ) (id : MapperId) (mapper : Mapper κ)

/-- The plan that a lone call would build is the plan of every call. -/
structure Shares (plan : Plan κ) (crowd : Crowd κ) : Prop where
  obtained : ∀ client ∈ crowd.clients, ∀ result ∈ client.results, result.obtained = .ok plan
  running : ∀ client ∈ crowd.clients, ∀ call other replies rest,
    client.phase = .running call other replies rest → other = plan
  cached : ∃ later, crowd.shared.world.mappers[id]? = some later ∧ later.builds ≤ 1 ∧
    later.poisoned = false ∧ ∀ other, later.compiled = some other → other = plan
  passed : ∀ client ∈ crowd.clients, client.Passed →
    ∃ later, crowd.shared.world.mappers[id]? = some later ∧ later.builds = 1 ∧
      later.compiled = some plan
  /-- A call returns what it returns alone, if it is given the same replies. -/
  output : ∀ client ∈ crowd.clients, ∀ result ∈ client.results, ∀ server held,
    Launch.heard server held (result.call.alone start id mapper) = result.replies →
    ∃ last, Launch.outcome server held (result.call.alone start id mapper) =
      some (result.output, last)
  /-- Where runs ask the session for nothing, a call returns what it returns alone. -/
  quiet : plan.Quiet → ∀ client ∈ crowd.clients, ∀ result ∈ client.results, ∀ server held,
    ∃ last, Launch.outcome server held (result.call.alone start id mapper) =
      some (result.output, last)

/-- The build that a lone call would make panics: so does the one call that makes it, and the
poisoned lock turns all others away. -/
structure Fails (text : String) (crowd : Crowd κ) : Prop where
  unpublished : ∃ later, crowd.shared.world.mappers[id]? = some later ∧ later.compiled = none ∧
    later.builds = 0
  unpassed : ∀ client ∈ crowd.clients, ¬ client.Passed
  turned : (∀ client ∈ crowd.clients, client.results = []) ∨
    ∃ builder < crowd.clients.length, ∀ (i : Nat) (client : Client κ),
      crowd.clients[i]? = some client → ∃ aborted turned,
        client.results = aborted ++ List.map .locked turned ∧
          if i = builder then ∃ call, aborted = [.failed (.panic text) call] else aborted = []

/-- However clients of a fresh mapper interleave, there is one build, and every call fares as if it
had come alone. -/
structure OneBuild (programs : List (List Client.Call)) (crowd : Crowd κ) : Prop where
  /-- Whoever checks, builds, counts or stores holds the lock, and nobody else does. -/
  exclusive : ∀ (i : Nat) (client : Client κ), crowd.clients[i]? = some client →
    (client.phase.critical = true ↔ crowd.shared.holder = some i)
  attempts : crowd.shared.asked.length ≤ 1
  asked : crowd.shared.asked.flatten <+: Plan.questions (start.schema.properties mapper.source)
    (start.schema.properties mapper.dest) mapper.config
  once : (crowd.shared.asked.flatten.map (·.source)).Sublist
    ((start.schema.properties mapper.source).map (·.signature))
  distinct : ((start.schema.properties mapper.source).map (·.signature)).Nodup →
    crowd.shared.asked.flatten.Nodup
  fate : (∃ plan, (start.compile id mapper).1 = .ok plan ∧ crowd.Shares start id mapper plan) ∨
    ∃ text, (start.compile id mapper).1 = .panic text ∧ crowd.Fails id text
  programs : crowd.clients.map Client.program = programs
  /-- Clients come to a halt, and only when all their calls are over. -/
  halts : (∀ i later, ¬ Step id i crowd later) →
    ∀ client ∈ crowd.clients, client.phase = .idle ∧ client.calls = []
  ends : Acc (fun later crowd => ∃ i, Step id i crowd later) crowd

end Guarantee

section Guarantee

variable [Closures κ] {start : World κ} {id : MapperId} {mapper : Mapper κ} {plan : Plan κ}
  {stage : FirstUse κ} {crowd : Crowd κ}

theorem Consistent.published (consistent : crowd.Consistent start id mapper stage)
    {client : Client κ} (mem : client ∈ crowd.clients) (passed : client.Passed) :
    ∃ plan, stage = .published plan := by
  obtain ⟨i, placed⟩ := List.mem_iff_getElem?.mp mem
  obtain ⟨result, listed, plan, got⟩ | ⟨call, plan, replies, rest, running⟩ := passed
  · obtain ⟨plan, same, -⟩ | ⟨_, _, failure, call, -, rfl⟩ :=
      FirstUse.of_records (consistent.records i client placed) listed
    · exact ⟨plan, same⟩
    · exact absurd got (failure.outcome_ne_ok plan)
  · have admits := consistent.admits i client placed
    rw [running] at admits
    exact ⟨plan, admits.1⟩

theorem Consistent.ran (consistent : crowd.Consistent start id mapper stage)
    (alone : (start.compile id mapper).1 = .ok plan) {client : Client κ}
    (mem : client ∈ crowd.clients) {result : Client.Result κ} (listed : result ∈ client.results) :
    result.Ran start.schema plan := by
  obtain ⟨i, placed⟩ := List.mem_iff_getElem?.mp mem
  obtain ⟨other, rfl, ran⟩ | ⟨builder, text, _, _, rfl, -⟩ :=
    FirstUse.of_records (consistent.records i client placed) listed
  · obtain rfl := Outcome.ok.inj (consistent.reached.alone.symm.trans alone)
    exact ran
  · have panics := consistent.reached.alone_panics
    simp [alone] at panics

theorem Consistent.shares (unused : mapper.Fresh) (present : start.mappers[id]? = some mapper)
    (consistent : crowd.Consistent start id mapper stage)
    (alone : (start.compile id mapper).1 = .ok plan) : crowd.Shares start id mapper plan where
  obtained client mem result listed := (consistent.ran alone mem listed).obtained
  running client mem call other replies rest running := by
    obtain ⟨i, placed⟩ := List.mem_iff_getElem?.mp mem
    have admits := consistent.admits i client placed
    rw [running] at admits
    obtain ⟨rfl, -⟩ := admits
    exact Outcome.ok.inj (consistent.reached.alone.symm.trans alone)
  cached := consistent.reached.cached unused present alone
  passed client mem passed := by
    obtain ⟨other, rfl⟩ := consistent.published mem passed
    have reached := consistent.reached
    obtain rfl := Outcome.ok.inj (reached.alone.symm.trans alone)
    cases reached with
    | published _ found cached counted => exact ⟨_, found, counted, cached⟩
  output client mem result listed := (consistent.ran alone mem listed).output alone
  quiet quiet client mem result listed server held := by
    have ran := consistent.ran alone mem listed
    obtain ⟨holds, same⟩ := result.call.alone_of_ok alone
    refine ran.output alone server held ?_
    rw [ran.quiet quiet, same]
    exact (result.call.quiet_script start.schema quiet).heard

theorem Consistent.fails {text : String} (unused : mapper.Fresh)
    (present : start.mappers[id]? = some mapper)
    (consistent : crowd.Consistent start id mapper stage)
    (alone : (start.compile id mapper).1 = .panic text) : crowd.Fails id text where
  unpublished := consistent.reached.unpublished unused present alone
  unpassed client mem passed := by
    obtain ⟨plan, rfl⟩ := consistent.published mem passed
    simp [consistent.reached.alone] at alone
  turned := by
    have none (early : ∀ (i : Nat) (client : Client κ), crowd.clients[i]? = some client →
        client.results = []) : ∀ client ∈ crowd.clients, client.results = [] := by
      intro client mem
      obtain ⟨i, placed⟩ := List.mem_iff_getElem?.mp mem
      exact early i client placed
    cases stage with
    | fresh | composed | counted => exact .inl (none consistent.records)
    | published plan => simp [consistent.reached.alone] at alone
    | poisoned builder text' =>
      obtain rfl := Outcome.panic.inj (consistent.reached.alone_panics.symm.trans alone)
      exact .inr ⟨builder, consistent.builder builder _ rfl, consistent.records⟩

theorem clients_share_one_build {programs : List (List Client.Call)} {schedule : List Nat}
    (unused : mapper.Fresh) (present : start.mappers[id]? = some mapper)
    (interleaving : Interleaving id (gathered start programs) schedule crowd) :
    OneBuild start id mapper programs crowd := by
  obtain ⟨stage, consistent⟩ := interleaving.consistent unused present
  have asked := consistent.reached.asked
  have prefixed := start.asks_prefix mapper
  have within : crowd.shared.asked.flatten <+: Plan.questions
      (start.schema.properties mapper.source) (start.schema.properties mapper.dest)
      mapper.config := by
    obtain none | once := asked
    · simp [none]
    · simpa [once] using prefixed
  have once := (within.sublist.map _).trans (Plan.questions_sublist _ _ _)
  refine ⟨consistent.lock, ?_, within, once, fun distinct => ?_, ?_, ?_, consistent.halts present,
    ends id crowd⟩
  · obtain none | once := asked
    · simp [none]
    · simp [once]
  · exact List.Pairwise.of_map (·.source) (fun _ _ apart same => apart (congrArg _ same))
      (distinct.sublist once)
  · rcases composed : start.composed mapper with ⟨text | composition, config, surroundings⟩
    · have alone := World.compile_of_panic id unused.healthy unused.uncompiled composed
      exact .inr ⟨text, congrArg Prod.fst alone,
        consistent.fails unused present (congrArg Prod.fst alone)⟩
    · have alone := World.compile_of_composed id unused.healthy unused.uncompiled composed
      exact .inl ⟨_, congrArg Prod.fst alone,
        consistent.shares unused present (congrArg Prod.fst alone)⟩
  · exact interleaving.programs.trans (gathered_programs start programs)

end Guarantee

def outputs (crowd : Crowd κ) : List (Outcome (Option Record)) :=
  crowd.clients.flatMap fun client => client.results.map (·.output)

/-- One client waits while the other builds: once the service answers, and once it panics. -/
theorem clients_share_one_build_of_rivals :
    let source := Schema.twins.record 1 (.record [("a", .int 7)])
    let programs : List (List Client.Call) := [[.map source none], [.compile, .map source none]]
    let calm := (World.initial Schema.twins false : World Closure).after
      [.newMapper "mapper" 1 1 none]
    let wild := (World.initial Schema.twins false : World Closure).after
      [.newTable "table", .newService "service" "table" [⟨"a", .panic, none⟩],
        .newMapper "mapper" 1 1 (some "service")]
    (∃ mapper crowd, calm.mappers[0]? = some mapper ∧ mapper.Fresh ∧
      Interleaving 0 (gathered calm programs)
        [0, 1, 0, 0, 0, 0, 0, 0, 1, 1, 1, 1, 0, 1, 1, 1, 1, 1] crowd ∧
      OneBuild calm 0 mapper programs crowd ∧
      crowd.outputs = [.ok (some source), .ok none, .ok (some source)]) ∧
    ∃ mapper crowd, wild.mappers[0]? = some mapper ∧ mapper.Fresh ∧
      Interleaving 0 (gathered wild programs) [0, 1, 0, 0, 0, 1, 1, 1] crowd ∧
      OneBuild wild 0 mapper programs crowd ∧
      crowd.outputs =
        [.panic "service panic on a", .error .lockPoisoned, .error .lockPoisoned] := by
  intro source programs calm wild
  have mapped : calm.mappers[0]? = some _ := rfl
  have refused : wild.mappers[0]? = some _ := rfl
  constructor
  · obtain ⟨crowd, played, same⟩ := Option.map_eq_some_iff.mp
      (show (play? 0 [0, 1, 0, 0, 0, 0, 0, 0, 1, 1, 1, 1, 0, 1, 1, 1, 1, 1]
          (gathered calm programs)).map outputs =
        some [.ok (some source), .ok none, .ok (some source)] by decide +kernel)
    have interleaving := Interleaving.start.plays played
    exact ⟨_, crowd, mapped, ⟨rfl, rfl, rfl⟩, interleaving,
      clients_share_one_build ⟨rfl, rfl, rfl⟩ mapped interleaving, same⟩
  · obtain ⟨crowd, played, same⟩ := Option.map_eq_some_iff.mp
      (show (play? 0 [0, 1, 0, 0, 0, 1, 1, 1] (gathered wild programs)).map outputs =
        some [.panic "service panic on a", .error .lockPoisoned, .error .lockPoisoned] by
          decide +kernel)
    have interleaving := Interleaving.start.plays played
    exact ⟨_, crowd, refused, ⟨rfl, rfl, rfl⟩, interleaving,
      clients_share_one_build ⟨rfl, rfl, rfl⟩ refused interleaving, same⟩

end Crowd

end RecordMapping
