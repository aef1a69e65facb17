import RecordMapping.Proofs.Clients

namespace RecordMapping

variable {κ : Type}

structure Mapper.Fresh (mapper : Mapper κ) : Prop where
  uncompiled : mapper.compiled = none
  uncounted : mapper.builds = 0
  healthy : mapper.poisoned = false

namespace Plan

theorem sources_of_candidates (dests : List (Property Record)) (ignored : Ignored)
    (sources : List (Property Record)) :
    (((sources.map (candidate dests ignored)).filterMap Candidate.question?).map
      (·.source)).Sublist (sources.map (·.signature)) := by
  induction sources with
  | nil => exact .slnil
  | cons source rest ih =>
    simp only [List.map_cons, candidate]
    cases target? dests ignored source with
    | none => exact .cons _ ih
    | some dest => exact .cons_cons _ ih

/-- A build asks at most once about each source member. -/
theorem questions_sublist (sources dests : List (Property Record)) (config : Config κ) :
    ((questions sources dests config).map (·.source)).Sublist (sources.map (·.signature)) :=
  (sources_of_candidates dests config.ignored _).trans (List.filter_sublist.map _)

end Plan

theorem World.asks_prefix (world : World κ) (mapper : Mapper κ) :
    world.asks mapper <+: Plan.questions (world.schema.properties mapper.source)
      (world.schema.properties mapper.dest) mapper.config :=
  (Plan.compose_built _ _ _ _ _).asked

/-- How far the first use of a mapper has come. -/
inductive FirstUse (κ : Type) where
  | fresh
  | composed (composition : Composition κ)
  | counted (plan : Plan κ)
  | published (plan : Plan κ)
  | poisoned (builder : Nat) (text : String)

inductive Client.Result.Ran [Closures κ] (schema : Schema) (plan : Plan κ) : Result κ → Prop where
  | finish {call : Call} {replies : List Reply} {result : Except MappingError (Option Record)}
    (after : (call.script schema plan).run.After replies (.done result)) :
    Ran schema plan ⟨call, .ok plan, replies, .ofExcept result⟩
  | collapse {call : Call} {replies : List Reply} {text : String}
    (after : (call.script schema plan).run.After replies (.panic text)) :
    Ran schema plan ⟨call, .ok plan, replies, .panic text⟩

namespace FirstUse

open Client

section Stages

variable (start : World κ) (id : MapperId) (mapper : Mapper κ)

/-- What the clients share at each stage. Before the build the session is as it was at the start,
and the lock is held until the build is published or has failed. -/
inductive Reached : FirstUse κ → Shared κ → Prop where
  | fresh {holder : Option Nat} : Reached .fresh ⟨start, holder, []⟩
  | composed {composition : Composition κ} {config : Config κ} {surroundings : Surroundings κ}
    {holder : Nat} (composed : start.composed mapper = (.ok composition, config, surroundings)) :
    Reached (.composed composition)
      ⟨start.revised id { mapper with config := config } surroundings, some holder,
        [start.asks mapper]⟩
  | counted {composition : Composition κ} {config : Config κ} {surroundings : Surroundings κ}
    {holder : Nat} (composed : start.composed mapper = (.ok composition, config, surroundings)) :
    Reached (.counted ({ mapper with config := config }.assembled id composition))
      ⟨start.revised id { mapper with config := config, builds := mapper.builds + 1 }
        (surroundings.report (.planCompiled mapper.source mapper.dest
          composition.assignments.length (mapper.builds + 1))), some holder, [start.asks mapper]⟩
  | published {plan : Plan κ} {shared : Shared κ} {later : Mapper κ}
    (alone : (start.compile id mapper).1 = .ok plan)
    (found : shared.world.mappers[id]? = some later) (cached : later.compiled = some plan)
    (counted : later.builds = 1) (healthy : later.poisoned = false)
    (schema : shared.world.schema = start.schema) (asked : shared.asked = [start.asks mapper]) :
    Reached (.published plan) shared
  | poisoned {builder : Nat} {text : String} {shared : Shared κ} {later : Mapper κ}
    (alone : (start.compile id mapper).1 = .panic text)
    (found : shared.world.mappers[id]? = some later) (uncached : later.compiled = none)
    (uncounted : later.builds = 0) (poisoned : later.poisoned = true)
    (asked : shared.asked = [start.asks mapper]) : Reached (.poisoned builder text) shared

variable [Closures κ]

def Admits (stage : FirstUse κ) : Phase κ → Prop
  | .idle | .waiting _ => True
  | .checking _ => stage = .fresh ∨ ∃ plan, stage = .published plan
  | .building _ => stage = .fresh
  | .counting _ composition => stage = .composed composition
  | .storing _ plan => stage = .counted plan
  | .leaving _ plan => stage = .published plan
  | .running call plan replies rest =>
    stage = .published plan ∧ (call.script start.schema plan).run.After replies rest

def Records (i : Nat) : FirstUse κ → List (Result κ) → Prop
  | .fresh, results | .composed _, results | .counted _, results => results = []
  | .published plan, results => ∀ result ∈ results, result.Ran start.schema plan
  | .poisoned builder text, results =>
    ∃ aborted turned, results = aborted ++ List.map .locked turned ∧
      if i = builder then ∃ call, aborted = [.failed (.panic text) call] else aborted = []

end Stages

/-- Client `i` takes the first use one stage further, or leaves it where it is. -/
inductive Advance (i : Nat) : FirstUse κ → FirstUse κ → Prop where
  | stay (stage : FirstUse κ) : Advance i stage stage
  | compose (composition : Composition κ) : Advance i .fresh (.composed composition)
  | count (composition : Composition κ) (plan : Plan κ) :
    Advance i (.composed composition) (.counted plan)
  | publish (plan : Plan κ) : Advance i (.counted plan) (.published plan)
  | poison (text : String) : Advance i .fresh (.poisoned i text)

section Step

variable {start : World κ} {id : MapperId} {mapper : Mapper κ} {stage next : FirstUse κ}
  {i j : Nat} {shared after : Shared κ}

theorem Reached.found (fresh : start.mappers[id]? = some mapper)
    (reached : stage.Reached start id mapper shared) :
    ∃ later, shared.world.mappers[id]? = some later := by
  cases reached with
  | fresh => exact ⟨mapper, fresh⟩
  | composed | counted => exact ⟨_, World.revised_mapper fresh _ _⟩
  | published _ found | poisoned _ found => exact ⟨_, found⟩

/-- A published plan outlasts everything that keeps it. -/
theorem Reached.kept {plan : Plan κ}
    (reached : (FirstUse.published plan).Reached start id mapper shared)
    (keeps : shared.world.Keeps id after.world) (asked : after.asked = shared.asked) :
    (FirstUse.published plan).Reached start id mapper after := by
  cases reached with
  | published alone there cached counted healthy schema asked' =>
    obtain ⟨later, found, ⟨compiled, builds⟩, poisoned⟩ := keeps.mapper _ there
    exact .published alone found (compiled.trans cached) (builds.trans counted)
      (poisoned.trans healthy) (keeps.schema.trans schema) (asked.trans asked')

theorem Reached.asked (reached : stage.Reached start id mapper shared) :
    shared.asked = [] ∨ shared.asked = [start.asks mapper] := by
  cases reached with
  | fresh => exact .inl rfl
  | composed | counted => exact .inr rfl
  | published _ _ _ _ _ _ asked | poisoned _ _ _ _ _ asked => exact .inr asked

theorem Reached.alone {plan : Plan κ}
    (reached : (FirstUse.published plan).Reached start id mapper shared) :
    (start.compile id mapper).1 = .ok plan := by
  cases reached
  assumption

theorem Reached.alone_panics {builder : Nat} {text : String}
    (reached : (FirstUse.poisoned builder text).Reached start id mapper shared) :
    (start.compile id mapper).1 = .panic text := by
  cases reached
  assumption

theorem Reached.cached {plan : Plan κ} (unused : mapper.Fresh)
    (fresh : start.mappers[id]? = some mapper) (reached : stage.Reached start id mapper shared)
    (alone : (start.compile id mapper).1 = .ok plan) :
    ∃ later, shared.world.mappers[id]? = some later ∧ later.builds ≤ 1 ∧
      later.poisoned = false ∧ ∀ other, later.compiled = some other → other = plan := by
  cases reached with
  | fresh => exact ⟨mapper, fresh, by simp [unused.uncounted], unused.healthy,
      by simp [unused.uncompiled]⟩
  | composed | counted =>
    exact ⟨_, World.revised_mapper fresh _ _, by simp [unused.uncounted], unused.healthy,
      by simp [unused.uncompiled]⟩
  | published alone' found cached counted healthy =>
    obtain rfl := Outcome.ok.inj (alone'.symm.trans alone)
    exact ⟨_, found, Nat.le_of_eq counted, healthy, fun other cached' =>
      Option.some.inj (cached'.symm.trans cached)⟩
  | poisoned panics => simp [alone] at panics

theorem Reached.unpublished {text : String} (unused : mapper.Fresh)
    (fresh : start.mappers[id]? = some mapper) (reached : stage.Reached start id mapper shared)
    (alone : (start.compile id mapper).1 = .panic text) :
    ∃ later, shared.world.mappers[id]? = some later ∧ later.compiled = none ∧
      later.builds = 0 := by
  cases reached with
  | fresh => exact ⟨mapper, fresh, unused.uncompiled, unused.uncounted⟩
  | composed composed | counted composed =>
    rw [World.compile_of_composed id unused.healthy unused.uncompiled composed] at alone
    simp at alone
  | published succeeds => simp [alone] at succeeds
  | poisoned _ found uncached uncounted => exact ⟨_, found, uncached, uncounted⟩

variable [Closures κ]

/-- A client outside the lock does not notice that the first use goes on. -/
theorem Advance.admits (advance : Advance i stage next) {phase : Phase κ}
    (outside : phase.critical = false) (admits : stage.Admits start phase) :
    next.Admits start phase := by
  cases advance with
  | stay => exact admits
  | _ => cases phase <;> simp_all [Admits, Phase.critical]

theorem Advance.records (advance : Advance i stage next) (other : j ≠ i)
    {results : List (Result κ)} (records : stage.Records start j results) :
    next.Records start j results := by
  cases advance with
  | stay => exact records
  | compose | count => exact records
  | publish =>
    obtain rfl : results = [] := records
    simp [Records]
  | poison =>
    obtain rfl : results = [] := records
    simp [Records, other]

/-- Results are there only once the build is over: they come of its plan, or of its failure. -/
theorem of_records {results : List (Result κ)} {result : Result κ}
    (records : stage.Records start i results) (listed : result ∈ results) :
    (∃ plan, stage = .published plan ∧ result.Ran start.schema plan) ∨
      ∃ builder text failure call, stage = .poisoned builder text ∧
        result = .failed failure call := by
  cases stage with
  | fresh | composed | counted =>
    obtain rfl : results = [] := records
    simp at listed
  | published plan => exact .inl ⟨plan, rfl, records result listed⟩
  | poisoned builder text =>
    refine .inr ⟨builder, text, ?_⟩
    obtain ⟨aborted, turned, rfl, told⟩ := records
    rw [List.mem_append, List.mem_map] at listed
    obtain early | ⟨call, _, rfl⟩ := listed
    · split at told
      next =>
        obtain ⟨call, rfl⟩ := told
        exact ⟨_, call, rfl, List.mem_singleton.mp early⟩
      next => simp [told] at early
    · exact ⟨.error .lockPoisoned, call, rfl, rfl⟩

end Step

section Move

variable [Closures κ]

/-- What a move of client `i` comes to. Only the holder of the lock takes the first use further. -/
structure Carries (start : World κ) (id : MapperId) (mapper : Mapper κ) (i : Nat)
    (stage next : FirstUse κ) (shared after : Shared κ) (phase : Phase κ)
    (result : Option (Result κ)) : Prop where
  advance : Advance i stage next
  inside : next = stage ∨ shared.holder = some i
  reached : next.Reached start id mapper after
  admits : next.Admits start phase
  records : ∀ results, stage.Records start i results →
    next.Records start i (results ++ result.toList)

variable {start : World κ} {id : MapperId} {mapper found : Mapper κ} {stage : FirstUse κ} {i : Nat}
  {shared after : Shared κ} {phase other : Phase κ} {result : Option (Result κ)} {call : Call}
  {plan : Plan κ}

theorem Carries.stay (reached : stage.Reached start id mapper after)
    (admits : stage.Admits start other) :
    Carries start id mapper i stage stage shared after other none where
  advance := .stay stage
  inside := .inl rfl
  reached := reached
  admits := admits
  records _ records := by simpa using records

theorem Carries.refuse (unused : mapper.Fresh) (present : start.mappers[id]? = some mapper)
    (reached : stage.Reached start id mapper shared) (free : shared.holder = none)
    (there : shared.world.mappers[id]? = some found) (poisoned : found.poisoned = true) :
    Carries start id mapper i stage stage shared shared .idle (some (.locked call)) := by
  cases reached with
  | fresh =>
    obtain rfl : mapper = found := Option.some.inj (present.symm.trans there)
    simp [unused.healthy] at poisoned
  | composed | counted => simp at free
  | published _ there' _ _ healthy =>
    obtain rfl := Option.some.inj (there'.symm.trans there)
    simp [healthy] at poisoned
  | poisoned alone there' uncached uncounted locked asked =>
    refine ⟨.stay _, .inl rfl, .poisoned alone there' uncached uncounted locked asked, trivial,
      fun results records => ?_⟩
    obtain ⟨aborted, turned, rfl, told⟩ := records
    exact ⟨aborted, turned ++ [call], by simp, told⟩

theorem Carries.acquire (reached : stage.Reached start id mapper shared)
    (free : shared.holder = none) (there : shared.world.mappers[id]? = some found)
    (healthy : found.poisoned = false) :
    Carries start id mapper i stage stage shared { shared with holder := some i }
      (.checking call) none := by
  cases reached with
  | fresh => exact .stay .fresh (.inl rfl)
  | composed | counted => simp at free
  | published alone there' cached counted healthy' schema asked =>
    exact .stay (.published alone there' cached counted healthy' schema asked) (.inr ⟨_, rfl⟩)
  | poisoned _ there' _ _ poisoned =>
    obtain rfl := Option.some.inj (there'.symm.trans there)
    simp [healthy] at poisoned

theorem Carries.reuse (unused : mapper.Fresh) (present : start.mappers[id]? = some mapper)
    (reached : stage.Reached start id mapper shared) (admits : stage.Admits start (.checking call))
    (there : shared.world.mappers[id]? = some found) (cached : found.compiled = some plan) :
    Carries start id mapper i stage stage shared shared (.leaving call plan) none := by
  refine .stay reached ?_
  obtain rfl | ⟨plan', rfl⟩ := admits
  · cases reached
    obtain rfl : mapper = found := Option.some.inj (present.symm.trans there)
    simp [unused.uncompiled] at cached
  · cases reached with
    | published _ there' cached' =>
      obtain rfl := Option.some.inj (there'.symm.trans there)
      obtain rfl : plan' = plan := Option.some.inj (cached'.symm.trans cached)
      rfl

theorem Carries.miss (reached : stage.Reached start id mapper shared)
    (admits : stage.Admits start (.checking call))
    (there : shared.world.mappers[id]? = some found) (uncached : found.compiled = none) :
    Carries start id mapper i stage stage shared shared (.building call) none := by
  refine .stay reached ?_
  obtain rfl | ⟨plan', rfl⟩ := admits
  · rfl
  · cases reached with
    | published _ there' cached' =>
      obtain rfl := Option.some.inj (there'.symm.trans there)
      simp [uncached] at cached'

theorem Carries.build {composition : Composition κ} {config : Config κ}
    {surroundings : Surroundings κ} (present : start.mappers[id]? = some mapper)
    (reached : FirstUse.fresh.Reached start id mapper shared) (inside : shared.holder = some i)
    (there : shared.world.mappers[id]? = some found)
    (composed : shared.world.composed found = (.ok composition, config, surroundings)) :
    Carries start id mapper i .fresh (.composed composition) shared
      { shared with
        world := shared.world.revised id { found with config := config } surroundings
        asked := shared.asked ++ [shared.world.asks found] }
      (.counting call composition) none := by
  cases reached
  obtain rfl : mapper = found := Option.some.inj (present.symm.trans there)
  obtain rfl := inside
  exact ⟨.compose composition, .inr rfl, .composed composed, rfl, by simp [Records]⟩

theorem Carries.abort {text : String} {config : Config κ} {surroundings : Surroundings κ}
    (unused : mapper.Fresh) (present : start.mappers[id]? = some mapper)
    (reached : FirstUse.fresh.Reached start id mapper shared) (inside : shared.holder = some i)
    (there : shared.world.mappers[id]? = some found)
    (composed : shared.world.composed found = (.error text, config, surroundings)) :
    Carries start id mapper i .fresh (.poisoned i text) shared
      { world :=
          shared.world.revised id { found with config := config, poisoned := true } surroundings
        holder := none
        asked := shared.asked ++ [shared.world.asks found] }
      .idle (some (.failed (.panic text) call)) := by
  cases reached
  obtain rfl : mapper = found := Option.some.inj (present.symm.trans there)
  have alone := World.compile_of_panic id unused.healthy unused.uncompiled composed
  refine ⟨.poison text, .inr inside, ?_, trivial, ?_⟩
  · exact .poisoned (congrArg Prod.fst alone) (World.revised_mapper present _ _) unused.uncompiled
      unused.uncounted rfl rfl
  · rintro results rfl
    refine ⟨[.failed (.panic text) call], [], rfl, ?_⟩
    rw [if_pos rfl]
    exact ⟨call, rfl⟩

theorem Carries.count {composition : Composition κ} (present : start.mappers[id]? = some mapper)
    (reached : (FirstUse.composed composition).Reached start id mapper shared)
    (inside : shared.holder = some i) (there : shared.world.mappers[id]? = some found) :
    Carries start id mapper i (.composed composition)
      (.counted (found.assembled id composition)) shared
      { shared with
        world := shared.world.revised id { found with builds := found.builds + 1 }
          (shared.world.surroundings.report (.planCompiled found.source found.dest
            composition.assignments.length (found.builds + 1))) }
      (.storing call (found.assembled id composition)) none := by
  cases reached with
  | @composed _ config surroundings holder composed =>
    obtain rfl : { mapper with config := config } = found :=
      Option.some.inj ((World.revised_mapper present _ _).symm.trans there)
    refine ⟨.count composition _, .inr inside, ?_, rfl, by simp [Records]⟩
    simp only [World.revised_revised]
    exact .counted composed

theorem Carries.store (unused : mapper.Fresh) (present : start.mappers[id]? = some mapper)
    (reached : (FirstUse.counted plan).Reached start id mapper shared)
    (inside : shared.holder = some i) (there : shared.world.mappers[id]? = some found) :
    Carries start id mapper i (.counted plan) (.published plan) shared
      { shared with
        world := shared.world.revised id { found with compiled := some plan }
          shared.world.surroundings }
      (.leaving call plan) none := by
  have sole : found.builds = 1 ∧ found.poisoned = false := by
    cases reached
    obtain rfl := Option.some.inj ((World.revised_mapper present _ _).symm.trans there)
    exact ⟨by simp [unused.uncounted], unused.healthy⟩
  cases reached with
  | counted composed =>
    have alone := World.compile_of_composed id unused.healthy unused.uncompiled composed
    refine ⟨.publish _, .inr inside, ?_, rfl, ?_⟩
    · exact .published (congrArg Prod.fst alone) (World.revised_mapper there _ _) rfl sole.1 sole.2
        rfl rfl
    · rintro results rfl
      simp [Records]

theorem Carries.record {ran : Result κ}
    (reached : (FirstUse.published plan).Reached start id mapper shared)
    (genuine : ran.Ran start.schema plan) :
    Carries start id mapper i (.published plan) (.published plan) shared shared .idle
      (some ran) where
  advance := .stay _
  inside := .inl rfl
  reached := reached
  admits := trivial
  records _ records := by simpa [Records, or_imp, forall_and] using ⟨records, genuine⟩

/-- Every move of a client takes the first use a stage further, or leaves it where it is. -/
theorem carries_of_move (unused : mapper.Fresh) (present : start.mappers[id]? = some mapper)
    (reached : stage.Reached start id mapper shared) (admits : stage.Admits start phase)
    (mine : phase.critical = true ↔ shared.holder = some i)
    (move : phase.Move id i shared after other result) :
    ∃ next, Carries start id mapper i stage next shared after other result := by
  cases move with
  | refuse free there poisoned =>
    exact ⟨_, .refuse unused present reached free there poisoned⟩
  | acquire free there healthy => exact ⟨_, .acquire reached free there healthy⟩
  | reuse there cached => exact ⟨_, .reuse unused present reached admits there cached⟩
  | miss there uncached => exact ⟨_, .miss reached admits there uncached⟩
  | build there composed =>
    obtain rfl := admits
    exact ⟨_, .build present reached (mine.mp rfl) there composed⟩
  | abort there composed =>
    obtain rfl := admits
    exact ⟨_, .abort unused present reached (mine.mp rfl) there composed⟩
  | count there =>
    obtain rfl := admits
    exact ⟨_, .count present reached (mine.mp rfl) there⟩
  | store there =>
    obtain rfl := admits
    exact ⟨_, .store unused present reached (mine.mp rfl) there⟩
  | release =>
    obtain rfl := admits
    have schema : shared.world.schema = start.schema := by
      cases reached
      assumption
    exact ⟨_, .stay (reached.kept (.of_mappers rfl rfl) rfl) ⟨rfl, schema ▸ .start⟩⟩
  | log =>
    obtain ⟨rfl, ran⟩ := admits
    exact ⟨_, .stay (reached.kept (.of_mappers rfl rfl) rfl) ⟨rfl, ran.log⟩⟩
  | ask keeps reply =>
    obtain ⟨rfl, ran⟩ := admits
    exact ⟨_, .stay (reached.kept keeps rfl) ⟨rfl, ran.call reply⟩⟩
  | finish =>
    obtain ⟨rfl, ran⟩ := admits
    exact ⟨_, .record reached (.finish ran)⟩
  | collapse =>
    obtain ⟨rfl, ran⟩ := admits
    exact ⟨_, .record reached (.collapse ran)⟩

end Move

end FirstUse

theorem List.getElem?_set_cases {α : Type} {xs : List α} {i j : Nat} {x y : α}
    (found : (xs.set i x)[j]? = some y) : j = i ∧ y = x ∨ j ≠ i ∧ xs[j]? = some y := by
  by_cases same : j = i
  · subst same
    rw [List.getElem?_set_self'] at found
    grind
  · rw [List.getElem?_set_ne (Ne.symm same)] at found
    exact .inr ⟨same, found⟩

namespace Crowd

theorem gathered_programs (world : World κ) (programs : List (List Client.Call)) :
    (gathered world programs).clients.map Client.program = programs := by
  have same : Client.program ∘ (fun calls => (⟨calls, .idle, []⟩ : Client κ)) = id := rfl
  simp [gathered, same]

section Consistent

variable [Closures κ] (start : World κ) (id : MapperId) (mapper : Mapper κ)

/-- The clients and what they share agree on the stage of the first use. -/
structure Consistent (stage : FirstUse κ) (crowd : Crowd κ) : Prop where
  reached : stage.Reached start id mapper crowd.shared
  lock : ∀ (i : Nat) (client : Client κ), crowd.clients[i]? = some client →
    (client.phase.critical = true ↔ crowd.shared.holder = some i)
  holder : ∀ i, crowd.shared.holder = some i → i < crowd.clients.length
  builder : ∀ i text, stage = .poisoned i text → i < crowd.clients.length
  admits : ∀ (i : Nat) (client : Client κ), crowd.clients[i]? = some client →
    stage.Admits start client.phase
  records : ∀ (i : Nat) (client : Client κ), crowd.clients[i]? = some client →
    stage.Records start i client.results

end Consistent

section Run

variable [Closures κ] {start : World κ} {id : MapperId} {mapper : Mapper κ}

theorem Consistent.gathered (programs : List (List Client.Call)) :
    (gathered start programs).Consistent start id mapper .fresh where
  reached := .fresh
  lock i client there := by
    obtain ⟨calls, -, rfl⟩ := by simpa [Crowd.gathered] using there
    simp [Crowd.gathered, Client.Phase.critical]
  holder i held := by simp [Crowd.gathered] at held
  builder i text poisoned := by simp at poisoned
  admits i client there := by
    obtain ⟨calls, -, rfl⟩ := by simpa [Crowd.gathered] using there
    trivial
  records i client there := by
    obtain ⟨calls, -, rfl⟩ := by simpa [Crowd.gathered] using there
    rfl

theorem Consistent.begin {stage : FirstUse κ} {crowd : Crowd κ} {i : Nat} {call : Client.Call}
    {calls : List Client.Call} {results : List (Client.Result κ)}
    (consistent : crowd.Consistent start id mapper stage)
    (there : crowd.clients[i]? = some ⟨call :: calls, .idle, results⟩) :
    Consistent start id mapper stage
      ⟨crowd.shared, crowd.clients.set i ⟨calls, .waiting call, results⟩⟩ where
  reached := consistent.reached
  lock j client there' := by
    obtain ⟨rfl, rfl⟩ | ⟨-, there'⟩ := List.getElem?_set_cases there'
    · have idle := consistent.lock _ _ there
      exact idle
    · exact consistent.lock _ _ there'
  holder := by simpa using consistent.holder
  builder := by simpa using consistent.builder
  admits j client there' := by
    obtain ⟨rfl, rfl⟩ | ⟨-, there'⟩ := List.getElem?_set_cases there'
    · trivial
    · exact consistent.admits _ _ there'
  records j client there' := by
    obtain ⟨rfl, rfl⟩ | ⟨-, there'⟩ := List.getElem?_set_cases there'
    · have before := consistent.records _ _ there
      exact before
    · exact consistent.records _ _ there'

theorem Consistent.proceed {stage : FirstUse κ} {crowd : Crowd κ} {i : Nat}
    {phase next : Client.Phase κ} {after : Shared κ} {result : Option (Client.Result κ)}
    {calls : List Client.Call} {results : List (Client.Result κ)} (unused : mapper.Fresh)
    (present : start.mappers[id]? = some mapper)
    (consistent : crowd.Consistent start id mapper stage)
    (there : crowd.clients[i]? = some ⟨calls, phase, results⟩)
    (move : phase.Move id i crowd.shared after next result) :
    ∃ later, Consistent start id mapper later
      ⟨after, crowd.clients.set i ⟨calls, next, results ++ result.toList⟩⟩ := by
  have mine := consistent.lock _ _ there
  obtain ⟨later, carries⟩ := FirstUse.carries_of_move unused present consistent.reached
    (consistent.admits _ _ there) mine move
  obtain ⟨own, others⟩ := move.lock mine
  have bound : i < crowd.clients.length := (List.getElem?_eq_some_iff.mp there).1
  refine ⟨later, carries.reached, ?_, ?_, ?_, ?_, ?_⟩
  · intro j client there'
    obtain ⟨rfl, rfl⟩ | ⟨other, there'⟩ := List.getElem?_set_cases there'
    · exact own
    · exact (consistent.lock _ _ there').trans (others j other).symm
  · intro j held
    rw [List.length_set]
    by_cases other : j = i
    · exact other ▸ bound
    · exact consistent.holder j ((others j other).mp held)
  · rintro j text rfl
    rw [List.length_set]
    generalize stage = before at consistent carries
    cases carries.advance with
    | stay => exact consistent.builder j text rfl
    | poison => exact bound
  · intro j client there'
    obtain ⟨rfl, rfl⟩ | ⟨other, there'⟩ := List.getElem?_set_cases there'
    · exact carries.admits
    · have admits := consistent.admits _ _ there'
      obtain rfl | inside := carries.inside
      · exact admits
      · -- The lock is held by client `i`, so the others are outside.
        have outside : client.phase.critical = false := by
          have theirs := consistent.lock _ _ there'
          simpa [inside, Ne.symm other] using theirs
        exact carries.advance.admits outside admits
  · intro j client there'
    obtain ⟨rfl, rfl⟩ | ⟨other, there'⟩ := List.getElem?_set_cases there'
    · exact carries.records _ (consistent.records _ _ there)
    · exact carries.advance.records other (consistent.records _ _ there')

theorem Consistent.step {stage : FirstUse κ} {crowd later : Crowd κ} {i : Nat}
    (unused : mapper.Fresh) (present : start.mappers[id]? = some mapper)
    (consistent : crowd.Consistent start id mapper stage) (step : Step id i crowd later) :
    ∃ next, later.Consistent start id mapper next := by
  obtain ⟨there, move⟩ := step
  cases move with
  | begin => exact ⟨stage, consistent.begin there⟩
  | proceed move => exact consistent.proceed unused present there move

theorem Interleaving.consistent {programs : List (List Client.Call)} {schedule : List Nat}
    {crowd : Crowd κ} (unused : mapper.Fresh) (present : start.mappers[id]? = some mapper)
    (interleaving : Interleaving id (gathered start programs) schedule crowd) :
    ∃ stage, crowd.Consistent start id mapper stage := by
  induction interleaving with
  | start => exact ⟨.fresh, .gathered programs⟩
  | step _ step ih =>
    obtain ⟨stage, consistent⟩ := ih
    exact consistent.step unused present step

theorem Interleaving.programs {first crowd : Crowd κ} {schedule : List Nat}
    (interleaving : Interleaving id first schedule crowd) :
    crowd.clients.map Client.program = first.clients.map Client.program := by
  induction interleaving with
  | start => rfl
  | step _ step ih => exact step.programs.trans ih

/-- Clients come to a halt only when all their calls are over. -/
theorem Consistent.halts {stage : FirstUse κ} {crowd : Crowd κ}
    (present : start.mappers[id]? = some mapper)
    (consistent : crowd.Consistent start id mapper stage)
    (halted : ∀ i later, ¬ Step id i crowd later) :
    ∀ client ∈ crowd.clients, client.phase = .idle ∧ client.calls = [] := by
  obtain ⟨found, there⟩ := consistent.reached.found present
  have stuck (i : Nat) (client : Client κ) (placed : crowd.clients[i]? = some client)
      (turn : client.phase.critical = true ∨ crowd.shared.holder = none) :
      client.phase = .idle := by
    refine Classical.byContradiction fun busy => ?_
    obtain ⟨after, next, result, move⟩ := Client.Phase.moves (i := i) there busy turn
    exact halted i _ (.move placed (.proceed move))
  have free : crowd.shared.holder = none := by
    cases held : crowd.shared.holder with
    | none => rfl
    | some i =>
      have placed := List.getElem?_eq_getElem (consistent.holder i held)
      have inside := (consistent.lock i _ placed).mpr held
      have idle := stuck i _ placed (.inl inside)
      simp [idle, Client.Phase.critical] at inside
  intro client mem
  obtain ⟨i, placed⟩ := List.mem_iff_getElem?.mp mem
  have idle := stuck i client placed (.inr free)
  obtain ⟨calls, phase, results⟩ := client
  obtain rfl : phase = .idle := idle
  cases calls with
  | nil => exact ⟨rfl, rfl⟩
  | cons call calls => exact absurd (.move placed .begin) (halted i _)

end Run

end Crowd

end RecordMapping
