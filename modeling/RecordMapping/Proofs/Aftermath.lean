import RecordMapping.Proofs.Conduct
import RecordMapping.Proofs.Clients
import RecordMapping.Proofs.Frozen
import RecordMapping.Proofs.Grounding
import RecordMapping.Proofs.Registration

namespace RecordMapping

variable {κ α β : Type}

inductive Request.Maps : Request κ → Prop where
  | map (id : MapperId) (source : Value) (dest : Option Value) :
    Maps (.mapper id (.map source dest))
  | erased (id : MapperId) (type : ValueType) (source : Value) :
    Maps (.mapper id (.mapErased type source))
  | nested (id : MapperId) (input : Erased) : Maps (.convert id input)
  | dispatched (registry : Nat) (source dest : ValueType) (value : Value) :
    Maps (.registry registry (.map source dest value))
  | dispatchedErased (registry : Nat) (source dest : ValueType) (value : Value) :
    Maps (.registry registry (.mapErased source dest value))
  | plan (name : String) (source : Value) (dest : Option Value) :
    Maps (.operation (.planRun name source dest))

namespace Moment

def Maps (moment : Moment κ) : Prop :=
  ∃ core, moment.world.Addresses moment.request core ∧ core.Maps

/-- The moment runs the plan: that of the mapper that acts, or one that a handle names. -/
def Runs (moment : Moment κ) (plan : Plan κ) : Prop :=
  (∃ id mapper, moment.world.action? moment.held moment.request = some (id, .compile) ∧
      moment.world.mappers[id]? = some mapper ∧
      (moment.world.compile id mapper).1 = .ok plan) ∨
    ∃ name source dest, moment.request = .operation (.planRun name source dest) ∧
      moment.world.handles.get? name = some (.plan plan)

/-- The moment runs the custom mapper: a registry has it for the types that are asked for. -/
def Employs (moment : Moment κ) (custom : CustomMapper κ) : Prop :=
  ∃ registry source dest value,
    (moment.world.Addresses moment.request (.registry registry (.map source dest value)) ∨
      moment.world.Addresses moment.request (.registry registry (.mapErased source dest value))) ∧
    ((moment.world.registry registry).lookup (source, dest)).1 = .ok (.custom custom)

/-- The closures of the plans and the custom mappers that the moment runs ask the session for
nothing. -/
structure Silent [Closures κ] (moment : Moment κ) : Prop where
  plans : ∀ plan, moment.Runs plan → ∀ closure ∈ plan.closures, Closures.Silent closure
  customs : ∀ custom, moment.Employs custom → Closures.Silent custom.compute

def Unbuilt (moment : Moment κ) : Prop := ∀ id, moment.composition? id = none

end Moment

/-- The mapper need not build anything before it maps, or cannot. -/
def Mapper.Settled (mapper : Mapper κ) : Prop :=
  mapper.compiled.isSome = true ∨ mapper.poisoned = true

namespace World

theorem Addresses.action? {world : World κ} {request core : Request κ}
    (addresses : world.Addresses request core) (held : List Hold) :
    world.action? held request = world.action? held core := by
  cases addresses with
  | itself => rfl
  | mapper call named found => simp only [World.action?, operationAction?, named]
  | erased type source named found => simp only [World.action?, operationAction?, named]
  | registry call named => simp only [World.action?, operationAction?, named]

theorem mappers_of_clearLog {world later : World κ} (same : later.clearLog = world.clearLog) :
    later.mappers = world.mappers := by
  simpa [clearLog] using congrArg World.mappers same

/-- What a mapping does to the session at once: the mapper at which it aims is compiled, or nothing
happens that is not in the log. -/
inductive Compiles (world : World κ) : Option (MapperId × Mapper.Action κ) → World κ → Prop where
  | nothing {later : World κ} (same : later.clearLog = world.clearLog) : Compiles world none later
  | compile {id : MapperId} {mapper : Mapper κ} (found : world.mappers[id]? = some mapper) :
    Compiles world (some (id, .compile)) (world.compile id mapper).2

section Serve

variable [Closures κ] {world : World κ} {held : List Hold} {request core : Request κ}

theorem runErased_compiles {id : MapperId} {mapper : Mapper κ}
    (found : world.mappers[id]? = some mapper) (input : Erased) :
    world.Compiles (world.erasedAction? id input) (world.runErased id mapper input).2 := by
  simp only [erasedAction?, found, Mapper.erasedAction?]
  by_cases fits : input.type = .record mapper.source
  · rw [world.runErased_of_match id fits, if_pos fits]
    dsimp only
    rw [runMapper_world]
    exact .compile found
  · rw [world.runErased_of_mismatch id fits, if_neg fits]
    exact .nothing rfl

theorem dispatch_compiles (world : World κ) (registry : Nat) (dest : ValueType) (input : Erased) :
    world.Compiles (world.dispatchAction? registry dest input)
      (world.dispatch registry dest input).2 := by
  unfold dispatchAction? dispatch
  obtain ⟨outcome, rest⟩ := (world.registry registry).lookup (input.type, dest)
  rcases outcome with (⟨id, source, dest⟩ | double | custom) | cause | text
  · cases found : world.mappers[id]? with
    | none =>
      simp only [erasedAction?, found]
      exact .nothing rfl
    | some mapper => simpa only [found] using runErased_compiles found input
  · exact .nothing rfl
  · exact .nothing rfl
  · exact .nothing rfl
  · exact .nothing rfl

theorem serve_compiles (world : World κ) (held : List Hold) (maps : core.Maps) :
    world.Compiles (world.action? held core) (world.serve held core).2 := by
  cases maps with
  | map id source dest =>
    simp only [serve, action?, mapperAction?]
    cases found : world.mappers[id]? with
    | none => exact .nothing rfl
    | some mapper =>
      simp only [callMapper, runMapper_world]
      exact .compile found
  | erased id type source =>
    simp only [serve, action?, mapperAction?]
    cases found : world.mappers[id]? with
    | none => exact .nothing rfl
    | some mapper =>
      have compiles := runErased_compiles found (world.schema.erase type source)
      rwa [erasedAction?, found] at compiles
  | nested id input =>
    simp only [serve, action?]
    cases lives : world.alive held id with
    | true =>
      cases found : world.mappers[id]? with
      | none =>
        simp only [erasedAction?, found]
        exact .nothing rfl
      | some mapper => exact runErased_compiles found input
    | false =>
      cases found : world.mappers[id]? with
      | none => exact .nothing rfl
      | some mapper => exact .nothing rfl
  | dispatched registry source dest value | dispatchedErased registry source dest value =>
    exact dispatch_compiles world registry dest (world.schema.erase source value)
  | plan name source dest =>
    simp only [serve, perform]
    cases world.handles.get? name with
    | none => exact .nothing rfl
    | some handle => cases handle <;> exact .nothing rfl

theorem Compiles.of_maps (maps : Moment.Maps ⟨world, held, request⟩) :
    world.Compiles (world.action? held request) (world.serve held request).2 := by
  obtain ⟨core, addresses, maps⟩ := maps
  rw [addresses.action?, addresses.serve]
  exact serve_compiles world held maps

end Serve

section Settled

variable {world later : World κ} {aim : Option (MapperId × Mapper.Action κ)} {id : MapperId}
  {mapper : Mapper κ} {held : List Hold} {request : Request κ}

/-- A settled mapper has nothing to build. -/
theorem compile_of_settled (found : world.mappers[id]? = some mapper) (settled : mapper.Settled) :
    (world.compile id mapper).2 = world := by
  cases poisoned : mapper.poisoned with
  | true => rw [compile_of_poisoned found poisoned]
  | false =>
    have cached : mapper.compiled.isSome = true := settled.resolve_right (by simp [poisoned])
    obtain ⟨plan, cached⟩ := Option.isSome_iff_exists.mp cached
    rw [compile_of_cached found poisoned cached]

/-- A mapper that is settled is what it was. -/
theorem Compiles.mapper_eq (compiles : world.Compiles aim later)
    (found : world.mappers[id]? = some mapper) (settled : mapper.Settled) :
    later.mappers[id]? = some mapper := by
  cases compiles with
  | nothing same => rw [mappers_of_clearLog same, found]
  | @compile other target there =>
    by_cases here : other = id
    · subst here
      obtain rfl : target = mapper := Option.some.inj (there.symm.trans found)
      rw [compile_of_settled there settled, there]
    · exact (List.getElem?_set_ne here).trans found

theorem settled_of_unbuilt (unbuilt : Moment.Unbuilt ⟨world, held, request⟩)
    (found : world.mappers[id]? = some mapper)
    (aimed : world.action? held request = some (id, .compile)) : mapper.Settled := by
  have absent := mt (composition?_isSome_iff found held request).mpr (by simp [unbuilt id])
  cases poisoned : mapper.poisoned with
  | true => exact .inr poisoned
  | false =>
    refine .inl (Option.isSome_iff_ne_none.mpr fun uncached => ?_)
    exact absent ⟨poisoned, .inl ⟨aimed, uncached⟩⟩

/-- Where nothing is built nothing but the log is changed. -/
theorem Compiles.clearLog_eq (compiles : world.Compiles (world.action? held request) later)
    (unbuilt : Moment.Unbuilt ⟨world, held, request⟩) : later.clearLog = world.clearLog := by
  generalize aimed : world.action? held request = aim at compiles
  cases compiles with
  | nothing same => exact same
  | compile found => rw [compile_of_settled found (settled_of_unbuilt unbuilt found aimed)]

/-- A mapping builds nothing if the mapper at which it aims is settled. -/
theorem unbuilt_of_aim (aimed : world.action? held request = some (id, .compile))
    (found : world.mappers[id]? = some mapper) (settled : mapper.Settled) :
    Moment.Unbuilt ⟨world, held, request⟩ := by
  intro other
  refine Option.not_isSome_iff_eq_none.mp fun building => ?_
  obtain ⟨composed, built⟩ := Option.isSome_iff_exists.mp building
  obtain ⟨target, there⟩ := Moment.found_of_composition built
  have facts := (composition?_isSome_iff there held request).mp building
  rw [aimed] at facts
  obtain ⟨healthy, ⟨same, uncached⟩ | forced⟩ := facts
  · obtain rfl : id = other := (Prod.mk.inj (Option.some.inj same)).1
    obtain rfl : target = mapper := Option.some.inj (there.symm.trans found)
    simp [Mapper.Settled, uncached, healthy] at settled
  · simp at forced

/-- Nothing is built where all mappers are settled. -/
theorem Compiles.unbuilt (compiles : world.Compiles (world.action? held request) later)
    (settled : ∀ mapper ∈ world.mappers, mapper.Settled) :
    Moment.Unbuilt ⟨world, held, request⟩ := by
  generalize aimed : world.action? held request = aim at compiles
  cases compiles with
  | nothing =>
    intro id
    exact Moment.composition?_of_no_action (by simp [Moment.action?, aimed])
  | compile found => exact unbuilt_of_aim aimed found (settled _ (List.mem_of_getElem? found))

end Settled

section Histories

variable [Closures κ] {world last : World κ} {past : List (Moment κ)}

/-- Mappings leave a settled mapper what it was. -/
theorem History.mapper_eq (history : History world past last) (maps : ∀ moment ∈ past, moment.Maps)
    {id : MapperId} {mapper : Mapper κ} (found : world.mappers[id]? = some mapper)
    (settled : mapper.Settled) : last.mappers[id]? = some mapper := by
  induction history with
  | start => exact found
  | write entry _ ih | clear _ ih => exact ih maps
  | serve held request _ ih =>
    obtain ⟨before, now⟩ := List.forall_mem_append.mp maps
    exact (Compiles.of_maps (now _ (List.mem_singleton_self _))).mapper_eq (ih before) settled

/-- Mappings that build nothing leave nothing but what is in the log. -/
theorem History.clearLog_eq (history : History world past last)
    (maps : ∀ moment ∈ past, moment.Maps) (unbuilt : ∀ moment ∈ past, moment.Unbuilt) :
    last.clearLog = world.clearLog := by
  induction history with
  | start => rfl
  | write entry _ ih | clear _ ih => exact ih maps unbuilt
  | serve held request _ ih =>
    obtain ⟨before, now⟩ := List.forall_mem_append.mp maps
    obtain ⟨unbuilt, quiet⟩ := List.forall_mem_append.mp unbuilt
    have same := (Compiles.of_maps (now _ (List.mem_singleton_self _))).clearLog_eq
      (quiet _ (List.mem_singleton_self _))
    exact same.trans (ih before unbuilt)

/-- Mappings build nothing while all mappers are settled. -/
theorem History.unbuilt (history : History world past last) (maps : ∀ moment ∈ past, moment.Maps)
    (settled : ∀ mapper ∈ world.mappers, mapper.Settled) : ∀ moment ∈ past, moment.Unbuilt := by
  induction history with
  | start => simp
  | write entry _ ih | clear _ ih => exact ih maps
  | serve held request before ih =>
    obtain ⟨early, now⟩ := List.forall_mem_append.mp maps
    have unbuilt := ih early
    have same := mappers_of_clearLog (before.clearLog_eq early unbuilt)
    refine List.forall_mem_append.mpr ⟨unbuilt, List.forall_mem_singleton.mpr ?_⟩
    exact (Compiles.of_maps (now _ (List.mem_singleton_self _))).unbuilt (same ▸ settled)

end Histories

end World

/-- What a script asks for that runs nothing but converters. -/
def Request.Nests (request : Request κ) : Prop := ∃ id input, request = .convert id input

instance (request : Request κ) : Decidable request.Nests :=
  match request with
  | .convert id input => .isTrue ⟨id, input, rfl⟩
  | .operation _ | .mapper _ _ | .registry _ _ | .keep _ _ | .mapComputed _ _ _
  | .dispatchComputed _ _ _ _ _ => .isFalse fun ⟨_, _, same⟩ => nomatch same

/-- What holds of the moments of every request of a script holds of those of its run. -/
theorem Script.Only.trace {P : Request κ → Prop} {Q R : Moment κ → Prop} {server : Server κ}
    {inner : World κ → List Hold → Request κ → List (Moment κ)} {held : List Hold}
    (each : ∀ world request, P request → (∀ moment ∈ inner world held request, Q moment) →
      ∀ moment ∈ inner world held request, R moment)
    {script : Script κ α} (only : script.Only P) {world : World κ}
    (all : ∀ moment ∈ script.trace server inner held world, Q moment) :
    ∀ moment ∈ script.trace server inner held world, R moment := by
  induction only generalizing world with
  | done | panic => simp [Script.trace]
  | log entry _ ih => exact ih all
  | call asks _ ih =>
    simp only [Script.trace, List.forall_mem_append] at all ⊢
    obtain ⟨now, later⟩ := all
    refine ⟨each world _ asks now, ?_⟩
    split
    next reply middle served =>
      rw [served] at later
      exact ih reply later
    next => simp

theorem Script.Quiet.trace {script : Script κ α} (quiet : script.Quiet) (server : Server κ)
    (inner : World κ → List Hold → Request κ → List (Moment κ)) (held : List Hold)
    (world : World κ) : script.trace server inner held world = [] := by
  induction quiet generalizing world with
  | done | panic => rfl
  | log entry _ ih => exact ih (world.write entry)

section Silent

variable [Closures κ] {schema : Schema}

theorem Plan.run_nests {plan : Plan κ}
    (silent : ∀ closure ∈ plan.closures, Closures.Silent closure) (source : Record)
    (dest : Option Record) : (plan.run schema source dest).run.Only Request.Nests :=
  run_only (fun closure mem => (silent closure mem).only)
    (fun _ _ mapper input _ => ⟨mapper, input, rfl⟩) dest

end Silent

namespace Launch

/-- The script runs nothing that asks for more than converters do. -/
def Nests (launch : Launch κ α) : Prop := launch.script.run.Only Request.Nests

theorem now_nests (outcome : Outcome α) : (now outcome : Launch κ α).Nests :=
  ofOutcome_only outcome

theorem Nests.map {launch : Launch κ α} (nests : launch.Nests) (f : α → β) :
    (launch.map f).Nests :=
  Script.Only.run_map nests f

theorem Nests.check {launch : Launch κ α} (nests : launch.Nests) (f : α → Except MappingError β) :
    (launch.check f).Nests :=
  Script.Only.run_bind nests fun result => .done (f result)

end Launch

namespace World

section Silent

variable [Closures κ] {world : World κ} {held : List Hold} {request core : Request κ}
  {id : MapperId} {mapper : Mapper κ}

/-- The plan of the mapper at which a request aims asks for nothing by its closures. -/
def Hushed (world : World κ) (aim : Option (MapperId × Mapper.Action κ)) : Prop :=
  ∀ id mapper plan, aim = some (id, .compile) → world.mappers[id]? = some mapper →
    (world.compile id mapper).1 = .ok plan → ∀ closure ∈ plan.closures, Closures.Silent closure

theorem runMapper_nests (found : world.mappers[id]? = some mapper)
    (hushed : world.Hushed (some (id, .compile))) (source : Record) (dest : Option Record) :
    (world.runMapper id mapper source dest).1.Nests := by
  unfold runMapper
  split
  next plan later compiled =>
    exact plan.run_nests (hushed id mapper plan rfl found (by rw [compiled])) source dest
  next => exact Launch.now_nests _
  next => exact Launch.now_nests _

theorem runErased_nests {input : Erased} (found : world.mappers[id]? = some mapper)
    (hushed : world.Hushed (world.erasedAction? id input)) :
    (world.runErased id mapper input).1.Nests := by
  by_cases fits : input.type = .record mapper.source
  · rw [world.runErased_of_match id fits]
    simp only [erasedAction?, found, Mapper.erasedAction?, if_pos fits] at hushed
    exact (runMapper_nests found hushed _ none).map _
  · rw [world.runErased_of_mismatch id fits]
    exact Launch.now_nests _

theorem dispatch_nests {registry : Nat} {dest : ValueType} {input : Erased}
    (hushed : world.Hushed (world.dispatchAction? registry dest input))
    (quiet : ∀ custom, ((world.registry registry).lookup (input.type, dest)).1 =
      .ok (.custom custom) → Closures.Silent custom.compute) :
    (world.dispatch registry dest input).1.Nests := by
  unfold dispatchAction? at hushed
  unfold dispatch
  generalize (world.registry registry).lookup (input.type, dest) = entry at hushed quiet ⊢
  obtain ⟨(⟨id, source, dest⟩ | double | custom) | cause | text, rest⟩ := entry
  · cases found : world.mappers[id]? with
    | none =>
      simp only [found]
      exact Launch.now_nests _
    | some mapper =>
      simp only [found]
      exact runErased_nests found hushed
  · exact Launch.now_nests _
  · exact .run_bind (.run_lift (.of_quiet (quiet custom rfl _))) fun value =>
      .done (custom.judge value)
  · exact Launch.now_nests _
  · exact Launch.now_nests _

/-- A mapping whose plan has silent closures asks for nothing but what its converters need. -/
theorem serve_nests (maps : Moment.Maps ⟨world, held, request⟩)
    (silent : Moment.Silent ⟨world, held, request⟩) : (world.serve held request).1.Nests := by
  have hushed : world.Hushed (world.action? held request) :=
    fun id mapper plan aimed found built =>
      silent.plans plan (.inl ⟨id, mapper, aimed, found, built⟩)
  obtain ⟨core, addresses, maps⟩ := maps
  rw [addresses.action?] at hushed
  cases maps with
  | map id source dest =>
    rw [addresses.serve]
    simp only [serve, action?, mapperAction?] at hushed ⊢
    cases found : world.mappers[id]? with
    | none => exact Launch.now_nests _
    | some mapper =>
      rw [found] at hushed
      exact (runMapper_nests found hushed _ _).map _
  | erased id type source =>
    rw [addresses.serve]
    simp only [serve, action?, mapperAction?] at hushed ⊢
    cases found : world.mappers[id]? with
    | none => exact Launch.now_nests _
    | some mapper =>
      have aimed : world.Hushed (world.erasedAction? id (world.schema.erase type source)) := by
        rw [erasedAction?, found]
        rwa [found] at hushed
      exact (runErased_nests found aimed).map _
  | nested id input =>
    rw [addresses.serve]
    simp only [serve, action?] at hushed ⊢
    cases found : world.mappers[id]? with
    | none => exact Launch.now_nests _
    | some mapper =>
      cases lives : world.alive held id with
      | true =>
        rw [lives] at hushed
        exact (runErased_nests found hushed).map _
      | false => exact Launch.now_nests _
  | dispatched registry source dest value =>
    rw [addresses.serve]
    refine (dispatch_nests hushed fun custom listed => ?_).check _
    exact silent.customs custom ⟨registry, source, dest, value, .inl addresses, listed⟩
  | dispatchedErased registry source dest value =>
    rw [addresses.serve]
    refine (dispatch_nests hushed fun custom listed => ?_).map _
    exact silent.customs custom ⟨registry, source, dest, value, .inr addresses, listed⟩
  | plan name source dest =>
    cases addresses with
    | itself =>
      simp only [serve, perform]
      cases named : world.handles.get? name with
      | none => exact Launch.now_nests _
      | some handle =>
        cases handle with
        | plan plan =>
          have hushed := silent.plans plan (.inr ⟨name, source, dest, rfl, named⟩)
          exact .run_map (plan.run_nests hushed _ _) _
        | _ => exact Launch.now_nests _

/-- A mapping that asks for no more than its converters need consists of mappings. -/
theorem maps_of_nests {depth : Nat} (maps : Moment.Maps ⟨world, held, request⟩)
    (nests : ∀ moment ∈ (world.trace depth held request).tail, moment.request.Nests) :
    ∀ moment ∈ world.trace depth held request, moment.Maps := by
  cases depth with
  | zero => simp [trace]
  | succ depth =>
    refine List.forall_mem_cons.mpr ⟨maps, fun moment mem => ?_⟩
    obtain ⟨id, input, same⟩ := nests moment mem
    exact ⟨_, .itself _, same ▸ .nested id input⟩

/-- A mapping in which all closures are silent consists of mappings. -/
theorem maps_of_silent {depth : Nat} (maps : Moment.Maps ⟨world, held, request⟩)
    (silent : ∀ moment ∈ world.trace depth held request, moment.Silent) :
    ∀ moment ∈ world.trace depth held request, moment.Maps := by
  induction depth generalizing world held request with
  | zero => simp [trace]
  | succ depth ih =>
    obtain ⟨now, later⟩ := List.forall_mem_cons.mp silent
    refine List.forall_mem_cons.mpr ⟨maps, ?_⟩
    refine Script.Only.trace (fun middle request nests => ?_) (serve_nests maps now) later
    obtain ⟨id, input, rfl⟩ := nests
    exact ih ⟨_, .itself _, .nested id input⟩

end Silent

end World

/-- The assignments of a plan are those that its bindings report, in the same order. -/
structure Plan.Aligned (plan : Plan κ) : Prop where
  bindings :
    plan.bound.map (·.1) = plan.bindings.filter fun binding => binding.kind ≠ .ignored
  assignments : plan.bound.map (·.2) = plan.assignments
  sides : ∀ entry ∈ plan.bound,
    entry.1.name = entry.2.dest.name ∧ entry.1.source = some entry.2.source.label

theorem Plan.Fits.aligned {P : Assignment κ → Prop} {plan : Plan κ} (fits : plan.Fits P) :
    plan.Aligned where
  bindings := fits.unzip_bound.1
  assignments := fits.unzip_bound.2
  sides _ mem := ⟨(fits.of_mem_bound mem).2.1, (fits.of_mem_bound mem).2.2.1⟩

namespace World

variable [Closures κ]

theorem History.aligned {schema : Schema} {tracing : Bool} {past : List (Moment κ)}
    {world : World κ} (history : History (initial schema tracing) past world) {plan : Plan κ}
    (offers : world.Offers plan) : plan.Aligned := by
  obtain ⟨⟨before, held, request⟩, mem, built⟩ := history.built offers
  obtain ⟨early, late, split⟩ := List.append_of_mem mem
  obtain ⟨reach, -⟩ := (split ▸ history).split
  obtain ⟨mapper, composition, found, -, -⟩ := Moment.built?_eq_some.mp built
  obtain ⟨later, next, kept, cached, serves⟩ := serve_yields found built
  rw [← serves.mappers.2] at kept
  have reachable : (before.serve held request).2.Reachable :=
    ⟨schema, tracing, _, .serve held request reach⟩
  exact ((reachable.lands kept).compiled plan cached).fits.aligned

section Runs

variable {world last : World κ} {depth : Nat} {held : List Hold} {request : Request κ}
  {reply : Reply} {plan : Plan κ}

theorem answer_planRun_iff_conduct {name : String}
    (named : world.handles.get? name = some (.plan plan)) (source : Value) (dest : Option Value) :
    world.answer (depth + 1) held (.operation (.planRun name source dest)) = some (reply, last) ↔
      ∃ made outcome, plan.Conduct world.schema (world.schema.record plan.source source)
          (dest.map (world.schema.record plan.dest)) (answer depth) held world made outcome last ∧
        outcome.map (fun hand => .value (.record hand.dest)) = reply := by
  simp only [answer_planRun_iff named, Plan.course_iff_conduct, Outcome.replied,
    Outcome.map_map]

theorem answer_map_iff_conduct {id : MapperId} {mapper : Mapper κ} {start : World κ}
    (found : world.mappers[id]? = some mapper)
    (compiled : world.compile id mapper = (.ok plan, start)) (source : Value)
    (dest : Option Value) :
    world.answer (depth + 1) held (.mapper id (.map source dest)) = some (reply, last) ↔
      ∃ made outcome, plan.Conduct world.schema (world.schema.record mapper.source source)
          (dest.map (world.schema.record mapper.dest)) (answer depth) (.mapper id :: held) start
          made outcome last ∧
        outcome.map (fun hand => .value (.record hand.dest)) = reply := by
  simp only [answer_map_iff found compiled, Plan.course_iff_conduct, Outcome.replied,
    Outcome.map_map]

/-- A run whose plan asks for nothing is one moment. -/
theorem trace_of_quiet {id : MapperId} {mapper : Mapper κ} {start : World κ} {source : Value}
    {dest : Option Value} (found : world.mappers[id]? = some mapper)
    (compiled : world.compile id mapper = (.ok plan, start)) (quiet : plan.Quiet)
    (addresses : world.Addresses request (.mapper id (.map source dest))) :
    world.trace (depth + 1) held request = [⟨world, held, request⟩] := by
  rw [trace, addresses.serve]
  simp only [serve, found, callMapper, runMapper, compiled, Launch.trace_map]
  exact congrArg _ ((quiet.run _).trace _ _ _ _)

end Runs

/-- Runs are orderly: what they do and in which order, what they answer, and what they leave. -/
structure Orderly (world : World κ) : Prop where
  /-- The order of a plan's assignments is the order of its bindings. -/
  aligned : ∀ plan, world.Offers plan → plan.Aligned
  /-- A mapping makes the acts of the mapper's plan, and answers as the last of them ends. -/
  maps : ∀ held request id mapper (plan : Plan κ) start source dest,
    world.mappers[id]? = some mapper → world.Addresses request (.mapper id (.map source dest)) →
    world.compile id mapper = (.ok plan, start) → ∀ depth reply last,
    world.answer (depth + 1) held request = some (reply, last) ↔
      ∃ made outcome, plan.Conduct world.schema (world.schema.record mapper.source source)
          (dest.map (world.schema.record mapper.dest)) (answer depth) (.mapper id :: held) start
          made outcome last ∧
        outcome.map (fun hand => .value (.record hand.dest)) = reply
  runs : ∀ held name (plan : Plan κ) source dest, world.handles.get? name = some (.plan plan) →
    ∀ depth reply last,
    world.answer (depth + 1) held (.operation (.planRun name source dest)) = some (reply, last) ↔
      ∃ made outcome, plan.Conduct world.schema (world.schema.record plan.source source)
          (dest.map (world.schema.record plan.dest)) (answer depth) held world made outcome last ∧
        outcome.map (fun hand => .value (.record hand.dest)) = reply
  /-- A mapper that has a plan maps with that plan, and nothing happens before. -/
  reused : ∀ (id : MapperId) mapper plan, world.mappers[id]? = some mapper →
    mapper.poisoned = false → mapper.compiled = some plan →
    world.compile id mapper = (.ok plan, world)
  /-- Whatever a mapping comes to, a mapper that had its plan is what it was. -/
  kept : ∀ depth held request reply last,
    world.answer depth held request = some (reply, last) →
    (∀ moment ∈ world.trace depth held request, moment.Maps) →
    ∀ (id : MapperId) mapper, world.mappers[id]? = some mapper → mapper.Settled →
      last.mappers[id]? = some mapper
  /-- And if it has built nothing, whatever is done afterwards comes out as if it had not been. -/
  forgotten : ∀ depth held request reply last,
    world.answer depth held request = some (reply, last) →
    (∀ moment ∈ world.trace depth held request, moment.Maps) →
    (∀ moment ∈ world.trace depth held request, moment.Unbuilt) → ∀ depth operations,
      last.replies depth operations = world.replies depth operations
  /-- While closures issue no operations, a mapping consists of mappings. -/
  silent : ∀ depth held request, Moment.Maps ⟨world, held, request⟩ →
    (∀ moment ∈ world.trace depth held request, moment.Silent) →
    ∀ moment ∈ world.trace depth held request, moment.Maps
  settled : ∀ depth held request reply last,
    world.answer depth held request = some (reply, last) →
    (∀ moment ∈ world.trace depth held request, moment.Maps) →
    (∀ mapper ∈ world.mappers, mapper.Settled) →
      ∀ moment ∈ world.trace depth held request, moment.Unbuilt
  /-- Without nested mappers nothing but the mapper's own plan matters. -/
  quiet : ∀ depth held request id mapper (plan : Plan κ) source dest,
    world.mappers[id]? = some mapper → mapper.poisoned = false → mapper.compiled = some plan →
    plan.Quiet → world.Addresses request (.mapper id (.map source dest)) →
    ∀ moment ∈ world.trace depth held request, moment.Maps ∧ moment.Unbuilt

/-- In whatever state a session is, runs in it are orderly. -/
theorem runs_make_acts_in_order {schema : Schema} {tracing : Bool} {past : List (Moment κ)}
    {world : World κ} (history : History (initial schema tracing) past world) : world.Orderly where
  aligned _ offers := history.aligned offers
  maps held request id mapper plan start source dest found addresses compiled depth reply last := by
    rw [addresses.answer]
    exact answer_map_iff_conduct found compiled source dest
  runs held name plan source dest named depth reply last :=
    answer_planRun_iff_conduct named source dest
  reused _ _ _ found healthy cached := compile_of_cached found healthy cached
  kept depth held request reply last answered maps id mapper found settled :=
    (history_trace answered).mapper_eq maps found settled
  forgotten depth held request reply last answered maps unbuilt :=
    replies_of_clearLog ((history_trace answered).clearLog_eq maps unbuilt)
  silent depth held request maps silent := maps_of_silent maps silent
  settled depth held request reply last answered maps settled :=
    (history_trace answered).unbuilt maps settled
  quiet depth held request id mapper plan source dest found healthy cached quiet addresses := by
    have compiled := compile_of_cached found healthy cached
    have aimed : world.action? held request = some (id, .compile) := by
      rw [addresses.action?]
      simp [action?, mapperAction?, found, Mapper.action?]
    have settled : mapper.Settled := .inl (by simp [cached])
    cases depth with
    | zero => simp [trace]
    | succ depth =>
      rw [trace_of_quiet found compiled quiet addresses]
      exact List.forall_mem_singleton.mpr
        ⟨⟨_, addresses, .map id source dest⟩, unbuilt_of_aim aimed found settled⟩

end World

/-- Two types with a member each, whose types are records of two further types with one member. -/
def Schema.chained (inner outer : Slot) : Schema where
  layout
    | 0 => ⟨[.field ⟨"a", .record inner, .readWrite, "a", false⟩], []⟩
    | 1 => ⟨[.field ⟨"a", .record outer, .readWrite, "a", false⟩], []⟩
    | _ => ⟨[.field ⟨"x", .i32, .readWrite, "x", false⟩], []⟩

namespace World

/-- A mapper "m" that has its plan, and the mapper "n" of its only member. The service of "n"
answers by rules. -/
def chained (source dest inner outer : Slot) (rules : List Rule) : World Closure :=
  (initial (.chained inner outer) false).after
    [.newTable "t", .newService "s" "t" rules, .newMapper "n" inner outer (some "s"),
      .table "t" (.registerMapper "n"), .newMapper "m" source dest (some "t"),
      .mapper "m" (.compile none)]

/-- Both mappers have their plans, and each mapping fails as the first does. -/
theorem runs_make_acts_in_order_of_chained :
    let cause : MappingError := .unbridgeable "x" "i32" "i32"
    let world := (chained 0 1 2 3 [⟨"x", .fail cause, none⟩]).after [.mapper "n" (.compile none)]
    let map : Operation Closure := .mapper "m" (.map (.record [("a", .record [])]) none)
    ∃ past, History (initial (.chained 2 3) false) past world ∧ world.Orderly ∧
      world.mappers.map (·.compiled.isSome) = [true, true] ∧
      world.replies 4 [map, map] = [some (.error cause, []), some (.error cause, [])] := by
  intro cause world map
  have history := (History.of_operations (initial (.chained 2 3) false : World Closure) _).trans
    (History.of_operations (chained 0 1 2 3 [⟨"x", .fail cause, none⟩])
      [.mapper "n" (.compile none)])
  exact ⟨_, history, runs_make_acts_in_order history, by decide +kernel, by decide +kernel⟩

/-- The service panics while the nested mapper builds its plan for the first mapping. That one is
not forgotten: the next runs into the lock, although "m" is what it was and has no closures. -/
theorem failed_run_remembered :
    let world := chained 0 1 2 3 [⟨"x", .panic, none⟩]
    let map : Operation Closure := .mapper "m" (.map (.record [("a", .record [])]) none)
    (∃ past, History (initial (.chained 2 3) false) past world) ∧
      ∃ mapper plan last, world.mappers[1]? = some mapper ∧ mapper.poisoned = false ∧
        mapper.compiled = some plan ∧ plan.closures = [] ∧
        world.answer 4 [] (.operation map) = some (.panic "service panic on x", last) ∧
        last.mappers[1]? = some mapper ∧
        world.replies 4 [map] =
          [some (.panic "service panic on x", [.asked (.member ⟨"x", .i32⟩ ⟨"x", .i32⟩)])] ∧
        last.replies 4 [map] = [some (.error .lockPoisoned, [])] := by
  intro world map
  have found : world.mappers[1]? = some _ := rfl
  have replied : (world.answer 4 [] (.operation map)).map
      (fun answered => (answered.1, answered.2.replies 4 [map])) =
        some (.panic "service panic on x", [some (.error .lockPoisoned, [])]) := by decide +kernel
  obtain ⟨⟨reply, last⟩, answered, same⟩ := Option.map_eq_some_iff.mp replied
  obtain ⟨rfl, next⟩ := Prod.mk.inj same
  have nests : ∀ moment ∈ (world.trace 4 [] (.operation map)).tail, moment.request.Nests := by
    decide +kernel
  have named : world.handles.get? "m" = some (.mapper 1) := rfl
  have maps := maps_of_nests ⟨_, .mapper _ named found, .map 1 _ none⟩ nests
  have kept := (history_trace answered).mapper_eq maps found (.inl rfl)
  exact ⟨⟨_, History.of_operations _ _⟩, _, _, last, found, rfl, rfl, rfl, answered, kept,
    by decide +kernel, next⟩

end World

end RecordMapping
