import RecordMapping.Proofs.Similarity

namespace RecordMapping

variable {σ κ : Type}

inductive Plan.Step (κ : Type) where
  | leaveOut (name : String)
  | assign (kind : Binding.Kind) (dest label : String) (assignment : Assignment κ)

namespace Plan.Step

def binding : Step κ → Binding
  | .leaveOut name => .ignored name
  | .assign kind dest label _ => ⟨dest, kind, some label⟩

def assignment? : Step κ → Option (Assignment κ)
  | .leaveOut _ => none
  | .assign _ _ _ assignment => some assignment

def ofAnswer (source dest : Property Record) : Option (Resolution κ) → Step κ
  | some (.convert converter) =>
    .assign .auto dest.name source.name ⟨.member source, converter, dest⟩
  | _ => .leaveOut source.name

/-- A member with a source of its own is assigned unless it is ignored explicitly. -/
def ofCustom (ignored : Ignored) (entry : String × CustomMember κ) : Step κ :=
  if ignored.get? entry.1 = some .explicit then .leaveOut entry.2.dest
  else .assign .custom entry.2.dest entry.2.label entry.2.assignment

end Plan.Step

namespace Composition

/-- Bindings and assignments of a list of steps: a binding for each, and an assignment for each that
leaves no member out. -/
def ofSteps (steps : List (Plan.Step κ)) : Composition κ :=
  ⟨steps.filterMap (·.assignment?), steps.map (·.binding)⟩

@[simp] theorem ofSteps_leaveOut (name : String) (rest : List (Plan.Step κ)) :
    ofSteps (.leaveOut name :: rest) = (ofSteps rest).leaveOut name := rfl

@[simp] theorem ofSteps_assign (kind : Binding.Kind) (dest label : String)
    (assignment : Assignment κ) (rest : List (Plan.Step κ)) :
    ofSteps (.assign kind dest label assignment :: rest) =
      (ofSteps rest).assign kind dest label assignment := rfl

@[simp] theorem ofSteps_append (first second : List (Plan.Step κ)) :
    ofSteps (first ++ second) = (ofSteps first).append (ofSteps second) := by
  simp [ofSteps, append]

theorem ofCustom_eq_ofSteps (ignored : Ignored) (entries : List (String × CustomMember κ)) :
    ofCustom ignored entries = ofSteps (entries.map (Plan.Step.ofCustom ignored)) := by
  induction entries with
  | nil => rfl
  | cons entry rest ih =>
    by_cases off : ignored.get? entry.1 = some .explicit
    · simp [ofCustom, Plan.Step.ofCustom, off, ih]
    · simp [ofCustom, Plan.Step.ofCustom, off, ih]

/-- Every binding that is not ignored has an assignment, and no other has. -/
theorem ofSteps_aligned (steps : List (Plan.Step κ))
    (kinds : ∀ kind dest label assignment, .assign kind dest label assignment ∈ steps →
      kind ≠ .ignored) :
    ((ofSteps steps).bindings.filter fun binding => binding.kind ≠ .ignored).length =
      (ofSteps steps).assignments.length := by
  induction steps with
  | nil => rfl
  | cons step rest ih =>
    have aligned := ih fun kind dest label assignment mem =>
      kinds kind dest label assignment (List.mem_cons_of_mem _ mem)
    cases step with
    | leaveOut name =>
      simpa [ofSteps, Plan.Step.binding, Plan.Step.assignment?, Binding.ignored] using aligned
    | assign kind dest label assignment =>
      have kept := kinds kind dest label assignment List.mem_cons_self
      simpa [ofSteps, Plan.Step.binding, Plan.Step.assignment?, kept] using aligned

end Composition

namespace Plan

/-- The readable source members that have no custom assignment under their names. -/
def unclaimed (custom : String → Bool) (sources : List (Property Record)) :
    List (Property Record) :=
  sources.filter fun source => source.isReadable && !custom (Text.fold source.name)

/-- The first destination member of a name, if it can be written. A later one of the same name never
takes its place. -/
def counterpart? (dests : List (Property Record)) (name : String) : Option (Property Record) :=
  (Property.named? dests name).filter Property.isWritable

def target? (dests : List (Property Record)) (ignored : Ignored) (source : Property Record) :
    Option (Property Record) :=
  if ignored.contains (Text.fold source.name) then none else counterpart? dests source.name

def candidate (dests : List (Property Record)) (ignored : Ignored) (source : Property Record) :
    Candidate :=
  match target? dests ignored source with
  | none => .leftOut source.name
  | some dest => .pair source dest

end Plan

def Candidate.question? : Candidate → Option Question
  | .leftOut _ => none
  | .pair source dest => some (.member dest.signature source.signature)

theorem Candidate.questions_leftOut (name : String) (rest : List Candidate) :
    (leftOut name :: rest).filterMap question? = rest.filterMap question? := rfl

theorem Candidate.questions_pair (source dest : Property Record) (rest : List Candidate) :
    (pair source dest :: rest).filterMap question? =
      .member dest.signature source.signature :: rest.filterMap question? := rfl

namespace Plan

/-- The steps for candidates in order, given the answers to their questions in order. -/
def answered : List Candidate → List (Resolution κ) → List (Step κ)
  | [], _ => []
  | .leftOut name :: rest, answers => .leaveOut name :: answered rest answers
  | .pair source dest :: rest, answers =>
    .ofAnswer source dest answers.head? :: answered rest answers.tail

/-- The candidates of a build, all judged by what is ignored when it starts. -/
def candidates (sources dests : List (Property Record)) (config : Config κ) : List Candidate :=
  (unclaimed config.custom.contains sources).map (candidate dests config.ignored)

def questions (sources dests : List (Property Record)) (config : Config κ) : List Question :=
  (candidates sources dests config).filterMap Candidate.question?

/-- The steps of a plan, given the service's answers to the questions of the build. -/
def reference (sources dests : List (Property Record)) (config : Config κ)
    (answers : List (Resolution κ)) : List (Step κ) :=
  answered (candidates sources dests config) answers ++
    config.custom.entries.map (Step.ofCustom config.ignored)

end Plan

structure Exchange (κ : Type) where
  question : Question
  answer : Resolution κ

def Resolution.panic? : Resolution κ → Option String
  | .panic text => some text
  | _ => none

def Dialogue.transcribed (dialogue : Dialogue σ κ) : Dialogue (σ × List (Exchange κ)) κ where
  ask question state :=
    let (answer, next) := dialogue.ask question state.1
    (answer, next, state.2 ++ [⟨question, answer⟩])
  report event state := (dialogue.report event state.1, state.2)

def Plan.heard (dialogue : Dialogue σ κ) (sources dests : List (Property Record))
    (config : Config κ) (state : σ) : List (Exchange κ) :=
  (Plan.compose dialogue.transcribed sources dests config (state, [])).2.2.2

@[simp] theorem Dialogue.transcribed_report (dialogue : Dialogue σ κ) (event : Event) (state : σ)
    (past : List (Exchange κ)) :
    dialogue.transcribed.report event (state, past) = (dialogue.report event state, past) := rfl

theorem Dialogue.transcribed_similar (dialogue : Dialogue σ κ) :
    dialogue.transcribed.Similar dialogue fun noted state => noted.1 = state where
  answer := by rintro noted state rfl question; rfl
  ask := by rintro noted state rfl question; rfl
  report := by rintro noted state rfl event; rfl

end RecordMapping
