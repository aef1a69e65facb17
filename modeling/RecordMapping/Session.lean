import RecordMapping.World.Perform

namespace RecordMapping

/-- Answers requests of a session, given what the operations under way keep alive; `none` when it
gives up. -/
abbrev Server (κ : Type) := World κ → List Hold → Request κ → Option (Reply × World κ)

/-- Runs a script to its result or to the text of its panic. -/
def Script.exec {κ α : Type} (server : Server κ) (held : List Hold) :
    Script κ α → World κ → Option (Except String α × World κ)
  | .done result, world => some (.ok result, world)
  | .panic text, world => some (.error text, world)
  | .log entry next, world => next.exec server held (world.write entry)
  | .call request next, world =>
    match server world held request with
    | some (reply, world) => (next reply).exec server held world
    | none => none

/-- The reply of an operation whose script has ended. -/
def Outcome.ofRun {α : Type} : Except String (Except MappingError α) → Outcome α
  | .ok result => .ofExcept result
  | .error text => .panic text

namespace Script

variable {κ α β : Type}

theorem exec_bind (server : Server κ) (held : List Hold) (script : Script κ α)
    (f : α → Script κ β) (world : World κ) :
    (script.bind f).exec server held world =
      match script.exec server held world with
      | some (.ok result, world) => (f result).exec server held world
      | some (.error text, world) => some (.error text, world)
      | none => none := by
  induction script generalizing world with
  | done | panic => rfl
  | log entry next ih => exact ih (world.write entry)
  | call request next ih =>
    simp only [Script.bind, exec]
    cases server world held request with
    | none => rfl
    | some answered => exact ih answered.1 answered.2

end Script

namespace World

variable {κ : Type} [Closures κ]

/-- Answers a request in which operations nest at most `depth` deep. What the request sets going
holds on to what it looked up until it ends. -/
def answer : Nat → Server κ
  | 0, _, _, _ => none
  | depth + 1, world, held, request =>
    let (launch, world) := world.serve held request
    match launch.script.run.exec (answer depth) (launch.holds ++ held) world with
    | some (result, world) => some (.ofRun result, world)
    | none => none

/-- Performs one operation of a session, with a log of its own. -/
def operate (depth : Nat) (world : World κ) (operation : Operation κ) :
    Option (Reply × World κ) :=
  world.clearLog.answer depth [] (.operation operation)

/-- The replies and logs of operations performed one after another, up to the first that nests too
deep. -/
def replies (depth : Nat) : World κ → List (Operation κ) → List (Option (Reply × List LogEntry))
  | _, [] => []
  | world, operation :: rest =>
    match world.operate depth operation with
    | some (reply, world) => some (reply, world.surroundings.log) :: world.replies depth rest
    | none => [none]

end World

end RecordMapping
