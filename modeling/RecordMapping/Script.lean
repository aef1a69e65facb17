import RecordMapping.Operation

namespace RecordMapping

abbrev MapperId := Nat

/-- What a closure sees: the source, and the destination when it runs as a hook. -/
structure Scope where
  source : Value
  dest : Value
  deriving Repr, DecidableEq

/-- What a suspended script waits for. The last two map what a closure computes: the mapper or the
registry is looked up, and kept alive, before the closure runs. -/
inductive Request (κ : Type) where
  | operation (operation : Operation κ)
  | mapper (mapper : MapperId) (call : MapperCall κ)
  | registry (registry : Nat) (call : Registry.Call κ)
  | convert (mapper : MapperId) (input : Erased)
  | keep (handle : String) (erased : Erased)
  | mapComputed (mapper : String) (input : κ) (scope : Scope)
  | dispatchComputed (registry : String) (source dest : ValueType) (input : κ) (scope : Scope)

/-- A computation that may write to the log, panic, and suspend itself on a request to the session
in which it runs. Closures denote scripts, and so does every run of a plan. -/
inductive Script (κ α : Type) where
  | done (result : α)
  | panic (text : String)
  | log (entry : LogEntry) (next : Script κ α)
  | call (request : Request κ) (next : Reply → Script κ α)

namespace Script

variable {κ α β γ : Type}

protected def bind : Script κ α → (α → Script κ β) → Script κ β
  | done result, f => f result
  | panic text, _ => panic text
  | log entry next, f => log entry (next.bind f)
  | call request next, f => call request fun reply => (next reply).bind f

instance : Monad (Script κ) where
  pure := done
  bind := Script.bind

theorem bind_done (script : Script κ α) : script.bind done = script := by
  induction script with
  | done | panic => rfl
  | log _ _ ih => exact congrArg _ ih
  | call _ _ ih => exact congrArg _ (funext ih)

theorem bind_bind (script : Script κ α) (f : α → Script κ β) (g : β → Script κ γ) :
    (script.bind f).bind g = script.bind fun result => (f result).bind g := by
  induction script with
  | done | panic => rfl
  | log _ _ ih => exact congrArg _ ih
  | call _ _ ih => exact congrArg _ (funext ih)

instance : LawfulMonad (Script κ) :=
  LawfulMonad.mk' (Script κ) bind_done (fun _ _ => rfl) bind_bind

/-- Writes one entry. -/
def note (entry : LogEntry) : Script κ Unit := log entry (done ())

/-- Waits for the answer to a request. -/
def ask (request : Request κ) : Script κ Reply := call request done

/-- Scripts that suspend on no request. -/
inductive Quiet : Script κ α → Prop where
  | done (result : α) : Quiet (done result)
  | panic (text : String) : Quiet (panic text)
  | log (entry : LogEntry) {next : Script κ α} : Quiet next → Quiet (log entry next)

end Script

/-- A language of closures: each denotes a script over its scope. A hook's value is the destination
as the hook leaves it. -/
class Closures (κ : Type) where
  run : κ → Scope → Script κ Value

/-- Runs a closure of the source alone. -/
def Closures.compute {κ : Type} [Closures κ] (closure : κ) (source : Value) : Script κ Value :=
  Closures.run closure ⟨source, .null⟩

/-- Runs a hook on a destination record. -/
def Closures.amend {κ : Type} [Closures κ] (hook : κ) (source dest : Record) : Script κ Record := do
  let value ← Closures.run hook ⟨.record source, .record dest⟩
  return value.fields

end RecordMapping
