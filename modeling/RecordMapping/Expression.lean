import RecordMapping.Script

namespace RecordMapping

inductive Expr where
  | literal (value : Value)
  | source
  | dest
  | get (owner : Expr) (key : String)
  | concat (parts : List Expr)
  | scale (number : Expr) (factor offset : Int)
  | length (whole : Expr)
  | record (fields : List (String × Expr))
  | choose (condition yes no : Expr)
  | equal (left right : Expr)
  | each (list body : Expr)
  | map (mapper : String) (input : Expr)
  | dispatch (registry : String) (given wanted : ValueType) (input : Expr)
  | log (entry body : Expr)
  | panic (text : String)
  deriving Repr

mutual

/-- What a hook does to the destination record. -/
inductive Action where
  | set (key : String) (value : Expr)
  | unset (key : String)
  | log (value : Expr)
  | perform (operation : Operation Closure)
  | panic (text : String)

/-- A closure: an expression for its value, or a hook's actions in order. -/
inductive Closure where
  | value (expr : Expr)
  | hook (actions : List Action)

end

namespace Script

variable {κ α β : Type}

/-- Runs a script for every item in order. -/
def mapItems (f : α → Script κ β) : List α → Script κ (List β)
  | [] => return []
  | item :: rest => do
    let result ← f item
    let results ← mapItems f rest
    return result :: results

/-- The value of a mapping asked for inside an expression: an error counts as its message. -/
def mapped : Reply → Script κ Value
  | .ok (.value value) => return value
  | .ok _ => return .null
  | .error cause => return .str cause.message
  | .panic text => .panic text

end Script

namespace Expr

mutual

/-- The value of an expression. -/
def eval (scope : Scope) : Expr → Script Closure Value
  | .literal value => return value
  | .source => return scope.source
  | .dest => return scope.dest
  | .get owner key => do
    let owner ← owner.eval scope
    return owner.fields.get key
  | .concat parts => do
    let values ← evalAll scope parts
    return .str (String.join (values.map Value.text))
  | .scale number factor offset => do
    match ← number.eval scope with
    | .int number => return .int (number * factor + offset)
    | _ => return .null
  | .length whole => do
    let whole ← whole.eval scope
    return whole.length?.elim .null fun length => .int length
  | .record fields => do
    let fields ← evalFields scope fields
    return .record (Record.ofList fields)
  | .choose condition yes no => do
    match ← condition.eval scope with
    | .bool true => yes.eval scope
    | _ => no.eval scope
  | .equal left right => do
    let left ← left.eval scope
    let right ← right.eval scope
    return .bool (left.same right)
  | .each list body => do
    match ← list.eval scope with
    | .list items =>
      let results ← Script.mapItems (fun item => body.eval { scope with source := item }) items
      return .list results
    | _ => return .null
  | .map mapper input => (Script.ask (.mapComputed mapper (.value input) scope)).bind Script.mapped
  | .dispatch registry given wanted input =>
    (Script.ask (.dispatchComputed registry given wanted (.value input) scope)).bind Script.mapped
  | .log entry body => do
    let entry ← entry.eval scope
    Script.note (.computed entry)
    body.eval scope
  | .panic text => Script.panic text

def evalAll (scope : Scope) : List Expr → Script Closure (List Value)
  | [] => return []
  | expr :: rest => do
    let value ← expr.eval scope
    let values ← evalAll scope rest
    return value :: values

def evalFields (scope : Scope) : List (String × Expr) → Script Closure (List (String × Value))
  | [] => return []
  | (key, expr) :: rest => do
    let value ← expr.eval scope
    let values ← evalFields scope rest
    return (key, value) :: values

end

end Expr

/-- The destination record after an action. An operation's reply goes to the log, panic or not. -/
def Action.run (source dest : Value) : Action → Script Closure Value
  | .set key value => do
    let value ← value.eval ⟨source, dest⟩
    return .record (dest.fields.insert key value)
  | .unset key => return .record (dest.fields.erase key)
  | .log value => do
    let value ← value.eval ⟨source, dest⟩
    Script.note (.hooked value)
    return dest
  | .perform operation => do
    let reply ← Script.ask (.operation operation)
    Script.note (.performed reply)
    return dest
  | .panic text => Script.panic text

def Action.runAll (source : Value) : List Action → Value → Script Closure Value
  | [], dest => return dest
  | action :: rest, dest => do
    let dest ← action.run source dest
    runAll source rest dest

instance : Closures Closure where
  run
    | .value expr, scope => expr.eval scope
    | .hook actions, scope => Action.runAll scope.source actions scope.dest

abbrev RegistryCall := Registry.Call Closure

abbrev Rule := RuledService.Rule Closure

end RecordMapping
