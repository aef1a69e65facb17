import RecordMapping.Dialogue

namespace RecordMapping

/-- A mapping service: a conversion table, or one that answers by rules. -/
inductive ServiceId where
  | table (id : Nat)
  | ruled (id : Nat)
  deriving Repr, DecidableEq, Inhabited

namespace RuledService

namespace Rule

variable {κ : Type}

def ready (rule : Rule κ) (member : String) : Bool := rule.member = member ∧ rule.uses ≠ some 0

def used (rule : Rule κ) : Rule κ := { rule with uses := rule.uses.map (· - 1) }

/-- The verdict of the first rule that is ready for a member, and the rules after its use. -/
def decide (member : String) : List (Rule κ) → Option (Verdict κ × List (Rule κ))
  | [] => none
  | rule :: rest =>
    if rule.ready member then some (rule.verdict, rule.used :: rest)
    else (decide member rest).map fun (verdict, rest) => (verdict, rule :: rest)

end Rule

end RuledService

/-- A service with rules; the table answers what no rule decides. -/
structure RuledService (κ : Type) where
  table : Nat
  rules : List (RuledService.Rule κ)
  deriving Inhabited

structure Surroundings (κ : Type) where
  tables : List (Conversions κ)
  services : List (RuledService κ)
  log : List LogEntry
  tracing : Bool
  deriving Inhabited

namespace Surroundings

variable {κ : Type}

def write (surroundings : Surroundings κ) (entry : LogEntry) : Surroundings κ :=
  { surroundings with log := surroundings.log ++ [entry] }

/-- Events are written only while the session traces. -/
def report (event : Event) (surroundings : Surroundings κ) : Surroundings κ :=
  if surroundings.tracing then surroundings.write (.event event) else surroundings

def table (surroundings : Surroundings κ) (id : Nat) : Conversions κ :=
  surroundings.tables.getD id default

def setTable (surroundings : Surroundings κ) (id : Nat) (table : Conversions κ) :
    Surroundings κ :=
  { surroundings with tables := surroundings.tables.set id table }

def resolution (schema : Schema) (member : String) : Verdict κ → Resolution κ
  | .refuse error => .refuse error
  | .panic => .panic ("service panic on " ++ member)
  | .supply type value => .convert (.constant (schema.erase type value))
  | .fail error => .convert (.fail error)
  | .convert source dest convert => .convert (.function source dest convert)

/-- The answer of a service. One with rules logs the question and uses up a rule. -/
def ask (schema : Schema) (service : ServiceId) (question : Question)
    (surroundings : Surroundings κ) : Resolution κ × Surroundings κ :=
  match service with
  | .table id => (.ofExcept ((surroundings.table id).bridge question), surroundings)
  | .ruled id =>
    let surroundings := surroundings.write (.asked question)
    let service := surroundings.services.getD id default
    match RuledService.Rule.decide question.dest.name service.rules with
    | some (verdict, rules) =>
      (resolution schema question.dest.name verdict,
        { surroundings with
          services := surroundings.services.set id { service with rules := rules } })
    | none => (.ofExcept ((surroundings.table service.table).bridge question), surroundings)

/-- A mapper's dialogue with the given service. -/
def dialogue (schema : Schema) (service : ServiceId) : Dialogue (Surroundings κ) κ where
  ask := ask schema service
  report := report

end Surroundings

end RecordMapping
