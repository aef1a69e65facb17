import RecordMapping.Config
import RecordMapping.Dialogue

namespace RecordMapping

/-- What matching finds out about a source member. -/
inductive Match where
  | claimed
  | ignored
  | unmatched (readOnly : Bool)
  | paired (dest : Property Record)

/-- The counterpart of a source member is the first destination member of the same name. Members
that cannot be read or have a source of their own take no part. -/
def Match.find (dests : List (Property Record)) (custom : String → Bool) (ignored : Ignored)
    (source : Property Record) : Match :=
  if !source.isReadable || custom (Text.fold source.name) then .claimed
  else if ignored.contains (Text.fold source.name) then .ignored
  else match Property.named? dests source.name with
    | none => .unmatched false
    | some dest => if dest.isWritable then .paired dest else .unmatched true

/-- A source member as matching leaves it: paired with a destination member, or left out. -/
inductive Candidate where
  | pair (source dest : Property Record)
  | leftOut (name : String)

/-- The assignments of a plan and its report on every member. -/
structure Composition (κ : Type) where
  assignments : List (Assignment κ)
  bindings : List Binding
  deriving Inhabited

namespace Composition

variable {κ : Type}

def leaveOut (name : String) (rest : Composition κ) : Composition κ :=
  ⟨rest.assignments, .ignored name :: rest.bindings⟩

def assign (kind : Binding.Kind) (dest label : String) (assignment : Assignment κ)
    (rest : Composition κ) : Composition κ :=
  ⟨assignment :: rest.assignments, ⟨dest, kind, some label⟩ :: rest.bindings⟩

def append (first second : Composition κ) : Composition κ :=
  ⟨first.assignments ++ second.assignments, first.bindings ++ second.bindings⟩

/-- The members with sources of their own. Only an explicit `ignore` switches one off. -/
def ofCustom (ignored : Ignored) : List (String × CustomMember κ) → Composition κ
  | [] => ⟨[], []⟩
  | (key, custom) :: rest =>
    if ignored.get? key = some .explicit then (ofCustom ignored rest).leaveOut custom.dest
    else (ofCustom ignored rest).assign .custom custom.dest custom.label custom.assignment

end Composition

namespace Plan

variable {σ κ : Type}

/-- Matches source members in order. An unmatched one is remembered, so that later builds leave it
out without another look. -/
def matchMembers (dialogue : Dialogue σ κ) (dests : List (Property Record))
    (custom : String → Bool) :
    List (Property Record) → Ignored → σ → List Candidate × Ignored × σ
  | [], ignored, state => ([], ignored, state)
  | source :: rest, ignored, state =>
    match Match.find dests custom ignored source with
    | .claimed => matchMembers dialogue dests custom rest ignored state
    | .ignored =>
      let (candidates, ignored, state) := matchMembers dialogue dests custom rest ignored state
      (.leftOut source.name :: candidates, ignored, state)
    | .unmatched readOnly =>
      let (candidates, ignored, state) := matchMembers dialogue dests custom rest
        (ignored.insert (Text.fold source.name) .unmatched)
        (dialogue.report (.unmatched source.name readOnly) state)
      (.leftOut source.name :: candidates, ignored, state)
    | .paired dest =>
      let (candidates, ignored, state) := matchMembers dialogue dests custom rest ignored state
      (.pair source dest :: candidates, ignored, state)

/-- Asks about each pair in order. A refused member is remembered; a panic of the service ends the
build with the panic's text but keeps what has been remembered. -/
def bridgeMembers (dialogue : Dialogue σ κ) :
    List Candidate → Ignored → σ → Except String (Composition κ) × Ignored × σ
  | [], ignored, state => (.ok ⟨[], []⟩, ignored, state)
  | .leftOut name :: rest, ignored, state =>
    let (outcome, ignored, state) := bridgeMembers dialogue rest ignored state
    (outcome.map (·.leaveOut name), ignored, state)
  | .pair source dest :: rest, ignored, state =>
    match dialogue.ask (.member dest.signature source.signature) state with
    | (.convert converter, state) =>
      let (outcome, ignored, state) := bridgeMembers dialogue rest ignored state
      (outcome.map (·.assign .auto dest.name source.name ⟨.member source, converter, dest⟩),
        ignored, state)
    | (.refuse error, state) =>
      let (outcome, ignored, state) := bridgeMembers dialogue rest
        (ignored.insert (Text.fold source.name) .unbridged)
        (dialogue.report (.notBridged dest.name error) state)
      (outcome.map (·.leaveOut source.name), ignored, state)
    | (.panic text, state) => (.error text, ignored, state)

/-- The composition of a new plan, with the configuration as the build leaves it. -/
def compose (dialogue : Dialogue σ κ) (sources dests : List (Property Record)) (config : Config κ)
    (state : σ) : Except String (Composition κ) × Config κ × σ :=
  let (candidates, ignored, state) :=
    matchMembers dialogue dests config.custom.contains sources config.ignored state
  let (outcome, ignored, state) := bridgeMembers dialogue candidates ignored state
  (outcome.map (·.append (.ofCustom ignored config.custom.entries)),
    { config with ignored := ignored }, state)

end Plan

end RecordMapping
