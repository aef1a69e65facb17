import RecordMapping.Erased
import RecordMapping.Text.Lowercase

namespace RecordMapping

/-- Name and type of one side of an assignment. -/
structure Signature where
  name : String
  valueType : ValueType
  deriving Repr, DecidableEq, Inhabited

/-- A member of `α`, readable when it has a getter and writable when it has a setter. Uses of a
logged member leave an entry in the log. -/
structure Property (α : Type) where
  name : String
  valueType : ValueType
  get? : Option (α → Value)
  set? : Option (α → Value → α)
  logged : Bool

namespace Property

variable {α β γ : Type}

def signature (property : Property α) : Signature := ⟨property.name, property.valueType⟩

def isReadable (property : Property α) : Bool := property.get?.isSome

def isWritable (property : Property α) : Bool := property.set?.isSome

/-- The same member seen from a type that embeds `α`: `outer` reaches the embedded part, and
`update` changes it in place. -/
def lift (property : Property α) (outer : β → α) (update : (α → α) → β → β) : Property β where
  name := property.name
  valueType := property.valueType
  get? := property.get?.map fun get owner => get (outer owner)
  set? := property.set?.map fun set owner value => update (fun part => set part value) owner
  logged := property.logged

def shown (property : Property α) : String :=
  Text.shown "Property"
    [("name", Text.quoted property.name), ("value_type", Text.quoted property.valueType.name),
      ("readable", Text.shownBool property.isReadable),
      ("writable", Text.shownBool property.isWritable)] true

@[simp] theorem isReadable_lift (property : Property α) (outer : β → α)
    (update : (α → α) → β → β) :
    (property.lift outer update).isReadable = property.isReadable := by
  simp [isReadable, lift]

@[simp] theorem isWritable_lift (property : Property α) (outer : β → α)
    (update : (α → α) → β → β) :
    (property.lift outer update).isWritable = property.isWritable := by
  simp [isWritable, lift]

/-- The first member whose name is `name` up to case. -/
def named? (properties : List (Property α)) (name : String) : Option (Property α) :=
  properties.find? fun property => Text.fold property.name = Text.fold name

/-- The named member, or the error that the type called `type` has none of that name. -/
def member (type : String) (properties : List (Property α)) (name : String) :
    Except MappingError (Property α) :=
  match named? properties name with
  | some property => .ok property
  | none => .error (.unknownMember type name)

/-- The named member, provided that it is usable. -/
def usableMember (usable : Property α → Bool) (refusal : String → String → MappingError)
    (type : String) (properties : List (Property α)) (name : String) :
    Except MappingError (Property α) :=
  match member type properties name with
  | .error error => .error error
  | .ok property =>
    if usable property then .ok property else .error (refusal type property.name)

/-- The named member, provided that it can be read. -/
def readableMember : String → List (Property α) → String → Except MappingError (Property α) :=
  usableMember isReadable .notReadable

/-- The named member, provided that it can be written. -/
def writableMember : String → List (Property α) → String → Except MappingError (Property α) :=
  usableMember isWritable .notWritable

variable {properties : List (Property α)} {type name : String} {property : Property α}

theorem fold_of_named? (found : named? properties name = some property) :
    Text.fold property.name = Text.fold name := by
  simpa using List.find?_some found

theorem member_eq_ok_iff :
    member type properties name = .ok property ↔ named? properties name = some property := by
  unfold member
  cases named? properties name <;> simp

theorem usableMember_eq_ok_iff {usable : Property α → Bool}
    {refusal : String → String → MappingError} :
    usableMember usable refusal type properties name = .ok property ↔
      named? properties name = some property ∧ usable property = true := by
  unfold usableMember member
  cases named? properties name with
  | none => simp
  | some other =>
    by_cases allowed : usable other = true
    · simp only [allowed, if_true, Except.ok.injEq, Option.some.injEq]
      exact ⟨fun same => ⟨same, same ▸ allowed⟩, And.left⟩
    · have refused : other = property → usable property = false := by
        rintro rfl
        exact Bool.eq_false_iff.mpr allowed
      simpa [allowed] using refused

theorem readableMember_eq_ok_iff : readableMember type properties name = .ok property ↔
    named? properties name = some property ∧ property.isReadable = true :=
  usableMember_eq_ok_iff

theorem writableMember_eq_ok_iff : writableMember type properties name = .ok property ↔
    named? properties name = some property ∧ property.isWritable = true :=
  usableMember_eq_ok_iff

end Property

end RecordMapping
