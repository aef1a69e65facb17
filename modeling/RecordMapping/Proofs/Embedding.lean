import RecordMapping.Assignment
import RecordMapping.Expression
import RecordMapping.Schema

namespace RecordMapping

variable {α β γ δ : Type}

/-- Accessors of a value embedded in another: `outer` reaches it, and `update` changes in place the
very value that `outer` reaches. -/
structure Embedding (α β : Type) where
  outer : β → α
  update : (α → α) → β → β
  outer_update : ∀ change owner, outer (update change owner) = change (outer owner)

/-- A part of the owner lies beside the embedded value if changes of this do not touch it. -/
def Embedding.Spares (embedding : Embedding α β) (part : β → δ) : Prop :=
  ∀ change owner, part (embedding.update change owner) = part owner

/-- Values embedded in one another, from the innermost outwards. -/
inductive Embeddings : Type → Type → Type 1 where
  | whole {α : Type} : Embeddings α α
  | within {α β γ : Type} (embedding : Embedding α β) (further : Embeddings β γ) : Embeddings α γ

namespace Embeddings

def inner {α γ : Type} : Embeddings α γ → γ → α
  | .whole, owner => owner
  | .within embedding further, owner => embedding.outer (inner further owner)

def modify {α γ : Type} : Embeddings α γ → (α → α) → γ → γ
  | .whole, change => change
  | .within embedding further, change => modify further (embedding.update change)

theorem inner_modify (chain : Embeddings α γ) (change : α → α) (owner : γ) :
    chain.inner (chain.modify change owner) = change (chain.inner owner) := by
  induction chain with
  | whole => rfl
  | within embedding further ih => simp only [inner, modify, ih, embedding.outer_update]

def composed (chain : Embeddings α γ) : Embedding α γ where
  outer := chain.inner
  update := chain.modify
  outer_update := chain.inner_modify

/-- Parts of the outermost value off the way to the innermost one: at each embedding, what lies
beside the embedded value in the value next to it. -/
inductive Beside : {α γ : Type} → Embeddings α γ → (γ → δ) → Prop where
  | here {α β γ : Type} {embedding : Embedding α β} {part : β → δ} (spares : embedding.Spares part)
    (further : Embeddings β γ) : Beside (.within embedding further) fun owner =>
      part (further.inner owner)
  | further {α β γ : Type} {further : Embeddings β γ} {part : γ → δ} (beside : Beside further part)
    (embedding : Embedding α β) : Beside (.within embedding further) part

/-- Nothing off the way is touched. -/
theorem Beside.spares {chain : Embeddings α γ} {part : γ → δ} (beside : chain.Beside part) :
    chain.composed.Spares part := by
  induction beside with
  | @here α β γ embedding part spares further =>
    intro change owner
    have reached := further.inner_modify (embedding.update change) owner
    exact (congrArg part reached).trans (spares change _)
  | further _ embedding ih =>
    intro change owner
    exact ih (embedding.update change) owner

end Embeddings

namespace Property

def through (property : Property α) (embedding : Embedding α β) : Property β :=
  property.lift embedding.outer embedding.update

def throughAll {α γ : Type} (property : Property α) : Embeddings α γ → Property γ
  | .whole => property
  | .within embedding further => throughAll (property.through embedding) further

/-- Lifting twice is lifting once, through the accessors taken together. -/
theorem lift_lift (property : Property α) (first : Embedding α β) (second : Embedding β γ) :
    (property.through first).through second =
      property.lift (first.outer ∘ second.outer) (second.update ∘ first.update) := by
  simp [through, lift, Function.comp_def]

theorem throughAll_eq (property : Property α) (chain : Embeddings α γ) :
    property.throughAll chain = property.through chain.composed := by
  induction chain with
  | whole =>
    simp [throughAll, through, lift, Embeddings.composed, Embeddings.inner, Embeddings.modify]
  | within embedding further ih =>
    rw [throughAll, ih, lift_lift]
    rfl

/-- A value that was written is read back, for values of the member's type. -/
def ReadsBack (ofType : ValueType → Value → Prop) (property : Property α) : Prop :=
  ∀ get set, property.get? = some get → property.set? = some set →
    ∀ owner value, ofType property.valueType value → get (set owner value) = value

/-- A member that stands for `property` in the values around its owner. -/
structure Faithful (property : Property α) (chain : Embeddings α γ) (lifted : Property γ) :
    Prop where
  signature : lifted.signature = property.signature
  readable : lifted.isReadable = property.isReadable
  writable : lifted.isWritable = property.isWritable
  logged : lifted.logged = property.logged
  reads : ∀ get, lifted.get? = some get → ∃ original, property.get? = some original ∧
    ∀ owner, get owner = original (chain.inner owner)
  /-- Writing changes the innermost value as the original does, and nothing else. -/
  writes : ∀ set, lifted.set? = some set → ∃ original, property.set? = some original ∧
    ∀ owner value, chain.inner (set owner value) = original (chain.inner owner) value ∧
      ∀ {δ : Type} (part : γ → δ), chain.Beside part → part (set owner value) = part owner
  readsBack : ∀ ofType, property.ReadsBack ofType → lifted.ReadsBack ofType
  /-- However it was lifted, it is the member lifted once, and so it is when lifted further. -/
  once : lifted = property.through chain.composed ∧
    ∀ {ε : Type} (next : Embedding γ ε), lifted.through next =
      property.lift (chain.inner ∘ next.outer) (next.update ∘ chain.modify)

variable {property : Property α} {chain : Embeddings α γ}

@[simp] theorem name_throughAll (property : Property α) (chain : Embeddings α γ) :
    (property.throughAll chain).name = property.name := by
  rw [throughAll_eq]
  rfl

@[simp] theorem valueType_throughAll (property : Property α) (chain : Embeddings α γ) :
    (property.throughAll chain).valueType = property.valueType := by
  rw [throughAll_eq]
  rfl

@[simp] theorem logged_throughAll (property : Property α) (chain : Embeddings α γ) :
    (property.throughAll chain).logged = property.logged := by
  rw [throughAll_eq]
  rfl

@[simp] theorem isReadable_throughAll (property : Property α) (chain : Embeddings α γ) :
    (property.throughAll chain).isReadable = property.isReadable := by
  rw [throughAll_eq]
  exact isReadable_lift property _ _

@[simp] theorem isWritable_throughAll (property : Property α) (chain : Embeddings α γ) :
    (property.throughAll chain).isWritable = property.isWritable := by
  rw [throughAll_eq]
  exact isWritable_lift property _ _

theorem get?_throughAll (property : Property α) (chain : Embeddings α γ) :
    (property.throughAll chain).get? =
      property.get?.map fun original owner => original (chain.inner owner) := by
  rw [throughAll_eq]
  rfl

theorem set?_throughAll (property : Property α) (chain : Embeddings α γ) :
    (property.throughAll chain).set? = property.set?.map fun original owner value =>
      chain.modify (fun part => original part value) owner := by
  rw [throughAll_eq]
  rfl

theorem ReadsBack.throughAll {ofType : ValueType → Value → Prop} (back : property.ReadsBack ofType)
    (chain : Embeddings α γ) : (property.throughAll chain).ReadsBack ofType := by
  intro get set reads writes owner value typed
  rw [get?_throughAll] at reads
  rw [set?_throughAll] at writes
  obtain ⟨read, readable, rfl⟩ := Option.map_eq_some_iff.mp reads
  obtain ⟨write, writable, rfl⟩ := Option.map_eq_some_iff.mp writes
  rw [valueType_throughAll] at typed
  dsimp only
  rw [chain.inner_modify]
  exact back read write readable writable _ value typed

theorem throughAll_faithful (property : Property α) (chain : Embeddings α γ) :
    property.Faithful chain (property.throughAll chain) where
  signature := by simp [signature]
  readable := isReadable_throughAll property chain
  writable := isWritable_throughAll property chain
  logged := logged_throughAll property chain
  reads get readable := by
    rw [get?_throughAll] at readable
    obtain ⟨original, found, rfl⟩ := Option.map_eq_some_iff.mp readable
    exact ⟨original, found, fun _ => rfl⟩
  writes set writable := by
    rw [set?_throughAll] at writable
    obtain ⟨original, found, rfl⟩ := Option.map_eq_some_iff.mp writable
    refine ⟨original, found, fun owner value => ⟨chain.inner_modify _ owner, ?_⟩⟩
    intro δ part beside
    exact beside.spares _ owner
  readsBack _ back := back.throughAll chain
  once := by
    refine ⟨throughAll_eq property chain, fun next => ?_⟩
    rw [throughAll_eq, lift_lift]
    rfl

end Property

namespace Record

@[simp] theorem part_updatePart (key : String) (change : Record → Record) (record : Record) :
    (record.updatePart key change).part key = change (record.part key) := by
  simp [part, updatePart, get, Value.fields]

theorem erase_insert (record : Record) (key : String) (value : Value) :
    (record.insert key value).erase key = record.erase key := by
  induction record with
  | nil => simp [insert, erase]
  | cons field rest ih =>
    obtain ⟨k, v⟩ := field
    by_cases same : k = key
    · simp [insert, erase, same]
    · by_cases before : k < key
      · simpa [insert, erase, same, before] using ih
      · simp [insert, erase, same, before]

end Record

namespace Embedding

/-- The record embedded under a key. What is no record there reads as the empty one, and a change
puts a record in its place. -/
def ofKey (key : String) : Embedding Record Record where
  outer := Record.part key
  update := Record.updatePart key
  outer_update := Record.part_updatePart key

/-- All fields but the one of the embedded record lie beside it. -/
theorem ofKey_spares (key : String) : (ofKey key).Spares (Record.erase · key) :=
  fun change owner => owner.erase_insert key (.record (change (owner.part key)))

end Embedding

/-- Records embedded in one another under the given keys, from the innermost outwards. -/
def Embeddings.ofKeys : List String → Embeddings Record Record
  | [] => .whole
  | key :: keys => .within (.ofKey key) (ofKeys keys)

/-- Off the way lie, in each record on it, all fields but that of the record embedded there. -/
theorem Embeddings.ofKeys_beside (early : List String) (key : String) (late : List String) :
    (ofKeys (early ++ key :: late)).Beside fun owner =>
      Record.erase ((ofKeys late).inner owner) key := by
  induction early with
  | nil => exact .here (Embedding.ofKey_spares key) (ofKeys late)
  | cons first rest ih => exact .further ih (.ofKey first)

namespace Property

theorem throughAll_concat (property : Property Record) (keys : List String) (key : String) :
    property.throughAll (.ofKeys (keys ++ [key])) =
      (property.throughAll (.ofKeys keys)).through (.ofKey key) := by
  induction keys generalizing property with
  | nil => rfl
  | cons first rest ih => exact ih (property.through (.ofKey first))

variable {κ : Type}

/-- Reading an embedded member leaves the same entry in the log and yields the same value as reading
the member of the innermost record. -/
theorem evaluate_throughAll [Closures κ] (schema : Schema) (property : Property Record)
    (chain : Embeddings Record Record) (owner : Record) :
    (Source.member (property.throughAll chain) : Source κ).evaluate schema owner =
      (Source.member property).evaluate schema (chain.inner owner) := by
  simp [Source.evaluate, get?_throughAll, Function.comp_def]

/-- Storing a value in an embedded member leaves the same entry in the log, or fails with the same
error, and does to the innermost record what storing it there does. -/
theorem store_throughAll (property : Property Record) (chain : Embeddings Record Record)
    (value : Erased) (owner : Record) :
    chain.inner <$> ((property.throughAll chain).store value owner :
        ExceptT MappingError (Script κ) Record) =
      property.store value (chain.inner owner) := by
  have kept (content : Value) : chain.inner (((property.throughAll chain).set?.map fun set =>
      set owner content).getD owner) =
        (property.set?.map fun set => set (chain.inner owner) content).getD
          (chain.inner owner) := by
    rw [set?_throughAll]
    cases property.set? with
    | none => rfl
    | some set => exact chain.inner_modify _ owner
  simp only [store, name_throughAll, valueType_throughAll, logged_throughAll, map_bind]
  refine bind_congr fun content => ?_
  cases property.logged <;> simp [← kept]

end Property

namespace Schema

variable {schema : Schema} {slot : Slot}

/-- The records embedded in records of a slot, by their keys from the innermost outwards. -/
inductive Embeds (schema : Schema) : List String → Slot → Slot → Prop where
  | own (slot : Slot) : Embeds schema [] slot slot
  | embedded {keys : List String} {home inner slot : Slot} {key : String}
    (declared : .embedded inner key ∈ (schema.layout slot).members)
    (within : Embeds schema keys home inner) : Embeds schema (keys ++ [key]) home slot

/-- Every member of a record type is a field of its own or one of an embedded record, lifted. -/
theorem embeds_of_mem {depth : Nat} {property : Property Record}
    (mem : property ∈ schema.propertiesWithin depth slot) :
    ∃ keys home field, schema.Embeds keys home slot ∧ keys.length < depth ∧
      .field field ∈ (schema.layout home).members ∧
      property = (field.property schema.default).throughAll (.ofKeys keys) := by
  induction depth generalizing slot property with
  | zero => simp [propertiesWithin] at mem
  | succ depth ih =>
    obtain ⟨member, declared, opened⟩ := List.mem_flatMap.mp mem
    cases member with
    | field field =>
      obtain rfl := List.mem_singleton.mp opened
      exact ⟨[], slot, field, .own slot, Nat.succ_pos depth, declared, rfl⟩
    | embedded inner key =>
      obtain ⟨original, listed, rfl⟩ := List.mem_map.mp opened
      obtain ⟨keys, home, field, within, short, owned, rfl⟩ := ih listed
      refine ⟨keys ++ [key], home, field, .embedded declared within, ?_, owned, ?_⟩
      · simpa using short
      · exact (Property.throughAll_concat _ keys key).symm

/-- A field gives back what fits its type. -/
theorem field_readsBack (field : Field) (defaults : Slot → Record) :
    (field.property defaults).ReadsBack fun type value => value.fit defaults type = value := by
  intro get set reads writes owner value fits
  simp only [Field.property, Option.ite_none_right_eq_some, Option.some.injEq] at reads writes
  obtain ⟨-, rfl⟩ := reads
  obtain ⟨-, rfl⟩ := writes
  have stored : (owner.insert field.key value).get field.key = value := by simp [Record.get]
  exact (congrArg (Value.fit defaults field.valueType) stored).trans fits

/-- Every member of a record type stands for a field, of that type or of one embedded in it, and
gives back what was written. Writing it leaves, in each of the records on the way to the innermost
one, all fields but that of the record embedded there. -/
theorem properties_faithful {property : Property Record} (mem : property ∈ schema.properties slot) :
    ∃ keys home field, schema.Embeds keys home slot ∧ .field field ∈ (schema.layout home).members ∧
      (field.property schema.default).Faithful (.ofKeys keys) property ∧
      (property.ReadsBack fun type value => value.fit schema.default type = value) ∧
      ∀ set, property.set? = some set → ∀ early key late, keys = early ++ key :: late →
        ∀ owner value, Record.erase ((Embeddings.ofKeys late).inner (set owner value)) key =
          Record.erase ((Embeddings.ofKeys late).inner owner) key := by
  obtain ⟨keys, home, field, embeds, -, declared, rfl⟩ := embeds_of_mem mem
  have faithful := Property.throughAll_faithful (field.property schema.default) (.ofKeys keys)
  refine ⟨keys, home, field, embeds, declared, faithful,
    (field_readsBack field schema.default).throughAll _, ?_⟩
  rintro set writable early key late rfl owner value
  obtain ⟨_, -, writes⟩ := faithful.writes set writable
  exact (writes owner value).2 _ (Embeddings.ofKeys_beside early key late)

end Schema

/-- Lifting is faithful at any depth, whatever the accessors. For records this is so up to the log
and the errors of reading and storing, and the members of every record type are lifted fields. -/
theorem lifting_faithful {κ : Type} [Closures κ] (schema : Schema) :
    (∀ {α γ : Type} (property : Property α) (chain : Embeddings α γ),
      property.Faithful chain (property.throughAll chain)) ∧
    (∀ (property : Property Record) (chain : Embeddings Record Record) (owner : Record),
      (Source.member (property.throughAll chain) : Source κ).evaluate schema owner =
          (Source.member property).evaluate schema (chain.inner owner) ∧
        ∀ value, chain.inner <$> ((property.throughAll chain).store value owner :
            ExceptT MappingError (Script κ) Record) =
          property.store value (chain.inner owner)) ∧
    ∀ slot, ∀ property ∈ schema.properties slot, ∃ keys home field,
      schema.Embeds keys home slot ∧ .field field ∈ (schema.layout home).members ∧
        (field.property schema.default).Faithful (.ofKeys keys) property ∧
        (property.ReadsBack fun type value => value.fit schema.default type = value) ∧
        ∀ set, property.set? = some set → ∀ early key late, keys = early ++ key :: late →
          ∀ owner value, Record.erase ((Embeddings.ofKeys late).inner (set owner value)) key =
            Record.erase ((Embeddings.ofKeys late).inner owner) key :=
  ⟨fun property chain => property.throughAll_faithful chain,
    fun property chain owner => ⟨property.evaluate_throughAll schema chain owner,
      fun value => property.store_throughAll chain value owner⟩,
    fun _ _ mem => Schema.properties_faithful mem⟩

/-- A record with a number of its own that embeds another record; the others have a number each. -/
def Schema.nested (base : Slot) : Schema where
  layout
    | 0 => ⟨[.embedded base "base", .field ⟨"total", .i32, .readWrite, "total", false⟩], []⟩
    | _ => ⟨[.field ⟨"id", .i32, .readWrite, "id", false⟩], []⟩

/-- Writing the embedded number replaces what is no record, and leaves the other number alone. -/
theorem lifting_of_nested :
    ∃ property ∈ (Schema.nested 1).properties 0, property.signature = ⟨"id", .i32⟩ ∧
      (property.ReadsBack fun type value => value.fit (Schema.nested 1).default type = value) ∧
      (property.set?.map fun set => set [("base", .null), ("total", .int 2)] (.int 7)) =
        some [("base", .record [("id", .int 7)]), ("total", .int 2)] := by
  let id : Field := ⟨"id", .i32, .readWrite, "id", false⟩
  have mem : (id.property (Schema.nested 1).default).through (.ofKey "base") ∈
      (Schema.nested 1).properties 0 := List.mem_cons_self
  obtain ⟨-, -, members⟩ := lifting_faithful (κ := Closure) (Schema.nested 1)
  obtain ⟨_, _, _, -, -, -, back, -⟩ := members 0 _ mem
  exact ⟨_, mem, rfl, back, by decide⟩

end RecordMapping
