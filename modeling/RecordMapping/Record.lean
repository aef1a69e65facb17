import RecordMapping.Value

namespace RecordMapping

abbrev Record := List (String × Value)

namespace Record

def get? : Record → String → Option Value
  | [], _ => none
  | (k, v) :: rest, key => if k = key then some v else get? rest key

/-- The value under `key`, null when there is none. -/
def get (record : Record) (key : String) : Value := (record.get? key).getD .null

def insert : Record → String → Value → Record
  | [], key, value => [(key, value)]
  | (k, v) :: rest, key, value =>
    if k = key then (key, value) :: rest
    else if k < key then (k, v) :: insert rest key value
    else (key, value) :: (k, v) :: rest

def erase (record : Record) (key : String) : Record := record.filter fun field => field.1 ≠ key

/-- Sorts fields by key; of two fields with one key the later stays. -/
def ofList (fields : List (String × Value)) : Record :=
  fields.foldl (fun record field => record.insert field.1 field.2) []

@[simp] theorem get?_insert (record : Record) (key other : String) (value : Value) :
    (record.insert key value).get? other =
      if key = other then some value else record.get? other := by
  induction record with
  | nil => simp [insert, get?]
  | cons field rest ih =>
    obtain ⟨k, v⟩ := field
    by_cases same : k = key
    · subst same
      by_cases hit : k = other <;> simp [insert, get?, hit]
    · by_cases before : k < key
      · by_cases hit : k = other
        · subst hit
          simp [insert, get?, same, before, Ne.symm same]
        · simp [insert, get?, same, before, hit, ih]
      · simp [insert, get?, same, before]

end Record

/-- The fields of a record value; any other value has none. -/
def Value.fields : Value → Record
  | .record fields => fields
  | _ => []

end RecordMapping
