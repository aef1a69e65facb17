import RecordMapping.Binary64

namespace RecordMapping

/-- A dynamic value. A floating point number is kept by the bits of its binary64 form. -/
inductive Value where
  | null
  | bool (flag : Bool)
  | int (number : Int)
  | float (bits : UInt64)
  | str (text : String)
  | list (items : List Value)
  | record (fields : List (String × Value))
  deriving Inhabited, Repr

namespace Value

mutual

/-- The text of a value: strings as they are, floats by their bits, lists and records bracketed. -/
def text : Value → String
  | .null => "null"
  | .bool true => "true"
  | .bool false => "false"
  | .int number => toString number
  | .float bits => Binary64.hex bits
  | .str text => text
  | .list items => "[" ++ ",".intercalate (itemTexts items) ++ "]"
  | .record fields => "\x7b" ++ ",".intercalate (fieldTexts fields) ++ "\x7d"

def itemTexts : List Value → List String
  | [] => []
  | item :: rest => item.text :: itemTexts rest

def fieldTexts : List (String × Value) → List String
  | [] => []
  | (key, value) :: rest => (key ++ "=" ++ value.text) :: fieldTexts rest

end

mutual

/-- Structural sameness, in which floats compare as numbers: zeros are the same, a NaN is not. -/
def same : Value → Value → Bool
  | .null, .null => true
  | .bool a, .bool b => a == b
  | .int a, .int b => a == b
  | .float a, .float b => Binary64.numericallyEqual a b
  | .str a, .str b => a == b
  | .list as, .list bs => sameItems as bs
  | .record as, .record bs => sameFields as bs
  | _, _ => false

def sameItems : List Value → List Value → Bool
  | [], [] => true
  | a :: as, b :: bs => same a b && sameItems as bs
  | _, _ => false

def sameFields : List (String × Value) → List (String × Value) → Bool
  | [], [] => true
  | (k, a) :: as, (l, b) :: bs => k == l && same a b && sameFields as bs
  | _, _ => false

end

/-- Code points of a text, items of a list, fields of a record. -/
def length? : Value → Option Nat
  | .str text => some text.length
  | .list items => some items.length
  | .record fields => some fields.length
  | _ => none

mutual

def decideEq : (a b : Value) → Decidable (a = b)
  | .null, .null => isTrue rfl
  | .bool a, .bool b => if h : a = b then isTrue (by rw [h]) else isFalse (by simpa using h)
  | .int a, .int b => if h : a = b then isTrue (by rw [h]) else isFalse (by simpa using h)
  | .float a, .float b => if h : a = b then isTrue (by rw [h]) else isFalse (by simpa using h)
  | .str a, .str b => if h : a = b then isTrue (by rw [h]) else isFalse (by simpa using h)
  | .list as, .list bs =>
    match decideItems as bs with
    | isTrue h => isTrue (by rw [h])
    | isFalse h => isFalse (by simpa using h)
  | .record as, .record bs =>
    match decideFields as bs with
    | isTrue h => isTrue (by rw [h])
    | isFalse h => isFalse (by simpa using h)
  | .null, .bool _ | .null, .int _ | .null, .float _ | .null, .str _ | .null, .list _
  | .null, .record _
  | .bool _, .null | .bool _, .int _ | .bool _, .float _ | .bool _, .str _ | .bool _, .list _
  | .bool _, .record _
  | .int _, .null | .int _, .bool _ | .int _, .float _ | .int _, .str _ | .int _, .list _
  | .int _, .record _
  | .float _, .null | .float _, .bool _ | .float _, .int _ | .float _, .str _ | .float _, .list _
  | .float _, .record _
  | .str _, .null | .str _, .bool _ | .str _, .int _ | .str _, .float _ | .str _, .list _
  | .str _, .record _
  | .list _, .null | .list _, .bool _ | .list _, .int _ | .list _, .float _ | .list _, .str _
  | .list _, .record _
  | .record _, .null | .record _, .bool _ | .record _, .int _ | .record _, .float _
  | .record _, .str _ | .record _, .list _ => isFalse (by simp)

def decideItems : (as bs : List Value) → Decidable (as = bs)
  | [], [] => isTrue rfl
  | [], _ :: _ | _ :: _, [] => isFalse (by simp)
  | a :: as, b :: bs =>
    match decideEq a b, decideItems as bs with
    | isTrue h, isTrue hs => isTrue (by rw [h, hs])
    | isFalse h, _ => isFalse (by simp [h])
    | _, isFalse hs => isFalse (by simp [hs])

def decideFields : (as bs : List (String × Value)) → Decidable (as = bs)
  | [], [] => isTrue rfl
  | [], _ :: _ | _ :: _, [] => isFalse (by simp)
  | (k, a) :: as, (l, b) :: bs =>
    if hk : k = l then
      match decideEq a b, decideFields as bs with
      | isTrue h, isTrue hs => isTrue (by rw [hk, h, hs])
      | isFalse h, _ => isFalse (by simp [h])
      | _, isFalse hs => isFalse (by simp [hs])
    else isFalse (by simp [hk])

end

instance : DecidableEq Value := decideEq

end Value

end RecordMapping
