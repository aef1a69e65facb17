namespace RecordMapping.Binary64

def infinity : Nat := 0x7FF <<< 52

/-- The bits of a positive integer rounded to binary64, a half going to the even neighbour. A carry
out of the fraction raises the exponent by itself. -/
def ofPositive (n : Nat) : Nat :=
  let excess := n.log2 - 52
  let kept := if n.log2 ≤ 52 then n <<< (52 - n.log2) else n >>> excess
  let rest := if n.log2 ≤ 52 then 0 else n % (1 <<< excess)
  let half := (1 <<< excess) / 2
  let up := rest > half || (rest != 0 && rest == half && kept % 2 == 1)
  min infinity (((n.log2 + 1022) <<< 52) + kept + (if up then 1 else 0))

/-- The bits of an integer rounded to binary64. -/
def ofInt (n : Int) : UInt64 :=
  if n = 0 then 0
  else .ofNat (ofPositive n.natAbs + if n < 0 then 1 <<< 63 else 0)

/-- The bits without the sign. -/
def magnitude (bits : UInt64) : Nat := bits.toNat % (1 <<< 63)

def isNaN (bits : UInt64) : Bool := magnitude bits > infinity

/-- Equality of numbers: both zeros are one number and a NaN equals nothing. -/
def numericallyEqual (a b : UInt64) : Bool :=
  !isNaN a && !isNaN b && (a == b || (magnitude a == 0 && magnitude b == 0))

/-- Sixteen lower-case hexadecimal digits, the highest first. -/
def hex (bits : UInt64) : String :=
  let digits := Nat.toDigits 16 bits.toNat
  String.ofList (List.replicate (16 - digits.length) '0' ++ digits)

example : ofInt 1 = 0x3FF0000000000000 := by decide
example : ofInt (-3) = 0xC008000000000000 := by decide
example : ofInt (2 ^ 53 + 1) = ofInt (2 ^ 53) := by decide
example : ofInt (2 ^ 53 + 3) = ofInt (2 ^ 53 + 4) := by decide
example : ofInt (2 ^ 64 - 1) = 0x43F0000000000000 := by decide

end RecordMapping.Binary64
