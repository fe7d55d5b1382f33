/-!
# Decimal numerals

Reading whole numbers from ASCII digits, bounded by the machine word that has to hold them.
-/

namespace ViewLang

/-- The value of a digit character. -/
def digitValue (c : Char) : Nat :=
  c.toNat - '0'.toNat

/-- The value of a non-empty run of ASCII digits. -/
def readNat? (cs : List Char) : Option Nat :=
  if cs ≠ [] ∧ cs.all Char.isDigit then
    some (cs.foldl (fun n c => 10 * n + digitValue c) 0)
  else
    none

/-- Reads an optional sign and ASCII digits as a signed number of 64 bits. -/
def readInt64? (cs : List Char) : Option Int64 :=
  let signed : Option Int :=
    match cs with
    | '-' :: digits => (readNat? digits).map fun n => -(n : Int)
    | '+' :: digits => (readNat? digits).map Int.ofNat
    | digits => (readNat? digits).map Int.ofNat
  signed.bind fun n =>
    if Int64.minValue.toInt ≤ n ∧ n ≤ Int64.maxValue.toInt then some (Int64.ofInt n) else none

/-- Reads an optional plus sign and ASCII digits as an unsigned number of 64 bits. -/
def readWord? (cs : List Char) : Option Nat :=
  let digits := match cs with
    | '+' :: digits => digits
    | digits => digits
  (readNat? digits).filter (· < UInt64.size)

example : readInt64? ['-', '5'] = some (-5) := by decide

example : readInt64? ['1', '_', '0'] = none := by decide

example : readWord? ['+', '0', '7'] = some 7 := by decide

end ViewLang
