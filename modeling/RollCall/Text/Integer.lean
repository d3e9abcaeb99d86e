import RollCall.Decimal.Reading

/-!
# Integers in texts

A natural number is a run of ASCII digits after an optional plus sign; an integer may have a minus
sign instead. Nothing else may stand in the text.
-/
namespace RollCall.Text

def digitsToNat? (cs : List Char) : Option Nat :=
  if !cs.isEmpty && cs.all Char.isDigit then some (Decimal.natOfDigits cs) else none

def dropPlus : List Char → List Char
  | '+' :: cs => cs
  | cs => cs

/-- The natural number a text is, if it is below `bound`. -/
def toNatBelow? (bound : Nat) (s : String) : Option Nat :=
  (digitsToNat? (dropPlus s.toList)).filter (· < bound)

def toInt? (s : String) : Option Int :=
  match s.toList with
  | '-' :: cs => (digitsToNat? cs).map fun n => -(n : Int)
  | cs => (digitsToNat? (dropPlus cs)).map fun n => (n : Int)

end RollCall.Text
