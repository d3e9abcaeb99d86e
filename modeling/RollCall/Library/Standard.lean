import RollCall.Library
import RollCall.Library.LinearAlgebra
import RollCall.Library.StudentT
import RollCall.Pattern.Matching
import RollCall.Pattern.Reader

/-!
# The library that the program runs with

The digits of a JSON number are kept as far as they fit in 64 bits, and their double is multiplied
or divided by a power of ten. What comes of it is not always the double nearest to the number.
-/
namespace RollCall

namespace Decimal.Literal

/-- The digits that fit in 64 bits and the exponent that belongs to them, after at most `n` of the
last digits are left out. -/
def shortened (digits : Nat) (exponent : Int) : Nat → Nat × Int
  | 0 => (digits, exponent)
  | n + 1 =>
    if digits < 0x10000000000000000 then (digits, exponent)
    else shortened (digits / 10) (exponent + 1) n

def powerOfTen (n : Nat) : Float := Float.ofScientific 1 false n

/-- A double times a power of ten. The powers have at most 308 zeros; after `n` divisions by the
greatest of them nothing is left. -/
def scaled (x : Float) (exponent : Int) : Nat → Float
  | 0 => 0.0
  | n + 1 =>
    if exponent.natAbs ≤ 308 then
      if 0 ≤ exponent then x * powerOfTen exponent.natAbs else x / powerOfTen exponent.natAbs
    else if x == 0.0 then x
    else if 0 ≤ exponent then Binary64.infinity
    else scaled (x / powerOfTen 308) (exponent + 308) n

def quickFloat (l : Literal) : Float :=
  let (digits, exponent) := shortened l.digits l.exponent l.digits.log2
  let x := scaled digits.toUInt64.toFloat exponent 3
  if l.negative then -x else x

end Decimal.Literal

instance Library.standard : Library where
  compile text :=
    match Pattern.read? text with
    | some p => .ok p.occursIn
    | none => .error "regex parse error"
  cumulative := Statistics.cumulative
  singularValues := Statistics.Matrix.singularValues
  inverse? := Statistics.Matrix.inverse?
  decimal := Decimal.Literal.quickFloat
  syntaxFault _ := "syntax error"

end RollCall
