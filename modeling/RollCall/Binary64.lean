/-!
# Doubles as exact numbers

A double is a signed multiple `m · 2^q` of a power of two, an infinity, or no number at all. The
functions here read a double that way, so that printing, grouping and ordering can be stated in
integer arithmetic. Main definitions: `parts` (the exact value), `integer?` (the integer it stands
for), `orderRank` (its place in the total order of bit patterns) and `ofInt` (the nearest double).
-/
namespace RollCall.Binary64

inductive Parts
  | nan
  | infinite (negative : Bool)
  | finite (negative : Bool) (mantissa : Nat) (exponent : Int)
deriving DecidableEq

/-- Sign, stored exponent and fraction are the leading bit, the next eleven and the last 52. -/
def parts (x : Float) : Parts :=
  let bits := x.toBits.toNat
  let negative := decide (0x8000000000000000 ≤ bits)
  let stored : Nat := (bits >>> 52) % 0x800
  let fraction : Nat := bits % 0x10000000000000
  if stored = 0x7FF then
    if fraction = 0 then .infinite negative else .nan
  else if stored = 0 then
    .finite negative fraction (-1074)
  else
    .finite negative (0x10000000000000 + fraction) (stored - 1075)

def isFinite (x : Float) : Bool :=
  match parts x with
  | .finite .. => true
  | _ => false

/-- The integer that `m · 2^q` is, if it is one. -/
def scaled? (mantissa : Nat) (exponent : Int) : Option Nat :=
  if 0 ≤ exponent then
    some (mantissa <<< exponent.toNat)
  else if mantissa % (1 <<< (-exponent).toNat) = 0 then
    some (mantissa >>> (-exponent).toNat)
  else
    none

/-- The integer a double is equal to; either zero is `0`. -/
def integer? (x : Float) : Option Int :=
  match parts x with
  | .finite negative mantissa exponent =>
    (scaled? mantissa exponent).map fun (n : Nat) => if negative then -(n : Int) else n
  | _ => none

/-- The place of a double in the total order of bit patterns: negative numbers by falling
magnitude, then `-0.0`, then `0.0`, then positive numbers by rising magnitude. -/
def orderRank (x : Float) : Int :=
  let bits := x.toBits.toNat
  if bits < 0x8000000000000000 then bits else 0x7FFFFFFFFFFFFFFF - bits

def totalCompare (x y : Float) : Ordering :=
  compare (orderRank x) (orderRank y)

/-- The IEEE order of two doubles: the zeros are equal, and a NaN is not comparable. -/
def compare? (x y : Float) : Option Ordering :=
  if x < y then some .lt else if x > y then some .gt else if x == y then some .eq else none

/-- The double nearest to an integer below `2^64` in magnitude, a tie going to the even mantissa. -/
def ofInt (n : Int) : Float :=
  if n < 0 then -n.natAbs.toUInt64.toFloat else n.natAbs.toUInt64.toFloat

def infinity : Float := Float.ofBits 0x7FF0000000000000

def nan : Float := Float.ofBits 0x7FF8000000000000

/-- The sum of doubles from left to right. An empty sum is `-0.0`, the neutral element of
addition. -/
def sum (xs : List Float) : Float :=
  xs.foldl (· + ·) (-0.0)

end RollCall.Binary64
