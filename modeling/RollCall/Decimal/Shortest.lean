import RollCall.Binary64

/-!
# The shortest decimal of a double

A double `m · 2^q` is read back from every real of the interval around it. The shortest decimal is
sought on the grids of the multiples of `10^k`, from coarse to fine: on each only the two neighbours
of the value can be the first to fall into the interval, and the first grid with a hit has the
fewest digits. All tests are exact, on natural numbers.
-/
namespace RollCall

structure Decimal where
  digits : Nat
  exponent : Int
deriving DecidableEq

namespace Decimal

/-- Which of two equally near decimals is taken. -/
inductive Tie
  | even
  | up
deriving DecidableEq

/-- The reals that round to a double, counted in quarters of its last place: from `low` to `high`
around `value`, each to be divided by `unit`. The ends belong to it when `closed`. -/
structure Neighbourhood where
  low : Nat
  value : Nat
  high : Nat
  unit : Nat
  closed : Bool
deriving DecidableEq

/-- Half a place to each side, but a quarter below a power of two, where the doubles lie closer. -/
def neighbourhood (mantissa : Nat) (exponent : Int) : Neighbourhood :=
  let below := if mantissa = 0x10000000000000 ∧ -1074 < exponent then 1 else 2
  let factor := 1 <<< (exponent - 2).toNat
  { low := (4 * mantissa - below) * factor
    value := 4 * mantissa * factor
    high := (4 * mantissa + 2) * factor
    unit := 1 <<< (2 - exponent).toNat
    closed := mantissa % 2 = 0 }

/-- Whether `digits · 10^exponent` lies in the neighbourhood. -/
def Neighbourhood.holds (n : Neighbourhood) (digits : Nat) (exponent : Int) : Bool :=
  let place := digits * n.unit * Nat.pow 10 exponent.toNat
  let shift := Nat.pow 10 (-exponent).toNat
  if n.closed then
    n.low * shift ≤ place && place ≤ n.high * shift
  else
    n.low * shift < place && place < n.high * shift

/-- The decimal of the grid `10^exponent` that lies in the neighbourhood, the nearer one of two. -/
def Neighbourhood.onGrid? (n : Neighbourhood) (tie : Tie) (exponent : Int) : Option Decimal :=
  let step := n.unit * Nat.pow 10 exponent.toNat
  let value := n.value * Nat.pow 10 (-exponent).toNat
  let under := value / step
  let nearer :=
    match compare (2 * (value % step)) step with
    | .lt => under
    | .gt => under + 1
    | .eq => if tie = .up ∨ under % 2 = 1 then under + 1 else under
  match n.holds under exponent, n.holds (under + 1) exponent with
  | false, false => none
  | true, false => some ⟨under, exponent⟩
  | false, true => some ⟨under + 1, exponent⟩
  | true, true => some ⟨nearer, exponent⟩

/-- The first hit on the grids `10^exponent`, `10^(exponent - 1)`, … -/
def Neighbourhood.search (n : Neighbourhood) (tie : Tie) : Nat → Int → Decimal
  | 0, exponent => ⟨n.value / n.unit, exponent⟩
  | grids + 1, exponent =>
    (n.onGrid? tie exponent).getD (n.search tie grids (exponent - 1))

/-- The decimal with the fewest digits that reads back as `mantissa · 2^exponent`, the nearest of
those. Seventeen digits always read back, and the first grid lies at most three places above the
leading digit, so twenty grids hold a hit. -/
def shortest (tie : Tie) (mantissa : Nat) (exponent : Int) : Decimal :=
  if mantissa = 0 then
    ⟨0, 0⟩
  else
    let bitLength : Int := mantissa.log2 + 1 + exponent
    (neighbourhood mantissa exponent).search tie 20 (bitLength * 30103 / 100000 + 1)

end Decimal
end RollCall
