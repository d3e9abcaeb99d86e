import RollCall.Binary64

/-!
# The t-distribution

The probability that a variable with Student's t-distribution is farther from zero than a given
value, by the continued fraction of the incomplete beta function. With infinitely many degrees of
freedom the distribution is the normal one.
-/
namespace RollCall.Statistics

def gammaCoefficients : List Float :=
  [1.05142378581721974210, -3.45687097222016235469, 4.51227709466894823700,
   -2.98285225323576655721, 1.05639711577126713077, -0.195428773191645869583,
   0.0170970543404441224307, -0.000571926117404305781283, 0.00000463399473359905636708,
   -0.00000000271994908488607703910]

def gammaStart : Float := 0.0000248574089138753565546

def gammaShift : Float := 10.900511

/-- The logarithm of twice the root of e over pi. -/
def gammaScale : Float := 0.6207822376352452223455184457816472122518527279025978

def eulerNumber : Float := 2.718281828459045

def circleNumber : Float := 3.141592653589793

/-- The sum of the approximation, the coefficient `i` being divided by `divisor i`. -/
def gammaSum (divisor : Float → Float) : Float :=
  (gammaCoefficients.zipIdx 1).foldl (fun s (d, i) => s + d / divisor (Float.ofNat i)) gammaStart

def logGamma (x : Float) : Float :=
  if x < 0.5 then
    let s := gammaSum fun i => i - x
    circleNumber.log - (circleNumber * x).sin.log - s.log - gammaScale
      - (0.5 - x) * ((0.5 - x + gammaShift) / eulerNumber).log
  else
    let s := gammaSum fun i => x + i - 1.0
    s.log + gammaScale + (x - 0.5) * ((x - 0.5 + gammaShift) / eulerNumber).log

/-- Half the distance from one to the next double. -/
def precision : Float := 1.1102230246251565e-16

def smallest : Float := 2.2250738585072014e-308 / precision

/-- A number that is not too small to divide by. -/
def guarded (x : Float) : Float :=
  if x.abs < smallest then smallest else x

/-- The state of the continued fraction of the incomplete beta function. -/
structure Fraction where
  c : Float
  d : Float
  value : Float

/-- The quotients after a partial numerator `a`. -/
def Fraction.quotients (f : Fraction) (a : Float) : Float × Float :=
  (guarded (1.0 + a / f.c), 1.0 / guarded (1.0 + a * f.d))

/-- The continued fraction from its `m`-th pair of steps on, in at most `n` further pairs. -/
def fractionFrom (a b x : Float) (f : Fraction) (m : Nat) : Nat → Float
  | 0 => f.value
  | n + 1 =>
    let k := Float.ofNat m
    let k2 := k * 2.0
    let (c, d) := f.quotients (k * (b - k) * x / ((a - 1.0 + k2) * (a + k2)))
    let even : Fraction := ⟨c, d, f.value * d * c⟩
    let (c, d) := even.quotients (-(a + k) * (a + b + k) * x / ((a + k2) * (a + 1.0 + k2)))
    let odd : Fraction := ⟨c, d, even.value * (d * c)⟩
    if (d * c - 1.0).abs ≤ precision then odd.value else fractionFrom a b x odd (m + 1) n

def betaFraction (a b x : Float) : Float :=
  let d := 1.0 / guarded (1.0 - (a + b) * x / (a + 1.0))
  fractionFrom a b x ⟨1.0, d, d⟩ 1 140

/-- Whether a number is taken for zero or one: for zero within twice the precision of it, for one up
to the fourth double below it. -/
def isAtEnd (x : Float) : Bool :=
  x.abs ≤ 2.0 * precision || (1.0 - x).abs ≤ 4.0 * precision

/-- The factor in front of the continued fraction. -/
def betaFactor (a b x : Float) : Float :=
  if isAtEnd x then 0.0
  else
    (logGamma (a + b) - logGamma a - logGamma b + a * x.log + b * (1.0 - x).log).exp

def incompleteBeta (a b x : Float) : Float :=
  if (a + 1.0) / (a + b + 2.0) ≤ x then
    1.0 - betaFactor a b x * betaFraction b a (1.0 - x) / b
  else betaFactor a b x * betaFraction a b x / a

/-- The tail of the normal distribution beyond `x` in either direction, by its power series or, far
from zero, by its continued fraction. -/
def normalTails (x : Float) : Float :=
  let density := (-x * x / 2.0).exp * (2.0 / circleNumber).sqrt
  if x < 3.0 then
    let (_, sum) := (List.range 200).foldl (fun (term, sum) i =>
      let term := term * x * x / (2.0 * Float.ofNat i + 3.0)
      (term, sum + term)) (x, x)
    1.0 - density * sum
  else
    density / (List.range 200).foldr (fun i rest => x + Float.ofNat (i + 1) / rest) x

/-- The probability of a value below `t`, which is not negative. -/
def cumulative (t freedom : Float) : Float :=
  if freedom == Binary64.infinity then 1.0 - 0.5 * normalTails t
  else
    let half := 0.5 * incompleteBeta (freedom / 2.0) 0.5 (freedom / (freedom + t * t))
    if t ≤ 0.0 then half else 1.0 - half

end RollCall.Statistics
