import RollCall.Statistics.Basic
import RollCall.Statistics.LeastSquares

/-!
# Statistical tests

Welch's t-test between two groups, the correlation of two columns, and the least-squares fit of a
column by others.
-/
namespace RollCall

inductive Test
  | ttest (value group : String)
  | correlation (x y : String)
  | ols (y : String) (x controls : List String)
deriving DecidableEq

namespace Statistics

def clamp (low high x : Float) : Float :=
  if x < low then low else if high < x then high else x

variable [Library]

/-- The probability of a value at least as far from zero as `t`. -/
def tails (t freedom : Float) : Float :=
  clamp 0.0 1.0 (2.0 * (1.0 - Library.cumulative t.abs freedom))

/-- The probability of a statistic at least as far from zero as `t`. -/
def twoSided (t freedom : Float) : Except TestFault Float :=
  if t.isNaN then .ok Binary64.nan
  else if freedom > 0.0 then .ok (tails t freedom)
  else .error .badFreedom

structure Sample where
  key : Key
  label : String
  values : List Float

/-- A further number of the group of a cell. The groups stand in the order of their keys. -/
def addTo (group : Cell) (x : Float) : List Sample → List Sample
  | [] => [⟨group.key, group.display, [x]⟩]
  | s :: samples =>
    match Key.compare group.key s.key with
    | .lt => ⟨group.key, group.display, [x]⟩ :: s :: samples
    | .eq => { s with values := s.values ++ [x] } :: samples
    | .gt => s :: addTo group x samples

/-- The groups of the rows whose group is not missing and whose value is a number. -/
def samples (value : String) (values groups : List Cell) : Except TestFault (List Sample) :=
  (values.zip groups).foldlM (fun samples (v, g) => do
    if g.isMissing then return samples
    else
      match ← number? value v with
      | some x => return addTo g x samples
      | none => return samples) []

/-- Welch's statistic of two samples and its degrees of freedom, unless neither sample varies. -/
def welch (xs ys : List Float) : Except TestFault (Float × Float) :=
  let n1 := Float.ofNat xs.length
  let n2 := Float.ofNat ys.length
  let v1 := variance xs / n1
  let v2 := variance ys / n2
  let total := v1 + v2
  if total ≤ 0.0 then .error .zeroVariance
  else
    .ok ((mean xs - mean ys) / total.sqrt,
      square total / (square v1 / (n1 - 1.0) + square v2 / (n2 - 1.0)))

def ttest (t : Table) (value group : String) : Except TestFault TestResult := do
  let values ← cells t value
  let groups ← cells t group
  match ← samples value values groups with
  | [a, b] =>
    let n1 := a.values.length
    let n2 := b.values.length
    if n1 < 2 || n2 < 2 then .error (.fewObservations a.label n1 b.label n2)
    else
      let (statistic, freedom) ← welch a.values b.values
      return .ttest statistic (← twoSided statistic freedom) n1 n2 a.label b.label
  | found => .error (.groupCount group found.length)

/-- The sums of the products of deviations of two columns, with each other and with themselves. -/
def deviations (xs ys : List Float) : Float × Float × Float :=
  let mx := mean xs
  let my := mean ys
  (xs.zip ys).foldl (fun (sxy, sxx, syy) (x, y) =>
    (sxy + (x - mx) * (y - my), sxx + square (x - mx), syy + square (y - my))) (0.0, 0.0, 0.0)

def correlationOf (xs ys : List Float) : Except TestFault TestResult := do
  let n := xs.length
  if n < 3 then .error (.fewPairs n)
  else
    let (sxy, sxx, syy) := deviations xs ys
    if sxx == 0.0 || syy == 0.0 then .error .constantColumn
    else
      let r := clamp (-1.0) 1.0 (sxy / (sxx * syy).sqrt)
      let freedom := Float.ofNat (n - 2)
      let p ←
        if r.abs ≥ 1.0 then .ok 0.0
        else twoSided (r * (freedom / (1.0 - r * r)).sqrt) freedom
      return .correlation r p n

def correlation (t : Table) (x y : String) : Except TestFault TestResult := do
  let rows ← completeRows t [x, y]
  correlationOf (columnOf rows 0) (columnOf rows 1)

/-- The first predictor that is the response, the intercept or one of those before it. -/
def badPredictor? (y : String) (before : List String) : List String → Option String
  | [] => none
  | p :: predictors =>
    if p = y ∨ p = "const" ∨ p ∈ before then some p
    else badPredictor? y (before ++ [p]) predictors

def byName (xs : List (String × Float)) : List (String × Float) :=
  xs.mergeSort fun a b => a.1 ≤ b.1

/-- The greater number; no number is less than any other. -/
def atLeastZero (x : Float) : Float :=
  if x > 0.0 then x else 0.0

/-- The fit of the first number of every row by an intercept and the others, which belong to
predictors. -/
def olsOf (predictors : List String) (rows : List (List Float)) : Except TestFault TestResult := do
  let n := rows.length
  let k := predictors.length + 1
  if n ≤ k then .error (.fewRows k n)
  else
    let response := columnOf rows 0
    let columns := List.replicate n 1.0 ::
      (List.range predictors.length).map fun i => columnOf rows (i + 1)
    match fit columns response with
    | .error .notFinite => .error .notFinite
    | .error .singular => .error .singular
    | .ok (coefficients, inverse) =>
      let residuals := rows.map fun row =>
        row.head?.getD 0.0 - Matrix.dot (1.0 :: row.tail) coefficients
      let left := residuals.foldl (fun s x => s + square x) 0.0
      let m := response.foldl (· + ·) 0.0 / Float.ofNat n
      let total := Binary64.sum (response.map fun x => square (x - m))
      let rSquared := if total > 0.0 then 1.0 - left / total else Binary64.nan
      let freedom := Float.ofNat (n - k)
      let labels := "const" :: predictors
      let pValues ← coefficients.zipIdx.mapM fun (b, j) =>
        let error := (atLeastZero (left / freedom * Matrix.entry inverse j j)).sqrt
        twoSided (b / error) freedom
      return .ols (byName (labels.zip coefficients)) (byName (labels.zip pValues)) rSquared n

def ols (t : Table) (y : String) (predictors : List String) : Except TestFault TestResult := do
  if predictors.isEmpty then .error .noPredictor
  else
    match badPredictor? y [] predictors with
    | some p => .error (.badPredictor p)
    | none => olsOf predictors (← completeRows t (y :: predictors))

end Statistics

namespace Test

def run [Library] (t : Table) : Test → Except TestFault TestResult
  | ttest value group => Statistics.ttest t value group
  | correlation x y => Statistics.correlation t x y
  | ols y x controls => Statistics.ols t y (x ++ controls)

end Test
end RollCall
