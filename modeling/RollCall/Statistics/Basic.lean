import RollCall.Table.Basic

/-!
# Results of statistical tests, and the rows tests use

A test uses the rows in which none of its columns has a missing or infinite cell; truth values count
as `0` and `1`. A text in such a row is a fault.
-/
namespace RollCall

inductive TestFault
  | unknownColumn (name : String)
  | notNumeric (column : String) (cell : Cell)
  /-- The t-distribution has no such degrees of freedom. -/
  | badFreedom
  | groupCount (group : String) (found : Nat)
  | fewObservations (first : String) (n1 : Nat) (second : String) (n2 : Nat)
  | zeroVariance
  | fewPairs (found : Nat)
  | constantColumn
  | noPredictor
  | badPredictor (name : String)
  | fewRows (parameters found : Nat)
  | notFinite
  | singular
  /-- A fault known by its wording only. -/
  | stated (text : String)

def TestFault.message : TestFault → String
  | unknownColumn name => s!"unknown column '{name}'"
  | notNumeric column cell => s!"column '{column}' holds non-numeric value '{cell.display}'"
  | badFreedom => "failed to create t-distribution: Bad distribution parameters"
  | groupCount group found => s!"t-test needs exactly two groups in '{group}', found {found}"
  | fewObservations first n1 second n2 =>
    s!"t-test needs at least two observations per group ('{first}': {n1}, '{second}': {n2})"
  | zeroVariance => "t-test is undefined when both groups have zero variance"
  | fewPairs found => s!"correlation needs at least 3 complete rows, found {found}"
  | constantColumn => "correlation is undefined for a constant column"
  | noPredictor => "ols needs at least one predictor"
  | badPredictor name => s!"predictor '{name}' is repeated or reserved"
  | fewRows parameters found =>
    s!"ols with {parameters} parameters needs more than {parameters} complete rows, found {found}"
  | notFinite => "design matrix has non-finite entries"
  | singular => "design matrix is singular"
  | stated text => text

inductive TestResult
  /-- The statistic, its probability, and the sizes and labels of the two groups. -/
  | ttest (t p : Float) (n1 n2 : Nat) (first second : String)
  | correlation (r p : Float) (n : Nat)
  /-- Coefficients and their probabilities by name, the names in order. -/
  | ols (coefficients pValues : List (String × Float)) (rSquared : Float) (n : Nat)

namespace TestResult

def fieldsOf (xs : List (String × Float)) : Json :=
  .obj (xs.map fun (name, x) => (name, Json.ofFloat x))

def toJson : TestResult → Json
  | ttest t p n1 n2 first second =>
    .obj [("type", .str "ttest"), ("t", Json.ofFloat t), ("p", Json.ofFloat p), ("n1", .int n1),
      ("n2", .int n2), ("groups", .arr [.str first, .str second])]
  | correlation r p n =>
    .obj [("type", .str "correlation"), ("r", Json.ofFloat r), ("p", Json.ofFloat p), ("n", .int n)]
  | ols coefficients pValues rSquared n =>
    .obj [("type", .str "ols"), ("coefficients", fieldsOf coefficients),
      ("p_values", fieldsOf pValues), ("r_squared", Json.ofFloat rSquared), ("n", .int n)]

end TestResult

namespace Statistics

def number? (column : String) (c : Cell) : Except TestFault (Option Float) :=
  if c.isMissing then .ok none
  else
    match c with
    | .bool b => .ok (some (if b then 1.0 else 0.0))
    | .text _ => .error (.notNumeric column c)
    | c => .ok (c.toFloat?.filter Binary64.isFinite)

def cells (t : Table) (name : String) : Except TestFault (List Cell) :=
  match t.column? name with
  | some c => .ok c.cells
  | none => .error (.unknownColumn name)

/-- The numbers of a row, given as cells with their columns; nothing from the first on that is
missing. -/
def rowNumbers : List (String × Cell) → Except TestFault (Option (List Float))
  | [] => .ok (some [])
  | (name, c) :: row => do
    match ← number? name c with
    | none => return none
    | some x => return (← rowNumbers row).map (x :: ·)

def rowsOf (rows : Nat) (columns : List (List Cell)) : List (List Cell) :=
  columns.foldr (fun cells rest => cells.zipWith (· :: ·) rest) (List.replicate rows [])

/-- The numbers of every complete row. -/
def completeRows (t : Table) (names : List String) : Except TestFault (List (List Float)) := do
  let columns ← names.mapM (cells t)
  let rows ← (rowsOf t.rowCount columns).mapM fun row => rowNumbers (names.zip row)
  return rows.filterMap id

def columnOf (rows : List (List Float)) (i : Nat) : List Float :=
  rows.map fun row => row[i]?.getD Binary64.nan

def mean (xs : List Float) : Float :=
  Binary64.sum xs / Float.ofNat xs.length

def square (x : Float) : Float := x * x

def variance (xs : List Float) : Float :=
  let m := mean xs
  Binary64.sum (xs.map fun x => square (x - m)) / (Float.ofNat xs.length - 1.0)

end Statistics
end RollCall
