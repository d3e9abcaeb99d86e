import RollCall.Library

/-!
# Least squares

`fit` gives the coefficients of a least-squares fit with the inverse they were found with. The
singular values of the products of the columns decide whether they are to be inverted at all.
-/
namespace RollCall.Statistics

inductive FitFault
  | notFinite
  | singular
deriving DecidableEq

/-- The share of the largest singular value below which another one counts as zero. -/
def rankShare : Float := 1.0e-10

/-- The greatest of some numbers; one that is no number is passed over if there is another. -/
def largest : List Float → Float
  | [] => 0.0
  | x :: xs => xs.foldl (fun high x => if high.isNaN || high < x then x else high) x

variable [Library]

/-- The coefficients of the fit of `response` by `columns`, and the inverse of their products. -/
def fit (columns : List (List Float)) (response : List Float) :
    Except FitFault (List Float × Matrix) :=
  let products := Matrix.gram columns
  let values := Library.singularValues products
  let tolerance := largest values * rankShare
  if !Binary64.isFinite tolerance then .error .notFinite
  else if values.countP (fun x => x > tolerance) < columns.length then .error .singular
  else
    match Library.inverse? products with
    | none => .error .singular
    | some inverse => .ok (inverse.apply (columns.map fun c => Matrix.dot c response), inverse)

end RollCall.Statistics
