import RollCall.Binary64

/-!
# Matrices of doubles

Small matrices as lists of rows, with the products that a least-squares fit is made of.
-/
namespace RollCall.Statistics

abbrev Matrix := List (List Float)

namespace Matrix

/-- The product of two vectors, summed from left to right. -/
def dot (xs ys : List Float) : Float :=
  (xs.zipWith (· * ·) ys).foldl (· + ·) 0.0

def apply (m : Matrix) (v : List Float) : List Float :=
  m.map fun row => dot row v

/-- The products of the columns of a matrix with each other. -/
def gram (columns : List (List Float)) : Matrix :=
  columns.map fun c => columns.map fun d => dot c d

def entry (m : Matrix) (i j : Nat) : Float :=
  ((m[i]?.getD [])[j]?).getD 0.0

end Matrix

end RollCall.Statistics
