import RollCall.Statistics.Matrix

/-!
# Linear algebra of small matrices

The singular values of a symmetric matrix, by rotations that make it diagonal, and the inverse of a
matrix, in closed form up to size four and by elimination beyond.
-/
namespace RollCall.Statistics.Matrix

def ofEntries (n : Nat) (f : Nat → Nat → Float) : Matrix :=
  (List.range n).map fun i => (List.range n).map (f i)

def transpose (m : Matrix) : Matrix :=
  ofEntries m.length fun i j => entry m j i

def magnitude (m : Matrix) : Float :=
  m.flatten.foldl (fun high x => if high < x.abs then x.abs else high) 0.0

/-- The columns `p` and `q` turned by a rotation. -/
def turnColumns (p q : Nat) (c s : Float) (m : Matrix) : Matrix :=
  m.map fun row =>
    let x := row[p]?.getD 0.0
    let y := row[q]?.getD 0.0
    (row.set p (c * x - s * y)).set q (s * x + c * y)

/-- A symmetric matrix turned so that its entry at `p` and `q` vanishes. -/
def annihilate (m : Matrix) (p q : Nat) : Matrix :=
  let a := entry m p q
  if a == 0.0 then m
  else
    let theta := (entry m q q - entry m p p) / (2.0 * a)
    let t := (if theta < 0.0 then -1.0 else 1.0) / (theta.abs + (theta * theta + 1.0).sqrt)
    let c := 1.0 / (t * t + 1.0).sqrt
    transpose (turnColumns p q c (t * c) (transpose (turnColumns p q c (t * c) m)))

def pairs (n : Nat) : List (Nat × Nat) :=
  (List.range n).flatMap fun q => (List.range q).map fun p => (p, q)

/-- The singular values of a symmetric matrix, after enough rotations to make it diagonal. -/
def singularValues (m : Matrix) : List Float :=
  let scale := magnitude m
  let start := m.map fun row => row.map (· / scale)
  let turned := (List.range 40).foldl (fun m _ =>
    (pairs m.length).foldl (fun m (p, q) => annihilate m p q) m) start
  (List.range m.length).map fun i => (entry turned i i).abs * scale

def without (xs : List α) (i : Nat) : List α :=
  xs.eraseIdx i

def determinant3 : Matrix → Float
  | [[a, b, c], [d, e, f], [g, h, i]] =>
    a * e * i - a * h * f - b * d * i + b * g * f + c * d * h - c * g * e
  | _ => 0.0

def cofactor (m : Matrix) (i j : Nat) : Float :=
  let minor := determinant3 ((without m i).map fun row => without row j)
  if (i + j) % 2 = 0 then minor else -minor

/-- The row with the largest leading entry, and the other rows. -/
def pivot? (rows : Matrix) : Option (List Float × Matrix) :=
  let size (row : List Float) : Float := (row.head?.getD 0.0).abs
  match rows with
  | [] => none
  | first :: rest =>
    let (best, others) := rest.foldl (fun (best, others) row =>
      if size best < size row then (row, others ++ [best]) else (best, others ++ [row])) (first, [])
    some (best, others)

/-- Rows reduced to a triangle; every row keeps its entries from the diagonal on. -/
def triangle? : Nat → Matrix → Option Matrix
  | 0, _ => some []
  | n + 1, rows => do
    let (best, others) ← pivot? rows
    match best with
    | [] => none
    | head :: tail =>
      if head == 0.0 then none
      else
        let inverse := 1.0 / head
        let reduced := others.map fun row =>
          let factor := row.head?.getD 0.0 * inverse
          row.tail.zipWith (fun x y => x - factor * y) tail
        return best :: (← triangle? n reduced)

/-- The solutions of a triangle of equations in `n` unknowns with several right sides. -/
def solveTriangle (n : Nat) : Matrix → Matrix
  | [] => []
  | row :: rows =>
    let below := solveTriangle (n - 1) rows
    match row with
    | [] => []
    | head :: tail =>
      let coefficients := tail.take (n - 1)
      let right := tail.drop (n - 1)
      let solved := (coefficients.zip below).foldr (fun (a, solution) right =>
        right.zipWith (fun r x => r - a * x) solution) right
      solved.map (· / head) :: below

def eliminate? (m : Matrix) : Option Matrix :=
  let n := m.length
  let extended := m.zipIdx.map fun (row, i) =>
    row ++ (List.range n).map fun j => if i = j then 1.0 else 0.0
  (triangle? n extended).map (solveTriangle n)

/-- The inverse of a matrix, if it has one. Small matrices have it in closed form. -/
def inverse? (m : Matrix) : Option Matrix :=
  match m with
  | [[a]] => if a == 0.0 then none else some [[1.0 / a]]
  | [[a, b], [c, d]] =>
    let det := a * d - c * b
    if det == 0.0 then none else some [[d / det, -b / det], [-c / det, a / det]]
  | [[a, b, c], [d, e, f], [g, h, i]] =>
    let minor1 := e * i - h * f
    let minor2 := d * i - g * f
    let minor3 := d * h - g * e
    let det := a * minor1 - b * minor2 + c * minor3
    if det == 0.0 then none
    else some
      [[minor1 / det, (c * h - i * b) / det, (b * f - e * c) / det],
       [-minor2 / det, (a * i - g * c) / det, (c * d - f * a) / det],
       [minor3 / det, (b * g - h * a) / det, (a * e - d * b) / det]]
  | [first, _, _, _] =>
    let det := dot first ((List.range 4).map fun j => cofactor m 0 j)
    if det == 0.0 then none
    else
      let inverse := 1.0 / det
      some (ofEntries 4 fun i j => cofactor m j i * inverse)
  | m => eliminate? m

end RollCall.Statistics.Matrix
