import RollCall.CharSet.Basic

/-!
# Tables of code points

A property of characters is kept as text in which every item starts with hexadecimal code points:
`41-5A` is a range and `41-5A/2` every second code point of it, `3A:Po` the start of a run with a
label, and `41-5A/1+20` the characters of a range, one in every so many, with the distance to their
image. This module reads these forms.
-/
namespace RollCall.Unicode

def hexDigit? (c : Char) : Option Nat :=
  if c.isDigit then some (c.toNat - '0'.toNat)
  else if 'a' ≤ c ∧ c ≤ 'f' then some (c.toNat - 'a'.toNat + 10)
  else if 'A' ≤ c ∧ c ≤ 'F' then some (c.toNat - 'A'.toNat + 10)
  else none

def hexNat (cs : List Char) : Nat :=
  cs.foldl (fun n c => 16 * n + (hexDigit? c).getD 0) 0

/-- The hexadecimal number in front, and the rest. -/
def spanHex (cs : List Char) : Nat × List Char :=
  (hexNat (cs.takeWhile fun c => (hexDigit? c).isSome),
    cs.dropWhile fun c => (hexDigit? c).isSome)

def words (text : String) : List String :=
  ((text.splitOn "\n").flatMap (·.splitOn " ")).filter (· ≠ "")

def items (text : String) : List (List Char) :=
  (words text).map String.toList

/-- The range an item starts with, and the rest. -/
def spanRange (cs : List Char) : CodeRange × List Char :=
  match spanHex cs with
  | (a, '-' :: cs) => let (b, cs) := spanHex cs; (⟨a, b⟩, cs)
  | (a, cs) => (⟨a, a⟩, cs)

/-- Every `step`-th code point of a range as a range of its own; a step of one or none leaves the
range whole. -/
def everyNth (r : CodeRange) (step : Nat) : List CodeRange :=
  if step ≤ 1 then [r]
  else (List.range ((r.last - r.first) / step + 1)).map fun i =>
    ⟨r.first + i * step, r.first + i * step⟩

def tableSet (text : String) : CharSet :=
  CharSet.ofRanges ((items text).flatMap fun cs =>
    match spanRange cs with
    | (r, '/' :: cs) => everyNth r (spanHex cs).1
    | (r, _) => [r])

def labelled (cs : List Char) : Nat × String :=
  match spanHex cs with
  | (a, ':' :: label) => (a, String.ofList label)
  | (a, label) => (a, String.ofList label)

/-- The starts of the runs of a table with their labels, in rising order. -/
def bounds (text : String) : List (Nat × String) :=
  (items text).map labelled

/-- The runs between rising starts, with their labels; the last one goes on to the end. -/
def runs : List (Nat × α) → List (CodeRange × α)
  | (a, x) :: (b, y) :: rest => (⟨a, b - 1⟩, x) :: runs ((b, y) :: rest)
  | [(a, x)] => [(⟨a, CharSet.greatest⟩, x)]
  | [] => []

/-- The set of the runs whose labels satisfy a condition. -/
def runSet (rs : List (CodeRange × α)) (p : α → Bool) : CharSet :=
  CharSet.ofRanges ((rs.filter fun r => p r.2).map Prod.fst)

/-- Every `step`-th character of a range, each moved by `shift`. -/
structure Shift where
  range : CodeRange
  step : Nat
  shift : Int
deriving DecidableEq

def shifts (text : String) : List Shift :=
  (items text).map fun cs =>
    let (range, cs) := spanRange cs
    match spanHex (cs.drop 1) with
    | (step, '-' :: cs) => ⟨range, step, -(hexNat cs)⟩
    | (step, _ :: cs) => ⟨range, step, hexNat cs⟩
    | (step, []) => ⟨range, step, 0⟩

def Shift.covers (s : Shift) (n : Nat) : Bool :=
  s.range.holds n && (n - s.range.first) % s.step == 0

def Shift.pairs (s : Shift) : List (Nat × Nat) :=
  (everyNth s.range s.step).flatMap fun r =>
    (List.range (r.last - r.first + 1)).map fun i =>
      (r.first + i, ((r.first + i : Nat) + s.shift).toNat)

/-- The image of a character under the first move that applies to it, else itself. -/
def move (ss : List Shift) (c : Char) : Char :=
  match ss.find? (·.covers c.toNat) with
  | some s => Char.ofNat (c.toNat + s.shift).toNat
  | none => c

end RollCall.Unicode
