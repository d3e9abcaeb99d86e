import RollCall.Table.Basic
import RollCall.Text.Blank
import RollCall.Text.Lowercase
import RollCall.Transform.Basic

/-!
# Rescaling

A column of numbers is rescaled to mean zero and deviation one, to the range from zero to one, or by
the cells of another column. Missing cells stay missing, and a result that is not finite is missing
too.
-/
namespace RollCall

inductive Rescaling
  | zscore
  | range
  | ratio (denominator : List Cell)

namespace Rescaling

/-- The rescaling of a word, without regard to case and outer white space. -/
def ofWord (t : Table) (word : String) (denominator : Option String) :
    Except TransformFault Rescaling :=
  match Text.asciiLower (Text.trim word) with
  | "zscore" => .ok zscore
  | "minmax" => .ok range
  | "divide_by" | "divide_by_total_possible" =>
    match denominator with
    | none => .error .noDenominator
    | some name =>
      match t.column? name with
      | some c => .ok (ratio c.cells)
      | none => .error (.unknownDenominator name)
  | word => .error (.unknownMethod word)

def finiteCell (x : Float) : Cell :=
  if Binary64.isFinite x then .float x else .null

/-- A number as a cell; no number is a missing cell. -/
def cellOf (x : Option Float) : Cell :=
  (x.map finiteCell).getD .null

def meanAndDeviation (xs : List Float) : Float × Float :=
  let n := Float.ofNat xs.length
  let mean := Binary64.sum xs / n
  (mean, (Binary64.sum (xs.map fun x => (x - mean) * (x - mean)) / n).sqrt)

def least (xs : List Float) : Float :=
  xs.foldl (fun low x => if x < low then x else low) Binary64.infinity

def greatest (xs : List Float) : Float :=
  xs.foldl (fun high x => if high < x then x else high) (-Binary64.infinity)

/-- A number divided by a cell, missing where the cell is zero or no number. -/
def quotient (x : Option Float) (d : Cell) : Cell :=
  match x, d.toFloat? with
  | some x, some d => if d == 0.0 then .null else finiteCell (x / d)
  | _, _ => .null

/-- The rescaled cells of a column of numbers, some of which may be missing. -/
def apply (r : Rescaling) (xs : List (Option Float)) : List Cell :=
  match r with
  | zscore =>
    let (mean, deviation) := meanAndDeviation (xs.filterMap id)
    xs.map fun x => cellOf (x.map fun x => (x - mean) / deviation)
  | range =>
    let low := least (xs.filterMap id)
    let high := greatest (xs.filterMap id)
    xs.map fun x => cellOf (x.map fun x => (x - low) / (high - low))
  | ratio denominator => xs.zipWith quotient denominator

def number? (column : String) (c : Cell) : Except TransformFault (Option Float) :=
  if c.isMissing then .ok none
  else
    match c.toFloat? with
    | some x => .ok (some x)
    | none => .error (.notNumeric column c)

def column (t : Table) (r : Rescaling) (name : String) : Except TransformFault Column :=
  match t.column? name with
  | none => .error (.unknownColumn name)
  | some c => return ⟨name, .numeric, r.apply (← c.cells.mapM (number? name))⟩

def defaultTargets (t : Table) (denominator : Option String) : List String :=
  (t.columns.filter fun c => c.kind = .numeric && some c.name ≠ denominator).map Column.name

end Rescaling
end RollCall
