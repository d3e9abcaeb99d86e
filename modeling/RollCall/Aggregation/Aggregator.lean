import RollCall.Table.Basic
import RollCall.Text.Blank
import RollCall.Text.Lowercase

/-!
# Aggregators

An aggregator makes one cell of the cells of a group. Missing cells are passed over, and truth
values count as `0` and `1` where numbers are needed.
-/
namespace RollCall

inductive Aggregator
  | count
  | sum
  | mean
  | min
  | max
  | median
  | std
  | var
  | distinct
deriving DecidableEq

inductive AggregationFault
  | unknownFunction (word : String)
  | unknownColumn (name : String)
  | unknownGroup (name : String)
  | noSource
  | notNumeric (a : Aggregator) (cell : Cell)
  | metricNotObject (name : String)
  | noFunction (name : String)
  | noMetric
  | groupClash (name : String)
  | table (fault : TableFault)
  /-- A fault known by its wording only. -/
  | stated (text : String)

namespace Aggregator

def title : Aggregator → String
  | count => "Count"
  | sum => "Sum"
  | mean => "Mean"
  | min => "Min"
  | max => "Max"
  | median => "Median"
  | std => "Std"
  | var => "Var"
  | distinct => "NUnique"

def words : List (Aggregator × List String) :=
  [(count, ["count", "size"]), (sum, ["sum"]), (mean, ["mean", "avg"]), (min, ["min"]),
   (max, ["max"]), (median, ["median"]), (std, ["std"]), (var, ["var"]), (distinct, ["nunique"])]

/-- The aggregator of a word, without regard to case and outer white space. -/
def ofWord (word : String) : Except AggregationFault Aggregator :=
  let plain := Text.asciiLower (Text.trim word)
  match words.find? fun entry => plain ∈ entry.2 with
  | some (a, _) => .ok a
  | none => .error (.unknownFunction plain)

theorem ofWord_of_plain {word : String} {a : Aggregator} {names : List String}
    (hplain : Text.asciiLower (Text.trim word) = word)
    (h : (words.find? fun entry => word ∈ entry.2) = some (a, names)) : ofWord word = .ok a := by
  simp only [ofWord, hplain, h]

def needsNumbers : Aggregator → Bool
  | sum | mean | median | std | var => true
  | _ => false

def accepts (a : Aggregator) (c : Cell) : Bool :=
  !a.needsNumbers || c.isMissing || c.isNumeric || c.isBool

def number : Cell → Float
  | .bool b => if b then 1.0 else 0.0
  | c => c.toFloat?.getD Binary64.nan

def integer? : Cell → Option Int64
  | .int n => some n
  | .bool b => some (if b then 1 else 0)
  | _ => none

/-- The exact sum of integers, if no partial sum is out of range. -/
def exactSum? (cells : List Cell) : Option Int64 :=
  cells.foldlM (fun sum c => (integer? c).bind (Checked.add? sum)) 0

/-- The sum of cells: exact, or rounded if that is not possible. -/
def total (cells : List Cell) : Cell :=
  match exactSum? cells with
  | some n => .int n
  | none => .float ((cells.map number).foldl (· + ·) 0.0)

def average (xs : List Float) : Float :=
  Binary64.sum xs / Float.ofNat xs.length

/-- The middle one of the numbers in order, or the mean of the two middle ones. -/
def middle (xs : List Float) : Float :=
  let sorted := (xs.mergeSort fun x y => Binary64.orderRank x ≤ Binary64.orderRank y).toArray
  let half := sorted.size / 2
  let upper := sorted[half]?.getD Binary64.nan
  if sorted.size % 2 = 0 then (sorted[half - 1]?.getD Binary64.nan + upper) / 2.0 else upper

/-- The variance of two or more numbers as a sample. -/
def variance (xs : List Float) : Float :=
  let m := average xs
  Binary64.sum (xs.map fun x => (x - m) * (x - m)) / Float.ofNat (xs.length - 1)

/-- The first cell that no other cell beats. -/
def best (beats : Ordering → Bool) : List Cell → Cell
  | [] => .null
  | c :: cells =>
    cells.foldl (fun best c => if (c.looseCompare best).any beats then c else best) c

def distinctCount (cells : List Cell) : Nat :=
  (cells.map Cell.key).eraseDups.length

def apply (a : Aggregator) (cells : List Cell) : Cell :=
  let present := cells.filter fun c => !c.isMissing
  match a with
  | count => .int (Int64.ofNat present.length)
  | distinct => .int (Int64.ofNat (distinctCount present))
  | sum => total present
  | min => best Ordering.isLT present
  | max => best Ordering.isGT present
  | mean => if present.isEmpty then .null else .float (average (present.map number))
  | median => if present.isEmpty then .null else .float (middle (present.map number))
  | var => if present.length < 2 then .null else .float (variance (present.map number))
  | std => if present.length < 2 then .null else .float (variance (present.map number)).sqrt

end Aggregator

def AggregationFault.message : AggregationFault → String
  | unknownFunction word => s!"unknown function '{word}'"
  | unknownColumn name => s!"unknown column '{name}'"
  | unknownGroup name => s!"unknown group column '{name}'"
  | noSource => "metric needs a 'col' or 'expr'"
  | notNumeric a cell => s!"'{a.title}' needs numeric values, found '{cell.display}'"
  | metricNotObject name => s!"metric '{name}' must be an object"
  | noFunction name => s!"metric '{name}' is missing 'fn'"
  | noMetric => "aggregate needs at least one metric"
  | groupClash name => s!"metric '{name}' clashes with a group column"
  | table fault => fault.message
  | stated text => text

end RollCall
