import RollCall.Cell.Key
import RollCall.Checked
import RollCall.Json.Printer

/-!
# Cells

A cell is a missing value, a truth value, an integer, a double or a text. Integers and doubles are
both numbers: they compare, group and join by numeric value. A double that is no number counts as
missing. `key` is what a cell is grouped by; `looseEq` and `looseCompare` are what filters compare
by.
-/
namespace RollCall

inductive Cell
  | null
  | bool (b : Bool)
  | int (n : Int64)
  | float (x : Float)
  | text (s : String)
deriving DecidableEq

namespace Cell

instance : Inhabited Cell := ⟨.null⟩

/-- Whether the cell has no value: it is empty or no number. -/
def isMissing : Cell → Bool
  | .null => true
  | .float x => x.isNaN
  | _ => false

def isNumeric : Cell → Bool
  | .int _ | .float _ => true
  | _ => false

def isBool : Cell → Bool
  | .bool _ => true
  | _ => false

/-- The number a numeric cell holds, rounded to a double. -/
def toFloat? : Cell → Option Float
  | .int n => some (Binary64.ofInt n.toInt)
  | .float x => some x
  | _ => none

def toText? : Cell → Option String
  | .text s => some s
  | _ => none

def toBool? : Cell → Option Bool
  | .bool b => some b
  | _ => none

/-- The cell of a JSON value. An integer out of range becomes a double, and an array or object is
kept as its text. -/
def ofJson : Json → Cell
  | .null => .null
  | .bool b => .bool b
  | .int n =>
    match Checked.ofInt? n with
    | some i => .int i
    | none => .float (Binary64.ofInt n)
  | .float x => .float x
  | .str s => .text s
  | v => .text v.compact

/-- The JSON value of a cell; a double that JSON cannot hold is `null`. -/
def toJson : Cell → Json
  | .null => .null
  | .bool b => .bool b
  | .int n => .int n.toInt
  | .float x => Json.ofFloat x
  | .text s => .str s

/-- The text of a cell in messages and labels. -/
def display : Cell → String
  | .null => "null"
  | .bool b => if b then "true" else "false"
  | .int n => toString n.toInt
  | .float x => Decimal.Layout.plain.write x
  | .text s => s

/-- Equality by IEEE rules: a double that is no number differs from itself, and the zeros agree. -/
def agrees : Cell → Cell → Bool
  | .null, .null => true
  | .bool a, .bool b => a == b
  | .int a, .int b => a == b
  | .float a, .float b => a == b
  | .text a, .text b => a == b
  | _, _ => false

/-- Equality of two values by number where both are numbers. A missing cell equals nothing. -/
def looseEq (a b : Cell) : Bool :=
  if a.isMissing || b.isMissing then false
  else
    match a.toFloat?, b.toFloat? with
    | some x, some y => x == y
    | _, _ => a.agrees b

/-- The order of two numbers, two texts or two truth values; other pairs have none. -/
def looseCompare (a b : Cell) : Option Ordering :=
  if a.isMissing || b.isMissing then none
  else
    match a, b with
    | .text s, .text t => some (compare s t)
    | .bool p, .bool q => some (compare p q)
    | a, b =>
      match a.toFloat?, b.toFloat? with
      | some x, some y => Binary64.compare? x y
      | _, _ => none

/-- The key of a number: an integral one in range has the key of that integer. -/
def keyOfFloat (x : Float) : Key :=
  if x.isNaN then .null
  else
    match (Binary64.integer? x).bind Checked.ofInt? with
    | some n => .int n
    | none => .number x

def key : Cell → Key
  | .null => .null
  | .bool b => .bool b
  | .int n => .int n
  | .float x => keyOfFloat x
  | .text s => .text s

/-- A missing cell is one whose key is that of the missing value. -/
theorem key_eq_null_iff (c : Cell) : c.key = .null ↔ c.isMissing = true := by
  cases c with
  | float x =>
    simp only [key, keyOfFloat, isMissing]
    split
    · simp_all
    · split <;> simp_all
  | _ => simp [key, isMissing]

end Cell
end RollCall
