import RollCall.Cell.Basic
import RollCall.Text.Lowercase

/-!
# Operators of expressions

The operators an expression may use and their meaning on cells. Integers stay integers as long as
the exact result fits into 64 bits and become doubles otherwise. A missing operand makes an
arithmetic result missing, but `min` and `max` pass over it and the connectives take it for false.
-/
namespace RollCall

inductive Operator
  | add
  | sub
  | mul
  | div
  | pow
  | neg
  | abs
  | min
  | max
  | and
  | or
deriving DecidableEq

inductive ExpressionFault
  | nodeNotObject (node : Json)
  | columnNotText
  | operatorNotText
  | operandsNotList
  | shapeless
  | notAllowed (name : String)
  | wrongCount (op : Operator) (count : Nat)
  | textOperand (op : Operator) (text : String)
  | notTruth (op : Operator) (cell : Cell)
  | unknownColumn (name : String)
  /-- No column is assigned. -/
  | nothingAssigned
  /-- A fault known by its wording only. -/
  | stated (text : String)

namespace Operator

def all : List Operator := [add, sub, mul, div, pow, neg, abs, min, max, and, or]

def name : Operator → String
  | add => "add"
  | sub => "sub"
  | mul => "mul"
  | div => "div"
  | pow => "pow"
  | neg => "neg"
  | abs => "abs"
  | min => "min"
  | max => "max"
  | and => "and"
  | or => "or"

/-- The operator of a name, without regard to case. -/
def ofWord (word : String) : Except ExpressionFault Operator :=
  match all.find? fun op => op.name = Text.asciiLower word with
  | some op => .ok op
  | none => .error (.notAllowed word)

def allows : Operator → Nat → Bool
  | add, n | mul, n => 2 ≤ n
  | sub, n | div, n | pow, n => n == 2
  | neg, n | abs, n => n == 1
  | min, n | max, n | and, n | or, n => 1 ≤ n

end Operator

/-- A number as arithmetic sees it: exact or rounded. -/
inductive Number
  | int (n : Int64)
  | float (x : Float)

namespace Number

def toFloat : Number → Float
  | int n => Binary64.ofInt n.toInt
  | float x => x

def toCell : Number → Cell
  | int n => .int n
  | float x => .float x

/-- The exact result if there is one, else the rounded one. -/
def ofChecked (exact : Option Int64) (rounded : Float) : Number :=
  match exact with
  | some n => int n
  | none => float rounded

/-- The exact result of two integers if it fits, else the rounded one. -/
def combine (checked? : Int64 → Int64 → Option Int64) (rounded : Float → Float → Float)
    (a b : Number) : Number :=
  match a, b with
  | int m, int n =>
    ofChecked (checked? m n) (rounded (Binary64.ofInt m.toInt) (Binary64.ofInt n.toInt))
  | a, b => float (rounded a.toFloat b.toFloat)

def add : Number → Number → Number := combine Checked.add? (· + ·)

def sub : Number → Number → Number := combine Checked.sub? (· - ·)

def mul : Number → Number → Number := combine Checked.mul? (· * ·)

def pow : Number → Number → Number := combine Checked.pow? Float.pow

/-- Quotients are always rounded. -/
def div (a b : Number) : Number :=
  float (a.toFloat / b.toFloat)

def neg : Number → Number
  | int n => ofChecked (Checked.neg? n) (-Binary64.ofInt n.toInt)
  | float x => float (-x)

def abs : Number → Number
  | int n => ofChecked (Checked.abs? n) (Binary64.ofInt n.toInt).abs
  | float x => float x.abs

/-- The smaller number, the first one unless the second is strictly smaller. -/
def min (a b : Number) : Number :=
  if b.toFloat < a.toFloat then b else a

/-- The larger number, the first one unless the second is strictly larger. -/
def max (a b : Number) : Number :=
  if a.toFloat < b.toFloat then b else a

end Number

namespace Operator

/-- The number an operand stands for, truth values being `0` and `1`; nothing for an empty cell. -/
def number? (op : Operator) : Cell → Except ExpressionFault (Option Number)
  | .null => .ok none
  | .int n => .ok (some (.int n))
  | .float x => .ok (some (.float x))
  | .bool b => .ok (some (.int (if b then 1 else 0)))
  | .text s => .error (.textOperand op s)

/-- The truth value an operand stands for; a missing one is false. -/
def truth (op : Operator) (c : Cell) : Except ExpressionFault Bool :=
  match c with
  | .bool b => .ok b
  | c => if c.isMissing then .ok false else .error (.notTruth op c)

/-- The result of an arithmetic operator on as many numbers as it takes. -/
def compute? : Operator → List Number → Option Number
  | add, a :: rest => some (rest.foldl Number.add a)
  | mul, a :: rest => some (rest.foldl Number.mul a)
  | sub, [a, b] => some (a.sub b)
  | div, [a, b] => some (a.div b)
  | pow, [a, b] => some (a.pow b)
  | neg, [a] => some a.neg
  | abs, [a] => some a.abs
  | _, _ => none

/-- The best of the numbers that are there. -/
def pick (better : Number → Number → Number) : List Number → Cell
  | [] => .null
  | a :: rest => (rest.foldl better a).toCell

def apply (op : Operator) (operands : List Cell) : Except ExpressionFault Cell := do
  if !op.allows operands.length then
    .error (.wrongCount op operands.length)
  else
    match op with
    | and => return .bool ((← operands.mapM op.truth).all id)
    | or => return .bool ((← operands.mapM op.truth).any id)
    | min => return pick Number.min ((← operands.mapM op.number?).filterMap id)
    | max => return pick Number.max ((← operands.mapM op.number?).filterMap id)
    | op =>
      match (← operands.mapM op.number?).mapM id with
      | none => return .null
      | some numbers =>
        match op.compute? numbers with
        | some n => return n.toCell
        | none => .error (.wrongCount op operands.length)

end Operator

def ExpressionFault.message : ExpressionFault → String
  | .nodeNotObject node => s!"expression node must be an object, got {node.compact}"
  | .columnNotText => "'var' must name a column"
  | .operatorNotText => "'op' must be a string"
  | .operandsNotList => "'args' must be an array"
  | .shapeless => "malformed expression node: expected one of 'var', 'const', 'op'"
  | .notAllowed name => s!"operator '{name}' is not allowed"
  | .wrongCount op count => s!"operator '{op.name}' cannot take {count} argument(s)"
  | .textOperand op text => s!"operator '{op.name}' needs numeric operands, got text '{text}'"
  | .notTruth op cell => s!"operator '{op.name}' needs boolean operands, got '{cell.display}'"
  | .unknownColumn name => s!"unknown column '{name}'"
  | .nothingAssigned => "mutate needs at least one expression"
  | .stated text => text

end RollCall
