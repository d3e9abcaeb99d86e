import RollCall.Library
import RollCall.Table.Basic
import RollCall.Text.Blank
import RollCall.Text.Lowercase
import RollCall.Text.Search

/-!
# Clauses

A clause compares the cells of one column with a literal. Missing cells satisfy no comparison but
`!=`, `noticontains` and `isnull`, and searches in texts pass over cells that hold none.
`Clause.test?` gives the cells that satisfy a clause; whether that fails depends on the literal
alone.
-/
namespace RollCall

/-- What a clause asks of a cell. -/
inductive Comparison
  | eq
  | notEq
  | lt
  | le
  | gt
  | ge
  | among
  | contains
  | containsFolded
  | lacksFolded
  | matching
  | missing
  | present
deriving DecidableEq

inductive ConditionFault
  | notNode (found : Json)
  | noOperator (node : Json)
  | childrenNotList (word : String)
  | manyChildren
  | noChild
  | unknownOperator (word : String)
  | noColumn (word : String)
  | noValue (word column : String)
  | valuesNotList (column : String)
  | unknownColumn (name : String)
  | badPattern (text reason : String)
  /-- The column searched for phrases is not in the table. -/
  | noPhraseColumn (column table : String)
  /-- A fault known by its wording only. -/
  | stated (text : String)

namespace ConditionFault

def message : ConditionFault → String
  | notNode found => s!"condition must be an object or list, got {found.compact}"
  | noOperator node => s!"condition node has no operator: {node.compact}"
  | childrenNotList word => s!"'{word}' needs an array of child conditions"
  | manyChildren => "'not' takes exactly one child condition"
  | noChild => "'not' needs a child condition"
  | unknownOperator word => s!"unknown operator '{word}'"
  | noColumn word => s!"'{word}' clause is missing 'column'"
  | noValue word column => s!"'{word}' clause on '{column}' is missing 'value'"
  | valuesNotList column => s!"'in' clause on '{column}' needs an array value"
  | unknownColumn name => s!"unknown column '{name}'"
  | badPattern text reason => s!"invalid regex '{text}': {reason}"
  | noPhraseColumn column table => s!"phrase filter column '{column}' not found in '{table}'"
  | stated text => text

end ConditionFault

namespace Comparison

def words : List (Comparison × List String) :=
  [(eq, ["=", "==", "eq"]), (notEq, ["!=", "<>", "neq", "ne"]), (lt, ["<", "lt"]),
   (le, ["<=", "le"]), (gt, [">", "gt"]), (ge, [">=", "ge"]), (among, ["in"]),
   (contains, ["contains"]), (containsFolded, ["icontains"]), (lacksFolded, ["noticontains"]),
   (matching, ["regex"]), (missing, ["isnull"]), (present, ["notnull"])]

/-- The comparison of a word, without regard to case and outer white space. -/
def ofWord (word : String) : Except ConditionFault Comparison :=
  let plain := Text.asciiLower (Text.trim word)
  match words.find? fun entry => plain ∈ entry.2 with
  | some (c, _) => .ok c
  | none => .error (.unknownOperator plain)

/-- Whether the comparison needs something to compare with. -/
def takesValue : Comparison → Bool
  | missing | present => false
  | _ => true

end Comparison

structure Clause where
  column : String
  comparison : Comparison
  literal : Json

namespace Clause

def needle : Json → String
  | .str s => s
  | v => (Cell.ofJson v).display

def ordered (passes : Ordering → Bool) (order : Option Ordering) : Bool :=
  (order.map passes).getD false

/-- Whether a cell holds a text that passes. -/
def textual (passes : String → Bool) (c : Cell) : Bool :=
  (c.toText?.map passes).getD false

/-- Whether a text holds a phrase that is given in lower case, both taken in lower case. -/
def mentions (phrase s : String) : Bool :=
  Text.contains (Text.lowercase s) phrase

variable [Library]

def test? (c : Clause) : Except ConditionFault (Cell → Bool) :=
  let value := Cell.ofJson c.literal
  match c.comparison with
  | .eq => .ok fun x => x.looseEq value
  | .notEq => .ok fun x => !x.looseEq value
  | .lt => .ok fun x => ordered Ordering.isLT (x.looseCompare value)
  | .le => .ok fun x => ordered Ordering.isLE (x.looseCompare value)
  | .gt => .ok fun x => ordered Ordering.isGT (x.looseCompare value)
  | .ge => .ok fun x => ordered Ordering.isGE (x.looseCompare value)
  | .among =>
    let values := (c.literal.toItems?.getD []).map Cell.ofJson
    .ok fun x => values.any x.looseEq
  | .contains => .ok (textual fun s => Text.contains s (needle c.literal))
  | .containsFolded =>
    let phrase := Text.lowercase (needle c.literal)
    .ok (textual (mentions phrase))
  | .lacksFolded =>
    let phrase := Text.lowercase (needle c.literal)
    .ok fun x => !textual (mentions phrase) x
  | .matching =>
    match Library.compile (needle c.literal) with
    | .ok occurs => .ok (textual occurs)
    | .error reason => .error (.badPattern (needle c.literal) reason)
  | .missing => .ok Cell.isMissing
  | .present => .ok fun x => !x.isMissing

def mask (c : Clause) (t : Table) : Except ConditionFault (List Bool) :=
  match t.column? c.column with
  | none => .error (.unknownColumn c.column)
  | some column => do return column.cells.map (← c.test?)

end Clause
end RollCall
