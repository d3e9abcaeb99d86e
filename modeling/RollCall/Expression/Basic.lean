import RollCall.Expression.Operator
import RollCall.Table.Basic

/-!
# Expressions over the columns of a table

An expression is a column, a constant or an operator applied to expressions. `ofJson` reads one from
a document. `evalRow` gives its value in one row, and `evalColumn` its values in all rows, one
operand after the other.
-/
namespace RollCall

inductive Expression
  | column (name : String)
  | const (c : Cell)
  | apply (op : Operator) (operands : List Expression)

namespace Expression

mutual

/-- The expression a JSON node stands for. Of the keys `var`, `const` and `op`, in this order, the
first one that is there decides. -/
def ofJson : Json → Except ExpressionFault Expression
  | .obj fields =>
    match Json.lookup "var" fields, Json.lookup "const" fields, Json.lookup "op" fields with
    | some (.str name), _, _ => .ok (.column name)
    | some _, _, _ => .error .columnNotText
    | none, some v, _ => .ok (.const (.ofJson v))
    | none, none, some (.str word) => do
      let op ← Operator.ofWord word
      let operands ←
        match h : Json.lookup "args" fields with
        | some (.arr nodes) =>
          have := Json.sizeOf_lookup_lt h
          ofNodes nodes
        | some _ => .error .operandsNotList
        | none => .ok []
      if op.allows operands.length then .ok (.apply op operands)
      else .error (.wrongCount op operands.length)
    | none, none, some _ => .error .operatorNotText
    | none, none, none => .error .shapeless
  | node => .error (.nodeNotObject node)
termination_by node => sizeOf node
decreasing_by
  simp at this ⊢
  omega

def ofNodes : List Json → Except ExpressionFault (List Expression)
  | [] => .ok []
  | node :: nodes => return (← ofJson node) :: (← ofNodes nodes)
termination_by nodes => sizeOf nodes

end

mutual

/-- The columns of an expression in the order in which they are first met, after those of `seen`. -/
def addColumns (seen : List String) : Expression → List String
  | .column name => if name ∈ seen then seen else seen ++ [name]
  | .const _ => seen
  | .apply _ operands => addAllColumns seen operands

def addAllColumns (seen : List String) : List Expression → List String
  | [] => seen
  | e :: es => addAllColumns (addColumns seen e) es

end

/-- The columns an expression mentions, each once. -/
def columns (e : Expression) : List String :=
  addColumns [] e

mutual

def evalRow (t : Table) (row : Nat) : Expression → Except ExpressionFault Cell
  | .column name =>
    match t.cell? row name with
    | some c => .ok c
    | none => .error (.unknownColumn name)
  | .const c => .ok c
  | .apply op operands => do op.apply (← evalRowEach t row operands)

def evalRowEach (t : Table) (row : Nat) : List Expression → Except ExpressionFault (List Cell)
  | [] => .ok []
  | e :: es => return (← evalRow t row e) :: (← evalRowEach t row es)

end

def applyRows (op : Operator) (rows : Nat) (columns : List (List Cell)) :
    Except ExpressionFault (List Cell) :=
  let columns := columns.map List.toArray
  (List.range rows).mapM fun i => op.apply (columns.map fun cells => cells[i]?.getD .null)

mutual

def evalColumn (t : Table) : Expression → Except ExpressionFault (List Cell)
  | .column name =>
    match t.column? name with
    | some c => .ok c.cells
    | none => .error (.unknownColumn name)
  | .const c => .ok (List.replicate t.rowCount c)
  | .apply op operands => do applyRows op t.rowCount (← evalColumnEach t operands)

def evalColumnEach (t : Table) : List Expression → Except ExpressionFault (List (List Cell))
  | [] => .ok []
  | e :: es => return (← evalColumn t e) :: (← evalColumnEach t es)

end

end Expression
end RollCall
