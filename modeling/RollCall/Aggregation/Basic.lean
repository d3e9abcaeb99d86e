import RollCall.Expression.Basic
import RollCall.Failure
import RollCall.Table.Grouping

/-!
# Aggregation

Rows are grouped by the keys of some columns, and every group becomes one row: the cells of its
first row in these columns, and a cell for every metric. The groups stand in the order of their
keys. Without group columns there is one group, even of no rows.
-/
namespace RollCall

structure AggregateParameters where
  group : List String := []
  metrics : List (String × Json) := []
  /-- A single metric: a column or an expression. -/
  metric : Option Json := none
  function : Option String := none
  name : Option String := none

structure Metric where
  name : String
  aggregator : Aggregator
  /-- The cells of all rows; without them rows are counted. -/
  cells : Option (List Cell)

namespace Aggregation

/-- The cells that a metric aggregates: those of an expression, else those of a column. Without
either, or with a star for the column, rows can be counted. -/
def metricCells (t : Table) (a : Aggregator) (column : Option String) (node : Option Json) :
    Except Failure (Option (List Cell)) :=
  match node, column.filter (· ≠ "*") with
  | some node, _ => do
    let e ← (Expression.ofJson node).mapError .expression
    return some (← (e.evalColumn t).mapError .expression)
  | none, some name =>
    match t.column? name with
    | some c => .ok (some c.cells)
    | none => .error (.aggregation (.unknownColumn name))
  | none, none => if a = .count then .ok none else .error (.aggregation .noSource)

/-- A metric, all of whose cells its aggregator accepts. -/
def metricOf (t : Table) (name : String) (a : Aggregator) (column : Option String)
    (node : Option Json) : Except Failure Metric := do
  let cells ← metricCells t a column node
  match (cells.getD []).find? fun c => !a.accepts c with
  | some c => .error (.aggregation (.notNumeric a c))
  | none => return ⟨name, a, cells⟩

def singleMetric (t : Table) (p : AggregateParameters) : Except Failure (List Metric) :=
  match p.metric with
  | none => .ok []
  | some source => do
    let a ← (Aggregator.ofWord (p.function.getD "sum")).mapError .aggregation
    let name := p.name.getD (Text.asciiLower a.title)
    match source with
    | .str column => return [← metricOf t name a (some column) none]
    | node => return [← metricOf t name a none (some node)]

def namedMetric (t : Table) (name : String) : Json → Except Failure Metric
  | .obj fields =>
    match Json.lookup "fn" fields with
    | some (.str word) => do
      let a ← (Aggregator.ofWord word).mapError .aggregation
      let column := (Json.lookup "col" fields <|> Json.lookup "column" fields).bind Json.toStr?
      metricOf t name a column (Json.lookup "expr" fields)
    | _ => .error (.aggregation (.noFunction name))
  | _ => .error (.aggregation (.metricNotObject name))

/-- All metrics, of which there has to be one at least. -/
def metrics (t : Table) (p : AggregateParameters) : Except Failure (List Metric) := do
  let single ← singleMetric t p
  let named ← p.metrics.mapM fun (name, spec) => namedMetric t name spec
  match single ++ named with
  | [] => .error (.aggregation .noMetric)
  | all => return all

def groups (t : Table) (columns : List Column) : Grouping :=
  match columns, Grouping.ofKeys (groupKeys t.rowCount columns) with
  | [], [] => [([], [])]
  | _, found => found

def representative (c : Column) (rows : List Nat) : Cell :=
  (rows.head?.bind fun r => c.cells[r]?).getD .null

def metricCell (m : Metric) (rows : List Nat) : Cell :=
  match m.cells with
  | none => .int (Int64.ofNat rows.length)
  | some cells => m.aggregator.apply (rows.map fun r => cells[r]?.getD .null)

def summary (t : Table) (columns : List Column) (ms : List Metric) :
    Except AggregationFault Table :=
  let gs := groups t columns
  match ms.find? fun m => m.name ∈ columns.map Column.name with
  | some m => .error (.groupClash m.name)
  | none =>
    let groupColumns := columns.map fun c =>
      { c with cells := gs.map fun g => representative c g.2 }
    let metricColumns := ms.map fun m => Column.ofCells m.name (gs.map fun g => metricCell m g.2)
    match Table.ofColumns (groupColumns ++ metricColumns) with
    | .ok result => .ok result
    | .error fault => .error (.table fault)

def groupColumn (t : Table) (name : String) : Except Failure Column :=
  match t.column? name with
  | some c => .ok c
  | none => .error (.aggregation (.unknownGroup name))

def aggregate (t : Table) (p : AggregateParameters) : Except Failure Table := do
  let columns ← p.group.mapM (groupColumn t)
  let ms ← metrics t p
  (summary t columns ms).mapError .aggregation

end Aggregation
end RollCall
