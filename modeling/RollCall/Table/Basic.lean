import RollCall.Cell.Basic

/-!
# Tables

A table is an ordered list of named columns and a number of rows. It is well formed when the names
are distinct and every column has one cell for each row. Tables are values: every operation gives a
new one.
-/
namespace RollCall

inductive ColumnKind
  | numeric
  | text
  | boolean
  | categorical
deriving DecidableEq

namespace ColumnKind

def name : ColumnKind → String
  | numeric => "numeric"
  | text => "text"
  | boolean => "boolean"
  | categorical => "categorical"

def all : List ColumnKind := [numeric, text, boolean, categorical]

def ofName? (s : String) : Option ColumnKind :=
  all.find? fun k => k.name = s

/-- The type of a column by its present cells: numbers, else truth values, else text. A column
without present cells is numeric. -/
def infer (cells : List Cell) : ColumnKind :=
  let present := cells.filter fun c => !c.isMissing
  if present.all Cell.isNumeric then numeric
  else if present.all Cell.isBool then boolean
  else text

end ColumnKind

structure Column where
  name : String
  kind : ColumnKind
  cells : List Cell
deriving DecidableEq

namespace Column

/-- A column of the type its cells suggest. -/
def ofCells (name : String) (cells : List Cell) : Column :=
  ⟨name, ColumnKind.infer cells, cells⟩

def length (c : Column) : Nat := c.cells.length

/-- The cells at the given rows; a row outside the column has a missing cell. -/
def pick (c : Column) (rows : List Nat) : List Cell :=
  let cells := c.cells.toArray
  rows.map fun i => cells[i]?.getD .null

/-- The cells at the given rows, missing where there is no row. -/
def pick? (c : Column) (rows : List (Option Nat)) : List Cell :=
  let cells := c.cells.toArray
  rows.map fun row => (row.bind (cells[·]?)).getD .null

theorem pick_eq (c : Column) (rows : List Nat) :
    c.pick rows = rows.map fun i => c.cells[i]?.getD .null := by
  simp [pick]

theorem pick?_eq (c : Column) (rows : List (Option Nat)) :
    c.pick? rows = rows.map fun row => (row.bind (c.cells[·]?)).getD .null := by
  simp [pick?]

end Column

inductive TableFault
  | ragged (column : String) (rows expected : Nat)
  | duplicate (column : String)
  | rowNotObject (row : Nat)
deriving DecidableEq

def TableFault.message : TableFault → String
  | .ragged column rows expected => s!"column '{column}' has {rows} rows, expected {expected}"
  | .duplicate column => s!"duplicate column name '{column}'"
  | .rowNotObject row => s!"row {row} is not a JSON object"

/-- Columns beside each other, with the number of their rows. -/
structure Table where
  columns : List Column
  rowCount : Nat
deriving DecidableEq

namespace Table

instance : Inhabited Table := ⟨⟨[], 0⟩⟩

def names (t : Table) : List String :=
  t.columns.map Column.name

/-- Distinct names, and a cell in every column for each row. -/
structure WellFormed (t : Table) : Prop where
  nodup : t.names.Nodup
  length_eq : ∀ c ∈ t.columns, c.length = t.rowCount

/-- The first fault among the columns after `before`: a wrong length or a name seen already. -/
def fault? (rows : Nat) (before : List String) : List Column → Option TableFault
  | [] => none
  | c :: columns =>
    if c.length ≠ rows then some (.ragged c.name c.length rows)
    else if c.name ∈ before then some (.duplicate c.name)
    else fault? rows (before ++ [c.name]) columns

def ofColumns (columns : List Column) : Except TableFault Table :=
  let rows := (columns.head?.map Column.length).getD 0
  match fault? rows [] columns with
  | some fault => .error fault
  | none => .ok ⟨columns, rows⟩

def blank (rows : Nat) : Table := ⟨[], rows⟩

def column? (t : Table) (name : String) : Option Column :=
  t.columns.find? fun c => c.name = name

def hasColumn (t : Table) (name : String) : Bool :=
  (t.column? name).isSome

def cell? (t : Table) (row : Nat) (name : String) : Option Cell :=
  (t.column? name).bind fun c => c.cells[row]?

/-- `columns` with the column of the same name replaced in place, or with `c` added at the end. -/
def place (c : Column) : List Column → List Column
  | [] => [c]
  | d :: columns => if d.name = c.name then c :: columns else d :: place c columns

/-- The table with a column added or replaced. A table without rows and columns takes any. -/
def withColumn (t : Table) (c : Column) : Except TableFault Table :=
  if c.length ≠ t.rowCount ∧ ¬(t.columns = [] ∧ t.rowCount = 0) then
    .error (.ragged c.name c.length t.rowCount)
  else
    .ok ⟨place c t.columns, c.length⟩

/-- The given rows in the given order. -/
def takeRows (t : Table) (rows : List Nat) : Table :=
  ⟨t.columns.map fun c => { c with cells := c.pick rows }, rows.length⟩

/-- The positions at which a mask is set. -/
def setPositions (mask : List Bool) : List Nat :=
  (mask.zipIdx.filter Prod.fst).map Prod.snd

/-- The rows at which a mask is set. -/
def filterMask (t : Table) (mask : List Bool) : Table :=
  t.takeRows (setPositions mask)

/-- Equality of names, types and cells, cells by IEEE rules. -/
def agrees (s t : Table) : Bool :=
  s.rowCount == t.rowCount && s.columns.length == t.columns.length &&
    (s.columns.zip t.columns).all fun (c, d) =>
      c.name == d.name && c.kind = d.kind && c.length == d.length &&
        (c.cells.zip d.cells).all fun (a, b) => a.agrees b

end Table
end RollCall
