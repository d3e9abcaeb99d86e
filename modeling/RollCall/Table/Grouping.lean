import RollCall.Table.Basic

/-!
# Rows by key

`groupKeys` gives every row the keys of its cells in some columns, and `matchKeys` does so for the
rows in which no such cell is missing. A `Grouping` collects the rows of each key in their order;
its keys rise strictly. An `Index` finds the rows of a key; its keys need no order.
-/
namespace RollCall

/-- Row positions by key, the keys in rising order. -/
abbrev Grouping := List (List Key × List Nat)

namespace Grouping

/-- A further row, which comes after the rows that are there. -/
def add (key : List Key) (row : Nat) : Grouping → Grouping
  | [] => [(key, [row])]
  | (k, rows) :: groups =>
    match Key.compareList key k with
    | .lt => (key, [row]) :: (k, rows) :: groups
    | .eq => (k, rows ++ [row]) :: groups
    | .gt => (k, rows) :: add key row groups

def ofKeys (keys : List (List Key)) : Grouping :=
  keys.zipIdx.foldl (fun groups (key, row) => add key row groups) []

end Grouping

/-- Row positions by key, every key once. -/
abbrev Index := List (List Key × List Nat)

namespace Index

/-- A further row, which comes after the rows that are there. -/
def add (key : List Key) (row : Nat) : Index → Index
  | [] => [(key, [row])]
  | (k, rows) :: index =>
    if k = key then (k, rows ++ [row]) :: index else (k, rows) :: add key row index

def note (index : Index) (entry : Option (List Key) × Nat) : Index :=
  match entry.1 with
  | some key => add key entry.2 index
  | none => index

def ofKeys (keys : List (Option (List Key))) : Index :=
  keys.zipIdx.foldl note []

def rowsOf (index : Index) (key : List Key) : List Nat :=
  ((index.find? fun entry => entry.1 = key).map Prod.snd).getD []

end Index

/-- The keys of every row in the given columns. -/
def groupKeys (rows : Nat) (columns : List Column) : List (List Key) :=
  columns.foldr (fun column keys => column.cells.zipWith (fun c key => c.key :: key) keys)
    (List.replicate rows [])

/-- The keys of every row in the given columns, unless one of its cells there is missing. -/
def matchKeys (rows : Nat) (columns : List Column) : List (Option (List Key)) :=
  columns.foldr (fun column keys =>
    column.cells.zipWith (fun c key => if c.isMissing then none else key.map (c.key :: ·)) keys)
    (List.replicate rows (some []))

end RollCall
