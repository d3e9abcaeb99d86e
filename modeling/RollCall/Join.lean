import RollCall.Table.Grouping

/-!
# Joins

Two tables are joined on key columns that both have. Rows match when none of their key cells is
missing and the keys agree column by column. `matches` gives the pairs of rows of the result, and
`joinPair` the result itself: the left columns, then the right columns that are no keys.
-/
namespace RollCall

inductive Side
  | left
  | right
deriving DecidableEq

def Side.name : Side → String
  | left => "left"
  | right => "right"

inductive JoinFault
  | noKeys
  | tooFewTables
  | noKeyColumn (column : String) (side : Side)
  | noColumn (column owner : String)
  | table (fault : TableFault)
  /-- A fault known by its wording only. -/
  | stated (text : String)

def JoinFault.message : JoinFault → String
  | noKeys => "join needs at least one key column"
  | tooFewTables => "join needs at least two inputs"
  | noKeyColumn column side => s!"key column '{column}' missing from {side.name} input"
  | noColumn column owner => s!"column '{column}' not found in '{owner}'"
  | table fault => fault.message
  | stated text => text

/-- Which rows without a match are kept: none, those of one side, or all. -/
inductive JoinKind
  | inner
  | left
  | right
  | outer
deriving DecidableEq

namespace JoinKind

def named : List (String × JoinKind) :=
  [("inner", inner), ("left", left), ("right", right), ("full", outer), ("outer", outer)]

def keepsLeft : JoinKind → Bool
  | left | outer => true
  | _ => false

end JoinKind

namespace Join

def keyColumns (t : Table) (on : List String) (side : Side) : Except JoinFault (List Column) :=
  on.mapM fun name =>
    match t.column? name with
    | some c => .ok c
    | none => .error (.noKeyColumn name side)

/-- A pair of rows, one of which may be lacking. -/
abbrev RowPair := Option Nat × Option Nat

def rowsFor (index : Index) (key : Option (List Key)) : List Nat :=
  (key.map index.rowsOf).getD []

def leftPairs (keepsLeft : Bool) (leftKeys rightKeys : List (Option (List Key))) : List RowPair :=
  let index := Index.ofKeys rightKeys
  leftKeys.zipIdx.flatMap fun (key, l) =>
    match rowsFor index key with
    | [] => if keepsLeft then [(some l, none)] else []
    | rows => rows.map fun r => (some l, some r)

/-- The pairs of every right row in order, with its left rows in order. -/
def rightPairs (leftKeys rightKeys : List (Option (List Key))) : List RowPair :=
  let index := Index.ofKeys leftKeys
  rightKeys.zipIdx.flatMap fun (key, r) =>
    match rowsFor index key with
    | [] => [(none, some r)]
    | rows => rows.map fun l => (some l, some r)

def unmatched (rows : Nat) (pairs : List RowPair) : List RowPair :=
  let matched := pairs.filterMap Prod.snd
  ((List.range rows).filter fun r => r ∉ matched).map fun r => (none, some r)

def rowPairs (kind : JoinKind) (leftKeys rightKeys : List (Option (List Key))) : List RowPair :=
  match kind with
  | .right => rightPairs leftKeys rightKeys
  | .outer =>
    let pairs := leftPairs true leftKeys rightKeys
    pairs ++ unmatched rightKeys.length pairs
  | kind => leftPairs kind.keepsLeft leftKeys rightKeys

def sharedNames (left right : Table) (on : List String) : List String :=
  left.names.filter fun name => name ∉ on && right.hasColumn name

def rename (shared : List String) (suffix name : String) : String :=
  if name ∈ shared then name ++ suffix else name

/-- A key cell is that of the left row, or of the right row if there is no left one. -/
def keyCells (left : Column) (right : Option Column) (pairs : List RowPair) : List Cell :=
  let leftCells := left.cells.toArray
  let rightCells := right.map fun c => c.cells.toArray
  pairs.map fun
    | (some l, _) => leftCells[l]?.getD .null
    | (none, some r) => (rightCells.bind (·[r]?)).getD .null
    | (none, none) => .null

def joinedColumns (left right : Table) (on : List String) (suffixes : String × String)
    (pairs : List RowPair) : List Column :=
  let shared := sharedNames left right on
  let leftColumns := left.columns.map fun c =>
    { c with
      name := rename shared suffixes.1 c.name
      cells :=
        if c.name ∈ on then keyCells c (right.column? c.name) pairs
        else c.pick? (pairs.map Prod.fst) }
  let rightColumns := (right.columns.filter fun c => c.name ∉ on).map fun c =>
    { c with
      name := rename shared suffixes.2 c.name
      cells := c.pick? (pairs.map Prod.snd) }
  leftColumns ++ rightColumns

def joinPair (left right : Table) (on : List String) (kind : JoinKind)
    (suffixes : String × String) : Except JoinFault Table := do
  let leftColumns ← keyColumns left on .left
  let rightColumns ← keyColumns right on .right
  let pairs := rowPairs kind (matchKeys left.rowCount leftColumns)
    (matchKeys right.rowCount rightColumns)
  match Table.ofColumns (joinedColumns left right on suffixes pairs) with
  | .ok t => return t
  | .error fault => .error (.table fault)

def joinAll (on : List String) (kind : JoinKind) (suffixes : String × String) :
    List Table → Except JoinFault Table
  | first :: second :: rest =>
    if on.isEmpty then .error .noKeys
    else (second :: rest).foldlM (fun merged t => joinPair merged t on kind suffixes) first
  | _ => if on.isEmpty then .error .noKeys else .error .tooFewTables

end Join
end RollCall
