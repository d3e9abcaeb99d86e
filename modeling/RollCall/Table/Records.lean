import RollCall.Table.Basic

/-!
# Tables as JSON rows

A table is read from row objects and written as row objects. Columns stand in the order in which
their names are first seen, and a row without a name has a missing cell there.
-/
namespace RollCall.Table

/-- The fields of every row, or the first row that is no object. -/
def rowFields (records : List Json) : Except TableFault (List (List (String × Json))) :=
  records.zipIdx.mapM fun (record, i) =>
    match record with
    | .obj fields => .ok fields
    | _ => .error (.rowNotObject i)

/-- A list of names with the new ones of `more` added at the end. -/
def addNames (names more : List String) : List String :=
  more.foldl (fun seen name => if name ∈ seen then seen else seen ++ [name]) names

/-- All names of the rows in the order in which they are first seen. -/
def recordNames (rows : List (List (String × Json))) : List String :=
  rows.foldl (fun names fields => addNames names (fields.map Prod.fst)) []

def recordColumn (rows : List (List (String × Json))) (name : String) : Column :=
  Column.ofCells name <| rows.map fun fields =>
    ((Json.lookup name fields).map Cell.ofJson).getD .null

def ofRecords (records : List Json) : Except TableFault Table := do
  let rows ← rowFields records
  let table ← ofColumns ((recordNames rows).map (recordColumn rows))
  return { table with rowCount := records.length }

/-- The fields of a row, given as one cell for each column. -/
def recordOf (names : List String) (cells : List Cell) : Json :=
  .obj ((names.zip cells).foldl (fun fields (name, c) => Json.insert name c.toJson fields) [])

def toRecords (t : Table) : List Json :=
  let columns := t.columns.map fun c => c.cells.toArray
  (List.range t.rowCount).map fun i =>
    recordOf t.names (columns.map fun cells => cells[i]?.getD .null)

end RollCall.Table
