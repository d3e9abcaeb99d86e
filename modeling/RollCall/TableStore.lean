import RollCall.Failure
import RollCall.Table.Records

/-!
# Stores of tables

Tables by name, to which steps refer. Every name stands for one table.
-/
namespace RollCall

structure TableStore where
  tables : List (String × Table) := []

namespace TableStore

def get? (s : TableStore) (name : String) : Option Table :=
  (s.tables.find? fun entry => entry.1 = name).map Prod.snd

def contains (s : TableStore) (name : String) : Bool :=
  (s.get? name).isSome

def size (s : TableStore) : Nat := s.tables.length

/-- The store with a table under a name, in the place of any table of that name. -/
def insert (s : TableStore) (name : String) (t : Table) : TableStore :=
  ⟨(s.tables.filter fun entry => entry.1 ≠ name) ++ [(name, t)]⟩

def names (s : TableStore) : List String :=
  (s.tables.map Prod.fst).mergeSort fun a b => a ≤ b

/-- The store with the table of an entry of a document. -/
def insertRows (s : TableStore) (name : String) : Json → Except DocumentFault TableStore
  | .arr rows =>
    match Table.ofRecords rows with
    | .ok t => .ok (s.insert name t)
    | .error fault => .error (.badTable name fault)
  | _ => .error (.tableNotRows name)

def ofJson : Json → Except Failure TableStore
  | .obj fields =>
    (fields.foldlM (fun (s : TableStore) (name, rows) => s.insertRows name rows) {}).mapError
      .malformedDocument
  | _ => .error (.malformedDocument .tablesNotObject)

end TableStore
end RollCall
