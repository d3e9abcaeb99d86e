import Mathlib.Data.List.Basic
import RollCall.Statistics.Basic
import RollCall.Table.Grouping

/-!
# Rows of columns

Keys and numbers are collected column by column, one column beside the rows that the others gave.
For columns of equal length this is the same as taking the cells of each row: `rowKey` is the key
by which a row is grouped, and `rowMatchKey` the one by which it is joined, which a row with a
missing key cell does not have.
-/
namespace RollCall

def Table.rows (t : Table) : List (List Cell) :=
  (List.range t.rowCount).map fun i => t.columns.map fun c => c.cells[i]?.getD .null

variable {α β γ : Type}

/-- Joining lists of equal length from the right combines what stands at each position. -/
theorem foldr_zipWith_eq {f : α → List β} {g : β → γ → γ} {e : γ} {xs : List α} {n : Nat} (d : β)
    (h : ∀ x ∈ xs, (f x).length = n) :
    xs.foldr (fun x rows => (f x).zipWith g rows) (List.replicate n e) =
      (List.range n).map fun i => xs.foldr (fun x row => g ((f x)[i]?.getD d) row) e := by
  induction xs with
  | nil => simp
  | cons x xs ih =>
    rw [List.foldr_cons, ih fun y hy => h y (List.mem_cons_of_mem _ hy)]
    apply List.ext_getElem
    · simp [h x List.mem_cons_self]
    · intro i hi hi'
      have hlength : i < (f x).length := by
        rw [List.length_zipWith] at hi
        omega
      simp [List.getElem?_eq_getElem hlength]

theorem zipIdx_map_range (f : Nat → α) (n : Nat) :
    ((List.range n).map f).zipIdx = (List.range n).map fun row => (f row, row) := by
  apply List.ext_getElem <;> simp

def rowKey (columns : List Column) (row : Nat) : List Key :=
  columns.map fun c => (c.cells[row]?.getD .null).key

/-- The key of a row in the given columns, unless one of its cells there is missing. -/
def rowMatchKey (columns : List Column) (row : Nat) : Option (List Key) :=
  if columns.any fun c => (c.cells[row]?.getD .null).isMissing then none
  else some (rowKey columns row)

variable {columns : List Column} {rows : Nat}

theorem groupKeys_eq (h : ∀ c ∈ columns, c.length = rows) :
    groupKeys rows columns = (List.range rows).map (rowKey columns) := by
  rw [groupKeys, foldr_zipWith_eq .null h]
  apply List.map_congr_left
  intro i _
  induction columns with
  | nil => rfl
  | cons c columns ih =>
    rw [List.foldr_cons, ih fun d hd => h d (List.mem_cons_of_mem _ hd)]
    rfl

theorem matchKeys_eq (h : ∀ c ∈ columns, c.length = rows) :
    matchKeys rows columns = (List.range rows).map (rowMatchKey columns) := by
  rw [matchKeys, foldr_zipWith_eq .null h]
  apply List.map_congr_left
  intro i _
  induction columns with
  | nil => rfl
  | cons c columns ih =>
    rw [List.foldr_cons, ih fun d hd => h d (List.mem_cons_of_mem _ hd)]
    simp only [rowMatchKey, rowKey, List.any_cons, List.map_cons]
    cases (c.cells[i]?.getD .null).isMissing with
    | true => rfl
    | false => cases columns.any fun d => (d.cells[i]?.getD .null).isMissing <;> rfl

theorem length_groupKeys (h : ∀ c ∈ columns, c.length = rows) :
    (groupKeys rows columns).length = rows := by
  simp [groupKeys_eq h]

theorem length_matchKeys (h : ∀ c ∈ columns, c.length = rows) :
    (matchKeys rows columns).length = rows := by
  simp [matchKeys_eq h]

theorem Statistics.rowsOf_eq {columns : List (List Cell)} (h : ∀ cs ∈ columns, cs.length = rows) :
    Statistics.rowsOf rows columns =
      (List.range rows).map fun i => columns.map fun cs => cs[i]?.getD .null := by
  rw [Statistics.rowsOf, foldr_zipWith_eq .null h]
  apply List.map_congr_left
  intro i _
  induction columns with
  | nil => rfl
  | cons cs columns ih =>
    rw [List.foldr_cons, ih fun d hd => h d (List.mem_cons_of_mem _ hd)]
    rfl

end RollCall
