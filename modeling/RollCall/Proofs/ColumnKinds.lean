import RollCall.Proofs.Tables

/-!
# What columns of a kind hold

The kind of a column says which cells it may hold. An inferred kind fits the cells it is inferred
from, and it still fits when cells are selected, repeated or left out, since a missing cell fits
every kind.
-/
namespace RollCall

namespace ColumnKind

def admits : ColumnKind → Cell → Bool
  | numeric, c => c.isNumeric || c = .null
  | boolean, c => c.isBool || c.isMissing
  | text, _ | categorical, _ => true

theorem admits_of_isMissing {c : Cell} (h : c.isMissing) (k : ColumnKind) : k.admits c := by
  cases c with
  | null => cases k <;> rfl
  | float x =>
    cases k with
    | boolean => exact h
    | _ => rfl
  | _ => cases h

@[simp] theorem admits_null (k : ColumnKind) : k.admits .null :=
  admits_of_isMissing rfl k

/-- An inferred kind fits every cell. -/
theorem admits_infer {cells : List Cell} {c : Cell} (hc : c ∈ cells) : (infer cells).admits c := by
  by_cases hmissing : c.isMissing
  · exact admits_of_isMissing hmissing _
  · have hpresent : c ∈ cells.filter fun c => !c.isMissing :=
      List.mem_filter.mpr ⟨hc, by simpa using hmissing⟩
    rw [infer]
    split
    · next hnumeric => simp [admits, List.all_eq_true.mp hnumeric c hpresent]
    · split
      · next hbool => simp [admits, List.all_eq_true.mp hbool c hpresent]
      · rfl

end ColumnKind

/-- Every cell fits the kind of the column. -/
def Column.HoldsKind (c : Column) : Prop :=
  ∀ cell ∈ c.cells, c.kind.admits cell

instance (c : Column) : Decidable c.HoldsKind :=
  inferInstanceAs (Decidable (∀ cell ∈ c.cells, c.kind.admits cell))

/-- Every column holds what its kind says. -/
def Table.HoldsKinds (t : Table) : Prop :=
  ∀ c ∈ t.columns, c.HoldsKind

instance (t : Table) : Decidable t.HoldsKinds :=
  inferInstanceAs (Decidable (∀ c ∈ t.columns, c.HoldsKind))

namespace Column

variable {c : Column}

theorem holdsKind_ofCells (name : String) (cells : List Cell) : (ofCells name cells).HoldsKind :=
  fun _ hcell => ColumnKind.admits_infer hcell

/-- A column of text or of categories holds anything. -/
theorem holdsKind_categorical (name : String) (cells : List Cell) :
    HoldsKind ⟨name, .categorical, cells⟩ :=
  fun _ _ => rfl

private theorem HoldsKind.getD (hc : c.HoldsKind) (cell : Option Cell)
    (h : ∀ a ∈ cell, a ∈ c.cells) : c.kind.admits (cell.getD .null) := by
  cases cell with
  | none => exact ColumnKind.admits_null c.kind
  | some a => exact hc a (h a rfl)

theorem HoldsKind.at (hc : c.HoldsKind) (i : Nat) : c.kind.admits (c.cells[i]?.getD .null) :=
  hc.getD _ fun _ ha => List.mem_of_getElem? ha

theorem HoldsKind.pick? (hc : c.HoldsKind) (rows : List (Option Nat)) :
    ∀ cell ∈ c.pick? rows, c.kind.admits cell := by
  intro cell hcell
  rw [pick?_eq] at hcell
  obtain ⟨row, -, rfl⟩ := List.mem_map.mp hcell
  cases row with
  | none => exact ColumnKind.admits_null c.kind
  | some i => exact hc.at i

end Column

namespace Table

variable {t u : Table} {c : Column}

theorem HoldsKinds.of_column? (ht : t.HoldsKinds) {name : String} (h : t.column? name = some c) :
    c.HoldsKind :=
  ht c (mem_of_column? h)

private theorem HoldsKinds.takeRows (ht : t.HoldsKinds) (rows : List Nat) :
    (t.takeRows rows).HoldsKinds := by
  intro c hc
  obtain ⟨d, hd, rfl⟩ := List.mem_map.mp hc
  intro cell hcell
  rw [Column.pick_eq] at hcell
  obtain ⟨i, -, rfl⟩ := List.mem_map.mp hcell
  exact (ht d hd).at i

theorem HoldsKinds.filterMask (ht : t.HoldsKinds) (mask : List Bool) :
    (t.filterMask mask).HoldsKinds :=
  ht.takeRows _

theorem HoldsKinds.withColumn (ht : t.HoldsKinds) (hc : c.HoldsKind)
    (h : t.withColumn c = .ok u) : u.HoldsKinds := by
  rw [Table.withColumn] at h
  split at h
  · cases h
  · cases h
    intro d hd
    rcases mem_place hd with rfl | hd
    · exact hc
    · exact ht d hd

/-- Records make a table whose kinds fit. -/
theorem holdsKinds_of_ofRecords {records : List Json} (h : ofRecords records = .ok t) :
    t.HoldsKinds := by
  obtain ⟨rows, -, hcolumns, -⟩ := exists_rows_of_ofRecords h
  intro c hc
  rw [hcolumns] at hc
  obtain ⟨name, -, rfl⟩ := List.mem_map.mp hc
  exact Column.holdsKind_ofCells name _

end Table

end RollCall
