import RollCall.Proofs.Filtering
import RollCall.Proofs.Lists

/-!
# Tables by rule

The result of a join or of a grouping is a table whose columns are computed from one list, of pairs
of rows or of groups. A `ColumnRule` gives the cell for a member of such a list, and `tabulate` the
table. Selecting rows of a tabulated table selects members of its list, and a list that is a map of
another one can be traded for rules.
-/
namespace RollCall

/-- A column whose cells are computed from the members of a list. -/
structure ColumnRule (α : Type) where
  name : String
  kind : ColumnKind
  cell : α → Cell

namespace ColumnRule

variable {α β : Type}

def column (r : ColumnRule α) (members : List α) : Column :=
  ⟨r.name, r.kind, members.map r.cell⟩

/-- The rule for members of which those of `r` are computed. -/
def comap (f : β → α) (r : ColumnRule α) : ColumnRule β :=
  ⟨r.name, r.kind, fun b => r.cell (f b)⟩

@[simp] theorem name_column (r : ColumnRule α) (members : List α) :
    (r.column members).name = r.name := rfl

@[simp] theorem length_column (r : ColumnRule α) (members : List α) :
    (r.column members).length = members.length :=
  List.length_map r.cell

@[simp] theorem name_comap (f : β → α) (r : ColumnRule α) : (r.comap f).name = r.name := rfl

private theorem column_map (f : β → α) (r : ColumnRule α) (members : List β) :
    r.column (members.map f) = (r.comap f).column members := by
  rw [column, column, comap, List.map_map]
  rfl

end ColumnRule

namespace Table

variable {α β : Type} {t : Table} {rs : List (ColumnRule α)} {members : List α}

def tabulate (rs : List (ColumnRule α)) (members : List α) : Table :=
  ⟨rs.map (ColumnRule.column · members), members.length⟩

/-- The columns of a table as rules for its rows. -/
def rules (t : Table) : List (ColumnRule Nat) :=
  t.columns.map fun c => ⟨c.name, c.kind, fun row => t.cellAt row c.name⟩

@[simp] theorem map_name_rules (t : Table) : t.rules.map ColumnRule.name = t.names := by
  simp [Table.rules, names, Function.comp_def]

theorem names_tabulate (rs : List (ColumnRule α)) (members : List α) :
    (tabulate rs members).names = rs.map ColumnRule.name := by
  simp [tabulate, names, Function.comp_def]

theorem tabulate_map (rs : List (ColumnRule α)) (f : β → α) (members : List β) :
    tabulate rs (members.map f) = tabulate (rs.map (ColumnRule.comap f)) members := by
  simp [tabulate, ColumnRule.column_map, Function.comp_def]

theorem tabulate_wellFormed (h : (rs.map ColumnRule.name).Nodup) (members : List α) :
    (tabulate rs members).WellFormed := by
  refine ⟨by rwa [names_tabulate], fun c hc => ?_⟩
  obtain ⟨r, -, rfl⟩ := List.mem_map.mp hc
  exact r.length_column members

/-- Columns by rule make a table if their names are distinct. Without rules there is no column to
count the rows by. -/
theorem ofColumns_eq_ok_tabulate :
    ofColumns (rs.map (ColumnRule.column · members)) = .ok t ↔
      (rs.map ColumnRule.name).Nodup ∧
        t = tabulate rs (if rs = [] then [] else members) := by
  have hcolumns : rs.map (ColumnRule.column · (if rs = [] then [] else members)) =
      rs.map (ColumnRule.column · members) := by
    cases rs <;> rfl
  have hrows : ((rs.map (ColumnRule.column · members)).head?.map Column.length).getD 0 =
      (if rs = [] then [] else members).length := by
    cases rs <;> simp
  rw [ofColumns_eq_ok, tabulate, hcolumns, hrows, Table.mk.injEq]
  constructor
  · rintro ⟨ht, hcols, hcount⟩
    refine ⟨?_, hcols, hcount⟩
    rw [← names_tabulate rs members, names, tabulate, ← hcols]
    exact ht.nodup
  · rintro ⟨hnodup, hcols, hcount⟩
    refine ⟨?_, hcols, hcount⟩
    have ht := tabulate_wellFormed hnodup (if rs = [] then [] else members)
    rwa [tabulate, hcolumns, ← hcols, ← hcount] at ht

private theorem WellFormed.takeRows_eq (ht : t.WellFormed) (rows : List Nat) :
    t.takeRows rows = tabulate t.rules rows := by
  rw [Table.takeRows, tabulate, Table.rules, List.map_map]
  refine congrArg (Table.mk · rows.length) (List.map_congr_left fun c hc => ?_)
  simp only [Function.comp_apply, ColumnRule.column, Column.pick_eq, cellAt, cell?,
    ht.column?_eq hc]
  rfl

theorem WellFormed.eq_tabulate (ht : t.WellFormed) :
    t = tabulate t.rules (List.range t.rowCount) := by
  rw [← ht.takeRows_eq, ht.takeRows_range]

/-- Selecting rows of a table by rule selects members. -/
theorem takeRows_tabulate (rs : List (ColumnRule α)) (members : List α) {rows : List Nat}
    {selected : List α} (h : rows.map (members[·]?) = selected.map some) :
    (tabulate rs members).takeRows rows = tabulate rs selected := by
  have hlength : rows.length = selected.length := by
    simpa using congrArg List.length h
  rw [takeRows, tabulate, tabulate, hlength, List.map_map]
  refine congrArg (Table.mk · selected.length) (List.map_congr_left fun r _ => ?_)
  have hcells : (r.column members).pick rows = selected.map r.cell := by
    calc (r.column members).pick rows
        = (rows.map (members[·]?)).map fun member => (member.map r.cell).getD .null := by
          simp [Column.pick_eq, ColumnRule.column, Function.comp_def]
      _ = selected.map r.cell := by simp [h, Function.comp_def]
  simp only [Function.comp_apply, hcells]
  rfl

/-- The rows whose members pass a test. -/
theorem takeRows_tabulate_filter (rs : List (ColumnRule α)) (members : List α) {p : Nat → Bool}
    {q : α → Bool} (h : ∀ i, (hi : i < members.length) → p i = q members[i]) :
    (tabulate rs members).takeRows ((List.range members.length).filter p) =
      tabulate rs (members.filter q) := by
  apply takeRows_tabulate
  have hmembers : members.map some = (List.range members.length).map (members[·]?) := by
    refine List.ext_getElem (by simp) fun i hi _ => ?_
    rw [List.length_map] at hi
    simp [hi]
  calc ((List.range members.length).filter p).map (members[·]?)
      = ((List.range members.length).filter ((fun m => m.any q) ∘ (members[·]?))).map
          (members[·]?) := by
        congr 1
        refine List.filter_congr fun i hi => ?_
        have hi := List.mem_range.mp hi
        simp [h i hi, hi]
    _ = (members.map some).filter fun m => m.any q := by rw [hmembers, List.filter_map]
    _ = (members.filter q).map some := by rw [List.filter_map]; rfl

theorem cellAt_tabulate (h : (rs.map ColumnRule.name).Nodup) {r : ColumnRule α} (hr : r ∈ rs)
    {row : Nat} (hrow : row < members.length) :
    (tabulate rs members).cellAt row r.name = r.cell members[row] := by
  have hcolumn : r.column members ∈ (tabulate rs members).columns :=
    List.mem_map_of_mem hr
  have hfind := (tabulate_wellFormed h members).column?_eq hcolumn
  rw [ColumnRule.name_column] at hfind
  rw [cellAt, cell?, hfind]
  simp [ColumnRule.column, hrow]

end Table
end RollCall
