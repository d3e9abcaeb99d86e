import RollCall.Proofs.JoinRows
import RollCall.Proofs.RuledTables

/-!
# Joins by rule

A join computes every column of its result from the pairs of rows of the nested loop, by rules that
do not depend on the pairs. It succeeds exactly when both tables have the key columns and the names
of the rules are distinct.
-/
namespace RollCall.Join

variable {left right t : Table} {on : List String} {kind : JoinKind} {suffixes : String × String}

/-- How a join computes the columns of its result from a pair of rows. -/
def rules (left right : Table) (on : List String) (suffixes : String × String) :
    List (ColumnRule RowPair) :=
  let shared := sharedNames left right on
  let leftRules := left.columns.map fun c =>
    ⟨rename shared suffixes.1 c.name, c.kind,
      if c.name ∈ on then keyCell left right c.name else fun p => copiedCell left c.name p.1⟩
  let rightRules := (right.columns.filter fun c => c.name ∉ on).map fun c =>
    ⟨rename shared suffixes.2 c.name, c.kind, fun p => copiedCell right c.name p.2⟩
  leftRules ++ rightRules

private theorem pick?_eq_map (ht : t.WellFormed) {c : Column} (hc : c ∈ t.columns)
    (rows : List (Option Nat)) : c.pick? rows = rows.map (copiedCell t c.name) := by
  rw [Column.pick?_eq]
  refine List.map_congr_left fun row _ => ?_
  simp only [copiedCell, ht.cell?_eq hc]

theorem joinedColumns_eq_rules (hl : left.WellFormed) (hr : right.WellFormed)
    (pairs : List RowPair) :
    joinedColumns left right on suffixes pairs =
      (rules left right on suffixes).map (ColumnRule.column · pairs) := by
  simp only [joinedColumns, rules, List.map_append, List.map_map]
  congr 1
  · refine List.map_congr_left fun c hc => ?_
    simp only [Function.comp_apply, ColumnRule.column]
    split
    · rw [keyCells_eq hl hc]
    · rw [pick?_eq_map hl hc, List.map_map]
      rfl
  · refine List.map_congr_left fun c hc => ?_
    rw [pick?_eq_map hr (List.mem_filter.mp hc).1, List.map_map]
    rfl

theorem exists_keyColumns (side : Side) (h : ∀ name ∈ on, name ∈ t.names) :
    ∃ columns, keyColumns t on side = .ok columns := by
  have hcolumn : ∀ name ∈ on, ∃ c, t.column? name = some c := fun name hname =>
    Option.isSome_iff_exists.mp (Table.column?_isSome_iff.mpr (h name hname))
  clear h
  induction on with
  | nil => exact ⟨[], rfl⟩
  | cons name on ih =>
    obtain ⟨c, hc⟩ := hcolumn name List.mem_cons_self
    obtain ⟨columns, hcolumns⟩ := ih fun other hother =>
      hcolumn other (List.mem_cons_of_mem _ hother)
    refine ⟨c :: columns, Outcome.mapM_eq_ok.mpr (.cons (by simp [hc]) ?_)⟩
    exact Outcome.mapM_eq_ok.mp hcolumns

/-- What a join is made of, and when there is one. -/
theorem joinPair_eq_ok_iff (hl : left.WellFormed) (hr : right.WellFormed) :
    joinPair left right on kind suffixes = .ok t ↔
      (∀ name ∈ on, name ∈ left.names ∧ name ∈ right.names) ∧
        ((rules left right on suffixes).map ColumnRule.name).Nodup ∧
        t = Table.tabulate (rules left right on suffixes)
          (if rules left right on suffixes = [] then []
            else nestedLoop kind left.rowCount right.rowCount (rowsMatch left right on)) := by
  rw [← Table.ofColumns_eq_ok_tabulate, ← joinedColumns_eq_rules hl hr]
  constructor
  · intro h
    obtain ⟨leftColumns, rightColumns, hleft, hright, htable⟩ := joinPair_eq_ok h
    rw [rowPairs_eq_nestedLoop hl hr hleft hright] at htable
    refine ⟨fun name hname => ⟨?_, ?_⟩, htable⟩
    · exact Table.column?_isSome_iff.mp (column?_isSome_of_keyColumns hleft name hname)
    · exact Table.column?_isSome_iff.mp (column?_isSome_of_keyColumns hright name hname)
  · rintro ⟨hkeys, htable⟩
    obtain ⟨leftColumns, hleft⟩ := exists_keyColumns .left fun name hname => (hkeys name hname).1
    obtain ⟨rightColumns, hright⟩ := exists_keyColumns .right fun name hname => (hkeys name hname).2
    rw [← rowPairs_eq_nestedLoop hl hr hleft hright] at htable
    rw [joinPair, hleft, hright]
    simp only [bind, Except.bind, htable]
    rfl

end RollCall.Join
