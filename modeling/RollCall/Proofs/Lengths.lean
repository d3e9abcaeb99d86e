import RollCall.Condition.Basic
import RollCall.Expression.Basic
import RollCall.Proofs.Tables

/-!
# One value for every row

On a well-formed table expressions give one cell and conditions one truth value for each row. The
inductions follow the trees: a list of operands or children goes beside the tree it belongs to.
-/
namespace RollCall

variable {t : Table}

namespace Expression

theorem length_applyRows {op : Operator} {rows : Nat} {columns : List (List Cell)}
    {cells : List Cell} (h : applyRows op rows columns = .ok cells) : cells.length = rows := by
  simpa using Outcome.length_eq_of_mapM h

theorem length_evalColumn (ht : t.WellFormed) {e : Expression} {cells : List Cell}
    (h : e.evalColumn t = .ok cells) : cells.length = t.rowCount := by
  cases e with
  | column name =>
    rw [evalColumn] at h
    split at h
    · next c hc =>
      cases h
      exact ht.length_of_column? hc
    · cases h
  | const c =>
    rw [evalColumn] at h
    cases h
    exact List.length_replicate
  | apply op operands =>
    rw [evalColumn, Outcome.bind_eq_ok] at h
    obtain ⟨columns, -, hcells⟩ := h
    exact length_applyRows hcells

theorem length_evalColumnEach (ht : t.WellFormed) {es : List Expression}
    {columns : List (List Cell)} (h : evalColumnEach t es = .ok columns) :
    ∀ cells ∈ columns, cells.length = t.rowCount := by
  induction es generalizing columns with
  | nil =>
    rw [evalColumnEach] at h
    cases h
    simp
  | cons e es ih =>
    simp only [evalColumnEach, Outcome.bind_eq_ok, Outcome.pure_eq_ok] at h
    obtain ⟨cells, hcells, rest, hrest, rfl⟩ := h
    intro other hother
    rcases List.mem_cons.mp hother with rfl | hother
    · exact length_evalColumn ht hcells
    · exact ih hrest other hother

end Expression

private theorem Clause.length_mask [Library] (ht : t.WellFormed) {c : Clause} {mask : List Bool}
    (h : c.mask t = .ok mask) : mask.length = t.rowCount := by
  rw [Clause.mask] at h
  split at h
  · cases h
  · next column hcolumn =>
    rw [Outcome.bind_eq_ok] at h
    obtain ⟨test, -, hmask⟩ := h
    rw [← Outcome.pure_eq_ok.mp hmask, List.length_map]
    exact ht.length_of_column? hcolumn

namespace Condition

mutual

theorem length_mask [Library] (ht : t.WellFormed) :
    ∀ (c : Condition) {mask : List Bool}, c.mask t = .ok mask → mask.length = t.rowCount
  | .all cs, mask, h => by
    rw [Condition.mask] at h
    exact length_maskAll ht cs List.length_replicate h
  | .any cs, mask, h => by
    rw [Condition.mask] at h
    exact length_maskAny ht cs List.length_replicate h
  | .not c, mask, h => by
    rw [Condition.mask, Outcome.bind_eq_ok] at h
    obtain ⟨inner, hinner, hmask⟩ := h
    rw [← Outcome.pure_eq_ok.mp hmask, List.length_map]
    exact length_mask ht c hinner
  | .clause c, mask, h => by
    rw [Condition.mask] at h
    exact c.length_mask ht h

theorem length_maskAll [Library] (ht : t.WellFormed) :
    ∀ (cs : List Condition) {rows mask : List Bool}, rows.length = t.rowCount →
      maskAll t rows cs = .ok mask → mask.length = t.rowCount
  | [], rows, mask, hrows, h => by
    rw [maskAll] at h
    cases h
    exact hrows
  | c :: cs, rows, mask, hrows, h => by
    rw [maskAll, Outcome.bind_eq_ok] at h
    obtain ⟨first, hfirst, hrest⟩ := h
    refine length_maskAll ht cs ?_ hrest
    rw [List.length_zipWith, hrows, length_mask ht c hfirst, Nat.min_self]

theorem length_maskAny [Library] (ht : t.WellFormed) :
    ∀ (cs : List Condition) {rows mask : List Bool}, rows.length = t.rowCount →
      maskAny t rows cs = .ok mask → mask.length = t.rowCount
  | [], rows, mask, hrows, h => by
    rw [maskAny] at h
    cases h
    exact hrows
  | c :: cs, rows, mask, hrows, h => by
    rw [maskAny, Outcome.bind_eq_ok] at h
    obtain ⟨first, hfirst, hrest⟩ := h
    refine length_maskAny ht cs ?_ hrest
    rw [List.length_zipWith, hrows, length_mask ht c hfirst, Nat.min_self]

end

end Condition

end RollCall
