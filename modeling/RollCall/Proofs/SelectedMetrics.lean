import RollCall.Proofs.Filtering
import RollCall.Proofs.RequestedMetrics

/-!
# Metrics of selected rows

The cells of an expression are computed row by row, so those of selected rows are selected from
those of all. Hence a metric that can be computed from a table can be computed from any of its rows.
-/
namespace RollCall

variable {t : Table} {rows : List Nat}

def selectCells (rows : List Nat) (cells : List Cell) : List Cell :=
  rows.map fun row => cells[row]?.getD .null

theorem Column.pick_eq_selectCells (c : Column) (rows : List Nat) :
    c.pick rows = selectCells rows c.cells :=
  c.pick_eq rows

theorem Expression.evalColumn_takeRows (hrows : ∀ row ∈ rows, row < t.rowCount)
    {e : Expression} {cells : List Cell} (h : e.evalColumn t = .ok cells) :
    e.evalColumn (t.takeRows rows) = .ok (selectCells rows cells) := by
  induction e using inductionOn generalizing cells with
  | column name =>
    rw [evalColumn] at h ⊢
    rw [Table.column?_takeRows]
    split at h
    · next c hc =>
      cases h
      simp only [hc, Option.map_some, c.pick_eq_selectCells]
    · cases h
  | const c =>
    rw [evalColumn] at h ⊢
    cases h
    refine congrArg Except.ok (List.eq_replicate_iff.mpr ⟨List.length_map _, fun d hd => ?_⟩).symm
    obtain ⟨row, hrow, rfl⟩ := List.mem_map.mp hd
    simp [hrows row hrow]
  | apply op operands ih =>
    rw [evalColumn_apply, Outcome.bind_eq_ok] at h
    obtain ⟨columns, hcolumns, hcells⟩ := h
    have hoperands : operands.mapM (evalColumn (t.takeRows rows)) =
        .ok (columns.map (selectCells rows)) :=
      Outcome.mapM_eq_ok_map (fun e he cells hcells => ih e he hcells) hcolumns
    have hlength := length_applyRows hcells
    rw [applyRows_eq_mapM, Outcome.mapM_range_eq_ok] at hcells
    rw [evalColumn_apply, hoperands]
    refine (applyRows_eq_mapM op rows.length _).trans (Outcome.mapM_range_eq_ok.mpr ⟨?_, ?_⟩)
    · exact List.length_map _
    · intro j hj
      have hj : j < rows.length := by simpa [selectCells] using hj
      have hrow : rows[j] < cells.length := hlength ▸ hrows _ (List.getElem_mem hj)
      have hvalue := hcells.2 rows[j] hrow
      simpa [selectCells, hj, hrow, Function.comp_def] using hvalue

private theorem MetricSource.cells_takeRows (hrows : ∀ row ∈ rows, row < t.rowCount)
    {source : MetricSource} {a : Aggregator} {cells : Option (List Cell)}
    (h : source.cells t a = .ok cells) :
    source.cells (t.takeRows rows) a = .ok (cells.map (selectCells rows)) := by
  cases source with
  | rows =>
    rw [MetricSource.cells] at h ⊢
    split at h
    · next ha =>
      cases h
      rw [if_pos ha]
      rfl
    · cases h
  | column name =>
    rw [MetricSource.cells] at h ⊢
    rw [Table.column?_takeRows]
    split at h
    · next c hc =>
      cases h
      simp only [hc, Option.map_some, c.pick_eq_selectCells]
    · cases h
  | expression e =>
    simp only [MetricSource.cells, Outcome.bind_eq_ok, Outcome.mapError_eq_ok,
      Outcome.pure_eq_ok] at h ⊢
    obtain ⟨values, hvalues, rfl⟩ := h
    exact ⟨_, Expression.evalColumn_takeRows hrows hvalues, rfl⟩

namespace Aggregation

variable {p : AggregateParameters}

def selectMetric (rows : List Nat) (m : Metric) : Metric :=
  { m with cells := m.cells.map (selectCells rows) }

/-- An aggregator that accepts all cells accepts selected ones, and a cell that is lacking. -/
theorem accepts_selectCells {a : Aggregator} {cells : List Cell}
    (h : ∀ c ∈ cells, a.accepts c) : ∀ c ∈ selectCells rows cells, a.accepts c := by
  intro c hc
  obtain ⟨row, -, rfl⟩ := List.mem_map.mp hc
  cases hcell : cells[row]? with
  | none => simp [Aggregator.accepts, Cell.isMissing]
  | some c => exact h c (List.mem_of_getElem? hcell)

private theorem answer_takeRows (hrows : ∀ row ∈ rows, row < t.rowCount) {r : MetricRequest}
    {m : Metric}
    (h : r.answer t = .ok m) : r.answer (t.takeRows rows) = .ok (selectMetric rows m) := by
  rw [MetricRequest.answer, Outcome.bind_eq_ok] at h
  obtain ⟨cells, hcells, h⟩ := h
  split at h
  · cases h
  · next haccepts =>
    rw [Outcome.pure_eq_ok] at h
    subst h
    have hselected : ((cells.map (selectCells rows)).getD []).find?
        (fun c => !r.aggregator.accepts c) = none := by
      cases cells with
      | none => rfl
      | some values =>
        simp only [Option.getD_some, List.find?_eq_none, Bool.not_eq_true', Bool.not_eq_false]
          at haccepts
        simpa using accepts_selectCells haccepts
    rw [MetricRequest.answer, MetricSource.cells_takeRows hrows hcells]
    simp only [bind, Except.bind, hselected]
    rfl

/-- Metrics that can be computed from a table can be computed from any of its rows. -/
theorem metrics_takeRows (ht : t.WellFormed) (hrows : ∀ row ∈ rows, row < t.rowCount)
    {ms : List Metric} (h : metrics t p = .ok ms) :
    metrics (t.takeRows rows) p = .ok (ms.map (selectMetric rows)) := by
  obtain ⟨hms, rs, hasks, hanswers⟩ := exists_asks_of_metrics ht h
  have hne : rs ≠ [] := by
    rintro rfl
    cases hanswers
    exact hms rfl
  rw [metrics_eq_answers hasks hne] at h ⊢
  exact Outcome.mapM_eq_ok_map (fun r _ m hm => answer_takeRows hrows hm) h

end Aggregation
end RollCall
