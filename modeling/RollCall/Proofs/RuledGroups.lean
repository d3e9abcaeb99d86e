import RollCall.Proofs.GroupedTables
import RollCall.Proofs.RuledTables

/-!
# Groupings by rule

The table that sums up a grouping is made of it by rules: the group columns give the cell of the
first row, and the metrics what they make of all rows.
-/
namespace RollCall

namespace Aggregation

variable {t u : Table} {columns : List Column} {ms : List Metric}

/-- The columns of a summary, by rules for groups. -/
def summaryRules (kindOf : Metric → ColumnKind) (columns : List Column) (ms : List Metric) :
    List (ColumnRule (List Key × List Nat)) :=
  (columns.map fun c => ⟨c.name, c.kind, fun g => representative c g.2⟩) ++
    ms.map fun m => ⟨m.name, kindOf m, fun g => metricCell m g.2⟩

/-- The type of a metric is that of its cells. -/
def kindAmong (groups : Grouping) (m : Metric) : ColumnKind :=
  ColumnKind.infer (groups.map fun g => metricCell m g.2)

theorem map_name_summaryRules (kindOf : Metric → ColumnKind) (columns : List Column)
    (ms : List Metric) :
    (summaryRules kindOf columns ms).map ColumnRule.name =
      columns.map Column.name ++ ms.map Metric.name := by
  simp [summaryRules, Function.comp_def]

/-- The cell of a group column is that of the first row of the group. -/
theorem cellAt_summaryRules {kindOf : Metric → ColumnKind} {gs : Grouping} {i : Nat}
    (hnames : (columns.map Column.name ++ ms.map Metric.name).Nodup) {c : Column}
    (hc : c ∈ columns) (hi : i < gs.length) :
    (Table.tabulate (summaryRules kindOf columns ms) gs).cellAt i c.name =
      representative c gs[i].2 := by
  have hrule : (⟨c.name, c.kind, fun g => representative c g.2⟩ :
      ColumnRule (List Key × List Nat)) ∈ summaryRules kindOf columns ms :=
    List.mem_append_left _ (List.mem_map_of_mem hc)
  exact Table.cellAt_tabulate (by rwa [map_name_summaryRules]) hrule hi

private theorem summaryColumns_eq_rules (t : Table) (columns : List Column) (ms : List Metric) :
    summaryColumns t columns ms =
      (summaryRules (kindAmong (groups t columns)) columns ms).map
        (ColumnRule.column · (groups t columns)) := by
  rw [summaryColumns, summaryRules, List.map_append, List.map_map, List.map_map]
  rfl

/-- What a summary is made of, and when there is one. -/
theorem summary_eq_ok_iff (hms : ms ≠ []) :
    summary t columns ms = .ok u ↔
      (columns.map Column.name ++ ms.map Metric.name).Nodup ∧
        u = Table.tabulate (summaryRules (kindAmong (groups t columns)) columns ms)
          (groups t columns) := by
  have hrules : summaryRules (kindAmong (groups t columns)) columns ms ≠ [] := by
    simp [summaryRules, hms]
  have htable : Table.ofColumns (summaryColumns t columns ms) = .ok u ↔
      (columns.map Column.name ++ ms.map Metric.name).Nodup ∧
        u = Table.tabulate (summaryRules (kindAmong (groups t columns)) columns ms)
          (groups t columns) := by
    rw [summaryColumns_eq_rules, Table.ofColumns_eq_ok_tabulate, map_name_summaryRules,
      if_neg hrules]
  constructor
  · intro h
    exact htable.mp (columns_of_summary h)
  · intro h
    have hclash : (ms.find? fun m => m.name ∈ columns.map Column.name) = none := by
      refine List.find?_eq_none.mpr fun m hm hname => ?_
      exact (List.nodup_append'.mp h.1).2.2 (of_decide_eq_true hname) (List.mem_map_of_mem hm)
    have hcolumns := htable.mpr h
    rw [summaryColumns] at hcolumns
    rw [summary, hclash]
    simp only [hcolumns]

theorem ne_nil_of_metrics {p : AggregateParameters} (h : metrics t p = .ok ms) : ms ≠ [] := by
  simp only [metrics, Outcome.bind_eq_ok] at h
  obtain ⟨single, -, named, -, h⟩ := h
  split at h
  · cases h
  · next hsome =>
    rw [Outcome.pure_eq_ok] at h
    exact h ▸ hsome

/-- What an aggregation is made of, and when there is one. -/
theorem aggregate_eq_ok_iff {p : AggregateParameters} :
    aggregate t p = .ok u ↔ ∃ columns ms, p.group.mapM (groupColumn t) = .ok columns ∧
      metrics t p = .ok ms ∧ (p.group ++ ms.map Metric.name).Nodup ∧
        u = Table.tabulate (summaryRules (kindAmong (groups t columns)) columns ms)
          (groups t columns) := by
  simp only [aggregate, Outcome.bind_eq_ok, Outcome.mapError_eq_ok]
  refine exists_congr fun columns => ?_
  constructor
  · rintro ⟨hcolumns, ms, hms, hsummary⟩
    have hnames := names_of_forall₂ (forall₂_groupColumns hcolumns)
    rw [summary_eq_ok_iff (ne_nil_of_metrics hms), hnames] at hsummary
    exact ⟨ms, hcolumns, hms, hsummary⟩
  · rintro ⟨ms, hcolumns, hms, hsummary⟩
    have hnames := names_of_forall₂ (forall₂_groupColumns hcolumns)
    refine ⟨hcolumns, ms, hms, ?_⟩
    rwa [summary_eq_ok_iff (ne_nil_of_metrics hms), hnames]

end Aggregation
end RollCall
