import RollCall.Proofs.RuledGroups

/-!
# Answers to requests

The parameters of an aggregation ask for metrics, each by a name, an aggregator and a source. What
they get is the answer to each request in turn, whichever way it was put. So an aggregation succeeds
if the group columns are there, each request has an answer, and all names are different.
-/
namespace RollCall

variable {t u : Table} {p : AggregateParameters} {rs : List MetricRequest}

/-- The parameters group by the given columns and ask for one metric. -/
structure AggregateParameters.Requests (p : AggregateParameters) (group : List String)
    (r : MetricRequest) : Prop where
  group_eq : p.group = group
  asks : p.Asks [r]

namespace MetricSource

variable {source : MetricSource} {column : Option String} {node : Option Json} {name : String}

/-- The source is the column of the name, by itself or as an expression. -/
def Reads (source : MetricSource) (name : String) : Prop :=
  source = .column name ∨ source = .expression (.column name)

private theorem Reads.cells_eq (h : source.Reads name) {c : Column} (hc : t.column? name = some c)
    (a : Aggregator) : source.cells t a = .ok (some c.cells) := by
  rcases h with rfl | rfl
  · simp only [cells, hc]
  · simp only [cells, Expression.evalColumn, hc]
    rfl

theorem Reads.cell?_eq (h : source.Reads name) (row : Nat) :
    source.cell? t row = t.cell? row name := by
  rcases h with rfl | rfl
  · rfl
  · rw [cell?, Expression.evalRow]
    cases t.cell? row name <;> rfl

end MetricSource

namespace MetricRequest

theorem answer_rows (t : Table) (name : String) :
    answer t ⟨name, .count, .rows⟩ = .ok ⟨name, .count, none⟩ := rfl

private theorem answer_of_reads {name column : String} {a : Aggregator} {source : MetricSource}
    {c : Column} (h : source.Reads column) (hc : t.column? column = some c)
    (haccepts : ∀ x ∈ c.cells, a.accepts x) :
    answer t ⟨name, a, source⟩ = .ok ⟨name, a, some c.cells⟩ := by
  have hfind : c.cells.find? (fun x => !a.accepts x) = none := by simpa using haccepts
  simp [answer, h.cells_eq hc, hfind, bind, Except.bind]

end MetricRequest

namespace Aggregation

variable {m : Metric} {ms : List Metric}

private theorem singleMetric_eq_answers (h : p.AsksOnce rs) :
    singleMetric t p = rs.mapM (MetricRequest.answer t) := by
  cases h with
  | none h =>
    rw [singleMetric, h]
    rfl
  | column h ha hsource =>
    simp only [singleMetric, h, ha, List.mapM_cons, List.mapM_nil, ← metricOf_eq_answer hsource]
    rfl
  | @node source a _ h hnode ha hsource =>
    have hmetric : singleMetric t p =
        (metricOf t (p.name.getD (Text.asciiLower a.title)) a none (some source)).map ([·]) := by
      rw [singleMetric, h]
      simp only [ha]
      cases source with
      | str name => exact absurd rfl (hnode name)
      | _ => rfl
    rw [hmetric, metricOf_eq_answer hsource, List.mapM_cons, List.mapM_nil]
    rfl

private theorem namedMetric_eq_answer {name : String} {spec : Json} {r : MetricRequest}
    (h : AggregateParameters.Describes (name, spec) r) :
    namedMetric t name spec = r.answer t := by
  cases h with
  | intro hword ha hsource =>
    rw [namedMetric, hword]
    simp only [ha, ← metricOf_eq_answer hsource]
    rfl

/-- The metrics are the answers to all requests, of which there is one at least. -/
theorem metrics_eq_answers (h : p.Asks rs) (hne : rs ≠ []) :
    metrics t p = rs.mapM (MetricRequest.answer t) := by
  obtain ⟨single, named, hsingle, hnamed, rfl⟩ := h
  have hspecs : (p.metrics.mapM fun field => namedMetric t field.1 field.2) =
      named.mapM (MetricRequest.answer t) := by
    clear hsingle hne
    revert hnamed
    generalize p.metrics = specs
    intro hnamed
    induction hnamed with
    | nil => rfl
    | cons hr _ ih => rw [List.mapM_cons, List.mapM_cons, ih, ← namedMetric_eq_answer hr]
  rw [metrics, singleMetric_eq_answers hsingle, hspecs, List.mapM_append]
  cases hms : single.mapM (MetricRequest.answer t) with
  | error failure => rfl
  | ok ms =>
    cases hms' : named.mapM (MetricRequest.answer t) with
    | error failure => rfl
    | ok ms' =>
      have hsome : ms ++ ms' ≠ [] := by
        have hlength := Outcome.length_eq_of_mapM hms
        have hlength' := Outcome.length_eq_of_mapM hms'
        rw [← List.length_pos_iff, List.length_append] at hne ⊢
        omega
      simp only [bind, Except.bind]

private theorem exists_groupColumns {names : List String} (h : ∀ name ∈ names, name ∈ t.names) :
    ∃ columns, names.mapM (groupColumn t) = .ok columns := by
  induction names with
  | nil => exact ⟨[], rfl⟩
  | cons name names ih =>
    obtain ⟨c, hc⟩ :=
      Option.isSome_iff_exists.mp (Table.column?_isSome_iff.mpr (h name List.mem_cons_self))
    obtain ⟨columns, hcolumns⟩ := ih fun other hother => h other (List.mem_cons_of_mem _ hother)
    refine ⟨c :: columns, Outcome.mapM_eq_ok.mpr (.cons ?_ (Outcome.mapM_eq_ok.mp hcolumns))⟩
    rw [groupColumn, hc]

/-- An aggregation groups its table. -/
theorem groups_of_aggregate (ht : t.WellFormed) (h : aggregate t p = .ok u) :
    u.WellFormed ∧ ∃ rs keys, Groups t p.group rs keys u := by
  simp only [aggregate, Outcome.bind_eq_ok, Outcome.mapError_eq_ok] at h
  obtain ⟨columns, hcolumns, ms, hms, hsummary⟩ := h
  obtain ⟨hne, rs, -, hanswers⟩ := exists_asks_of_metrics ht hms
  obtain ⟨hwell, hgroups⟩ :=
    groups_of_summary ht (forall₂_groupColumns hcolumns) hanswers hne hsummary
  exact ⟨hwell, rs, _, hgroups⟩

/-- An aggregation whose single request has an answer succeeds. -/
theorem exists_groups_of_answer (ht : t.WellFormed) {group : List String} {r : MetricRequest}
    (hp : p.Requests group r) (hanswer : r.answer t = .ok m)
    (hgroup : ∀ name ∈ group, name ∈ t.names) (hnodup : group.Nodup) (hname : r.name ∉ group) :
    ∃ u keys, aggregate t p = .ok u ∧ u.WellFormed ∧ Groups t group [r] keys u := by
  obtain ⟨rfl, hasks⟩ := hp
  obtain ⟨columns, hcolumns⟩ := exists_groupColumns hgroup
  have hgroups := forall₂_groupColumns hcolumns
  have hanswers : List.Forall₂ (Answers t) [r] [m] := .cons (answers_of_answer ht hanswer) .nil
  have hmetrics : metrics t p = .ok [m] := by
    rw [metrics_eq_answers hasks (List.cons_ne_nil _ _), List.mapM_cons, hanswer]
    rfl
  have hsummary : ∃ u, summary t columns [m] = .ok u := by
    refine ⟨_, (summary_eq_ok_iff (List.cons_ne_nil _ _)).mpr ⟨?_, rfl⟩⟩
    rw [names_of_forall₂ hgroups, names_of_answers hanswers]
    exact List.nodup_append'.mpr ⟨hnodup, List.nodup_singleton _, by simpa using hname⟩
  obtain ⟨u, hu⟩ := hsummary
  obtain ⟨hwell, hgrouped⟩ := groups_of_summary ht hgroups hanswers (List.cons_ne_nil _ _) hu
  refine ⟨u, _, ?_, hwell, hgrouped⟩
  simp only [aggregate, Outcome.bind_eq_ok, Outcome.mapError_eq_ok]
  exact ⟨columns, hcolumns, [m], hmetrics, hu⟩

/-- A request that reads a column is answered by its cells. -/
theorem exists_answer_of_reads (ht : t.WellFormed) {n column : String} {a : Aggregator}
    {source : MetricSource} (hreads : source.Reads column) (hcolumn : column ∈ t.names)
    (haccepts : ∀ row < t.rowCount, a.accepts (t.cellAt row column)) :
    ∃ m, MetricRequest.answer t ⟨n, a, source⟩ = .ok m := by
  obtain ⟨c, hc⟩ := Option.isSome_iff_exists.mp (Table.column?_isSome_iff.mpr hcolumn)
  refine ⟨_, MetricRequest.answer_of_reads hreads hc fun x hx => ?_⟩
  obtain ⟨row, hrow, rfl⟩ := List.getElem_of_mem hx
  have haccept := haccepts row (ht.length_of_column? hc ▸ hrow)
  rwa [Table.cellAt, cell?_of_column? hc, List.getElem?_eq_getElem hrow] at haccept

end Aggregation
end RollCall
