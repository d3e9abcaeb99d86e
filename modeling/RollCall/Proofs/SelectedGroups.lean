import Mathlib.Data.List.GetD
import RollCall.Proofs.KeyedConditions
import RollCall.Proofs.SelectedMetrics

/-!
# Groups of selected rows

Rows of one key satisfy a condition on the group columns together, as no comparison tells cells of
one key apart. So a filter by such a condition keeps whole groups, and it does not matter whether it
comes before the grouping or after.
-/
namespace RollCall

namespace Grouping

variable {keyOf keyOf' : Nat → List Key} {n : Nat} {groups groups' : Grouping} {q : Nat → Bool}

/-- A group with the rows that its rows are the positions of. -/
def located (rows : List Nat) (g : List Key × List Nat) : List Key × List Nat :=
  (g.1, g.2.map fun j => rows.getD j 0)

section Selected

def rowsOf (keyOf : Nat → List Key) (n : Nat) (k : List Key) : List Nat :=
  (List.range n).filter fun row => keyOf row = k

theorem mem_rowsOf {k : List Key} {row : Nat} :
    row ∈ rowsOf keyOf n k ↔ row < n ∧ keyOf row = k := by
  simp [rowsOf]

variable (hq : ∀ i < n, ∀ j < n, keyOf i = keyOf j → q i = q j)
include hq

/-- If the rows of a key pass a test together, then its first row tells whether they do. -/
theorem any_head_rowsOf {k : List Key} {row : Nat} (hrow : row ∈ rowsOf keyOf n k) :
    (rowsOf keyOf n k).head?.any q = q row := by
  obtain ⟨first, rest, hrows⟩ := List.exists_cons_of_ne_nil (List.ne_nil_of_mem hrow)
  obtain ⟨hfirst, hfirstKey⟩ :=
    mem_rowsOf.mp (hrows ▸ List.mem_cons_self : first ∈ rowsOf keyOf n k)
  obtain ⟨hrow, hrowKey⟩ := mem_rowsOf.mp hrow
  rw [hrows]
  exact hq first hfirst row hrow (hfirstKey.trans hrowKey.symm)

/-- Of the rows that pass the test, those of a key that passes it are all rows of the key. -/
theorem filter_rowsOf {k : List Key} (hk : (rowsOf keyOf n k).head?.any q) :
    (((List.range n).filter q).filter fun row => keyOf row = k) = rowsOf keyOf n k := by
  rw [List.filter_filter]
  refine List.filter_congr fun row hrow => ?_
  by_cases hrowKey : keyOf row = k
  · have hpass := any_head_rowsOf hq (mem_rowsOf.mpr ⟨List.mem_range.mp hrow, hrowKey⟩)
    simp [hrowKey, ← hpass, hk]
  · simp [hrowKey]

/-- The groups of the rows that pass the test are the groups whose first row does. -/
theorem Collects.select (h : Collects keyOf n groups)
    (h' : Collects keyOf' ((List.range n).filter q).length groups')
    (hkey : ∀ j < ((List.range n).filter q).length,
      keyOf' j = keyOf (((List.range n).filter q).getD j 0)) :
    groups'.map (located ((List.range n).filter q)) =
      groups.filter fun g => g.2.head?.any q := by
  have hlocated : ∀ k, (rowsOf keyOf n k).head?.any q →
      located ((List.range n).filter q) (k, rowsOf keyOf' ((List.range n).filter q).length k) =
        (k, rowsOf keyOf n k) := by
    intro k hk
    refine congrArg (Prod.mk k) ?_
    rw [← filter_rowsOf hq hk]
    conv_rhs => rw [← map_getD_range ((List.range n).filter q) 0, List.filter_map]
    refine congrArg (List.map _) (List.filter_congr fun j hj => ?_)
    rw [hkey j (List.mem_range.mp hj)]
    rfl
  have hkeys : groups'.keys = groups.keys.filter fun k => (rowsOf keyOf n k).head?.any q := by
    refine h'.rising.ext (h.rising.filter _) fun k => ?_
    rw [h'.mem_keys_iff, List.mem_filter, h.mem_keys_iff]
    constructor
    · rintro ⟨j, hj, rfl⟩
      have hmem : ((List.range n).filter q).getD j 0 ∈ (List.range n).filter q := by
        rw [List.getD_eq_getElem _ 0 hj]
        exact List.getElem_mem hj
      obtain ⟨hrow, hpass⟩ := List.mem_filter.mp hmem
      have hrow := List.mem_range.mp hrow
      refine ⟨⟨_, hrow, (hkey j hj).symm⟩, ?_⟩
      rwa [any_head_rowsOf hq (mem_rowsOf.mpr ⟨hrow, (hkey j hj).symm⟩)]
    · rintro ⟨⟨row, hrow, rfl⟩, hk⟩
      rw [any_head_rowsOf hq (mem_rowsOf.mpr ⟨hrow, rfl⟩)] at hk
      obtain ⟨j, hj, hj'⟩ := List.getElem_of_mem (List.mem_filter.mpr ⟨List.mem_range.mpr hrow, hk⟩)
      exact ⟨j, hj, by rw [hkey j hj, List.getD_eq_getElem _ 0 hj, hj']⟩
  rw [h.eq_map, h'.eq_map, List.filter_map, List.map_map, hkeys]
  exact List.map_congr_left fun k hk => hlocated k (List.mem_filter.mp hk).2

end Selected

end Grouping

/-- What is seen of a table when only the columns of the given names show their types. -/
def Table.shown (typed : List String) (t : Table) :
    List (String × Option ColumnKind × List Cell) × Nat :=
  (t.columns.map fun c => (c.name, if c.name ∈ typed then some c.kind else none, c.cells),
    t.rowCount)

namespace Aggregation

open Grouping (Collects located)

variable {t u : Table} {p : AggregateParameters} {columns : List Column} {ms : List Metric}
  {rows : List Nat} {q : Nat → Bool}

def selectColumn (rows : List Nat) (c : Column) : Column :=
  { c with cells := c.pick rows }

theorem groupColumns_takeRows {names : List String}
    (h : names.mapM (groupColumn t) = .ok columns) (rows : List Nat) :
    names.mapM (groupColumn (t.takeRows rows)) = .ok (columns.map (selectColumn rows)) := by
  refine Outcome.mapM_eq_ok_map (fun name _ c hc => ?_) h
  rw [groupColumn, Table.column?_takeRows, column?_of_groupColumn hc]
  rfl

theorem getElem?_pick (c : Column) {j : Nat} (hj : j < rows.length) :
    (c.pick rows)[j]?.getD .null = c.cells[rows.getD j 0]?.getD .null := by
  simp [Column.pick_eq, hj]

private theorem rowKey_selectColumn {j : Nat} (hj : j < rows.length) :
    rowKey (columns.map (selectColumn rows)) j = rowKey columns (rows.getD j 0) := by
  rw [rowKey, rowKey, List.map_map]
  refine List.map_congr_left fun c _ => ?_
  exact congrArg Cell.key (getElem?_pick c hj)

/-- The groups of selected rows, if all rows of a key are selected or none. -/
theorem groups_takeRows (hcolumns : ∀ c ∈ columns, c.length = t.rowCount) (hne : columns ≠ [])
    (hq : ∀ i < t.rowCount, ∀ j < t.rowCount, rowKey columns i = rowKey columns j → q i = q j) :
    let kept := (List.range t.rowCount).filter q
    (groups (t.takeRows kept) (columns.map (selectColumn kept))).map (located kept) =
      (groups t columns).filter fun g => g.2.head?.any q := by
  intro kept
  have hlength : ∀ c ∈ columns.map (selectColumn kept), c.length = (t.takeRows kept).rowCount := by
    intro c hc
    obtain ⟨d, -, rfl⟩ := List.mem_map.mp hc
    exact d.length_pick kept
  have hcollects : Collects (rowKey columns) t.rowCount (groups t columns) := by
    rcases groups_cases hcolumns with ⟨hnone, -⟩ | ⟨-, hcollects⟩
    · exact absurd hnone hne
    · exact hcollects
  have hselected : Collects (rowKey (columns.map (selectColumn kept))) kept.length
      (groups (t.takeRows kept) (columns.map (selectColumn kept))) := by
    rcases groups_cases hlength with ⟨hnone, -⟩ | ⟨-, hcollects⟩
    · exact absurd (List.map_eq_nil_iff.mp hnone) hne
    · exact hcollects
  exact hcollects.select hq hselected fun j hj => rowKey_selectColumn hj

private theorem representative_selectColumn (c : Column) {g : List Key × List Nat}
    (hg : ∀ j ∈ g.2, j < rows.length) :
    representative (selectColumn rows c) g.2 = representative c (located rows g).2 := by
  obtain ⟨k, js⟩ := g
  cases js with
  | nil => rfl
  | cons j js => exact getElem?_pick c (hg j List.mem_cons_self)

private theorem metricCell_selectMetric (m : Metric) {g : List Key × List Nat}
    (hg : ∀ j ∈ g.2, j < rows.length) :
    metricCell (selectMetric rows m) g.2 = metricCell m (located rows g).2 := by
  obtain ⟨k, js⟩ := g
  obtain ⟨name, a, cells⟩ := m
  cases cells with
  | none => simp [metricCell, selectMetric, located]
  | some values =>
    simp only [metricCell, selectMetric, located, Option.map_some, List.map_map]
    refine congrArg a.apply (List.map_congr_left fun j hj => ?_)
    simp [selectCells, hg j hj]

private theorem shown_tabulate {α : Type} (typed : List String) (rs : List (ColumnRule α))
    (members : List α) :
    (Table.tabulate rs members).shown typed =
      (rs.map fun r => (r.name, if r.name ∈ typed then some r.kind else none, members.map r.cell),
        members.length) := by
  simp [Table.shown, Table.tabulate, ColumnRule.column, Function.comp_def]

/-- Selected columns and metrics show for the groups of positions what the columns and metrics show
for the groups of rows. -/
theorem shown_summaryRules {typed : List String} (kindOf kindOf' : Metric → ColumnKind)
    (hnames : ∀ m ∈ ms, m.name ∉ typed) {gs : Grouping}
    (hgs : ∀ g ∈ gs, ∀ j ∈ g.2, j < rows.length) :
    (Table.tabulate (summaryRules kindOf' (columns.map (selectColumn rows))
        (ms.map (selectMetric rows))) gs).shown typed =
      (Table.tabulate (summaryRules kindOf columns ms) (gs.map (located rows))).shown typed := by
  rw [shown_tabulate, shown_tabulate, List.length_map]
  refine congrArg (Prod.mk · gs.length) ?_
  simp only [summaryRules, List.map_append, List.map_map]
  congr 1
  · refine List.map_congr_left fun c _ => ?_
    refine congrArg (fun cells => (c.name, if c.name ∈ typed then some c.kind else none, cells)) ?_
    exact List.map_congr_left fun g hg => representative_selectColumn c (hgs g hg)
  · refine List.map_congr_left fun m hm => ?_
    have hname : (selectMetric rows m).name = m.name := rfl
    simp only [Function.comp_apply, hname, if_neg (hnames m hm), Prod.mk.injEq, true_and]
    exact List.map_congr_left fun g hg => metricCell_selectMetric m (hgs g hg)

theorem length_of_groupColumns (ht : t.WellFormed) {names : List String}
    (h : names.mapM (groupColumn t) = .ok columns) : ∀ c ∈ columns, c.length = t.rowCount := by
  intro c hc
  obtain ⟨name, -, hname⟩ := Outcome.exists_of_mem_right (forall₂_groupColumns h) hc
  exact ht.length_of_column? hname

/-- An aggregation of selected rows shows the groups of these rows. -/
theorem aggregate_takeRows (ht : t.WellFormed)
    (hcolumns : p.group.mapM (groupColumn t) = .ok columns) (hms : metrics t p = .ok ms)
    (hnames : (p.group ++ ms.map Metric.name).Nodup) (hgroup : p.group ≠ [])
    (hq : ∀ i < t.rowCount, ∀ j < t.rowCount, rowKey columns i = rowKey columns j → q i = q j) :
    ∃ s, aggregate (t.takeRows ((List.range t.rowCount).filter q)) p = .ok s ∧
      s.shown p.group = (Table.tabulate (summaryRules (kindAmong (groups t columns)) columns ms)
        ((groups t columns).filter fun g => g.2.head?.any q)).shown p.group := by
  let kept := (List.range t.rowCount).filter q
  have hkept : ∀ row ∈ kept, row < t.rowCount := fun row hrow =>
    List.mem_range.mp (List.mem_filter.mp hrow).1
  have hlength := length_of_groupColumns ht hcolumns
  have hne : columns ≠ [] := by
    rintro rfl
    exact hgroup (names_of_forall₂ (forall₂_groupColumns hcolumns)).symm
  have hcolumns' := groupColumns_takeRows hcolumns kept
  have hms' := metrics_takeRows ht hkept hms
  have hnames' : (p.group ++ (ms.map (selectMetric kept)).map Metric.name).Nodup := by
    rwa [List.map_map]
  refine ⟨_, aggregate_eq_ok_iff.mpr ⟨_, _, hcolumns', hms', hnames', rfl⟩, ?_⟩
  rw [← groups_takeRows hlength hne hq]
  refine shown_summaryRules _ _ (fun m hm hname => ?_) fun g hg => ?_
  · exact (List.nodup_append'.mp hnames).2.2 hname (List.mem_map_of_mem hm)
  · exact lt_of_mem_groups (length_of_groupColumns (ht.takeRows kept) hcolumns') hg

/-- A filter of groups keeps those whose first row satisfies the condition. -/
theorem filter_groups [Library] (ht : t.WellFormed)
    (hcolumns : p.group.mapM (groupColumn t) = .ok columns)
    (hnames : (p.group ++ ms.map Metric.name).Nodup) (hgroup : p.group ≠ []) {c : Condition}
    (hc : ∀ clause ∈ c.clauses, clause.column ∈ p.group) (kindOf : Metric → ColumnKind) :
    c.filter (Table.tabulate (summaryRules kindOf columns ms) (groups t columns)) =
      (c.check t.names).map fun _ => Table.tabulate (summaryRules kindOf columns ms)
        ((groups t columns).filter fun g => g.2.head?.any fun row => c.holds (t.cellAt row)) := by
  have hlength := length_of_groupColumns ht hcolumns
  have hgroups := forall₂_groupColumns hcolumns
  have hgroupNames := names_of_forall₂ hgroups
  have hrules : ((summaryRules kindOf columns ms).map ColumnRule.name).Nodup := by
    rwa [map_name_summaryRules, hgroupNames]
  have hcheck : c.check (Table.tabulate (summaryRules kindOf columns ms) (groups t columns)).names =
      c.check t.names := by
    refine Condition.check_eq_of_names fun clause hclause => iff_of_true ?_ ?_
    · rw [Table.names_tabulate, map_name_summaryRules, hgroupNames]
      exact List.mem_append_left _ (hc clause hclause)
    · obtain ⟨d, -, hd⟩ := Outcome.exists_of_mem_left hgroups (hc clause hclause)
      exact Table.column?_isSome_iff.mp (by rw [hd]; rfl)
  rw [Condition.filter_eq (Table.tabulate_wellFormed hrules _), hcheck]
  refine congrArg (Except.map · (c.check t.names)) (funext fun _ => ?_)
  refine Table.takeRows_tabulate_filter _ _ fun i hi => ?_
  have hfirst : (groups t columns)[i].2 ≠ [] := by
    rcases groups_cases hlength with ⟨hnone, -⟩ | ⟨-, hcollects⟩
    · rw [hnone] at hgroupNames
      exact absurd hgroupNames.symm hgroup
    · exact hcollects.ne_nil (List.getElem_mem hi)
  obtain ⟨row, rest, hrows⟩ := List.exists_cons_of_ne_nil hfirst
  rw [hrows, List.head?_cons, Option.any_some]
  refine Condition.holds_eq_of_keys fun clause hclause => congrArg Cell.key ?_
  obtain ⟨d, hd, hfind⟩ := Outcome.exists_of_mem_left hgroups (hc clause hclause)
  have hname := Table.name_of_column? hfind
  calc (Table.tabulate (summaryRules kindOf columns ms) (groups t columns)).cellAt i clause.column
      = representative d (groups t columns)[i].2 := by
        rw [← hname]
        exact cellAt_summaryRules (hgroupNames ▸ hnames) hd hi
    _ = d.cells[row]?.getD .null := by
        rw [hrows]
        rfl
    _ = t.cellAt row clause.column := by rw [Table.cellAt, cell?_of_column? hfind]

private theorem key_eq_of_rowKey_eq (hcolumns : p.group.mapM (groupColumn t) = .ok columns)
    {i j : Nat} (h : rowKey columns i = rowKey columns j) {name : String} (hname : name ∈ p.group) :
    (t.cellAt i name).key = (t.cellAt j name).key := by
  obtain ⟨c, hc, hfind⟩ := Outcome.exists_of_mem_left (forall₂_groupColumns hcolumns) hname
  rw [Table.cellAt, Table.cellAt, cell?_of_column? hfind, cell?_of_column? hfind]
  exact List.map_inj_left.mp h c hc

/-- A filter by the group columns keeps and drops whole groups, so it may come before the grouping
or after, and is refused alike. For a comparison cells of one key are the same. -/
theorem filter_commutes_with_groups [Library] (ht : t.WellFormed) (hgroup : p.group ≠ [])
    (h : aggregate t p = .ok u) {c : Condition}
    (hc : ∀ clause ∈ c.clauses, clause.column ∈ p.group) :
    (((c.filter t).mapError Failure.condition).bind fun s => aggregate s p).map
        (Table.shown p.group) =
      ((c.filter u).mapError .condition).map (Table.shown p.group) ∧
    (∀ fault, c.filter t = .error fault ↔ c.filter u = .error fault) ∧
    (∀ (clause : Clause) (test : Cell → Bool) (a b : Cell), clause.test? = .ok test →
      a.key = b.key → test a = test b) ∧
    ∀ (x : Context) (node : Json), x.inputs = [t] → Condition.ofJson node = .ok c →
      ((Operation.runFilter x node).bind fun s =>
          Operation.runAggregate { x with inputs := [s] } p).map (Table.shown p.group) =
        ((Operation.runAggregate x p).bind fun v =>
          Operation.runFilter { x with inputs := [v] } node).map (Table.shown p.group) := by
  obtain ⟨columns, ms, hcolumns, hms, hnames, hu⟩ := aggregate_eq_ok_iff.mp h
  have hafter := filter_groups ht hcolumns hnames hgroup hc (kindAmong (groups t columns))
  rw [← hu] at hafter
  have hbefore := Condition.filter_eq ht c
  have hcomm : (((c.filter t).mapError Failure.condition).bind fun s => aggregate s p).map
      (Table.shown p.group) =
      ((c.filter u).mapError .condition).map (Table.shown p.group) := by
    obtain ⟨s, hs, hshown⟩ := aggregate_takeRows ht hcolumns hms hnames hgroup
      fun i _ j _ hkey => Condition.holds_eq_of_keys fun clause hclause =>
        key_eq_of_rowKey_eq hcolumns hkey (hc clause hclause)
    rw [hbefore, hafter]
    cases c.check t.names with
    | error fault => rfl
    | ok _ => exact (congrArg (Except.map _) hs).trans (congrArg Except.ok hshown)
  refine ⟨hcomm, fun fault => ?_, fun clause test a b htest hkey => ?_,
    fun x node hinput hread => ?_⟩
  · rw [hbefore, hafter]
    cases c.check t.names <;> simp [Except.map]
  · have hholds : clause.holds = test := by
      funext d
      rw [Clause.holds, htest]
    rw [← hholds]
    exact clause.holds_eq_of_key hkey
  · have haggregate : Operation.runAggregate x p = aggregate t p := by
      rw [Operation.runAggregate, Context.input, hinput]
      rfl
    rw [haggregate, h, Condition.runFilter_eq hinput hread]
    exact hcomm.trans (congrArg _ (Condition.runFilter_eq rfl hread).symm)

/-- The seats up to the first, and the speeches from none. -/
def firstSeatOrNone : Condition :=
  .any [.clause ⟨"seat", .le, .int 1⟩, .clause ⟨"seat", .missing, .null⟩]

theorem filter_commutes_with_groups_sample :
    aggregate speeches wordsBySeat = .ok groupedSpeeches ∧
      firstSeatOrNone.filter speeches = .ok (speeches.takeRows [1, 2, 3, 4]) ∧
      (aggregate (speeches.takeRows [1, 2, 3, 4]) wordsBySeat).map (Table.shown ["seat"]) =
        .ok ((groupedSpeeches.takeRows [1, 3]).shown ["seat"]) := by
  have hcount : Aggregator.ofWord "count" = .ok .count :=
    Aggregator.ofWord_of_plain (by decide +kernel) rfl
  have hsum : Aggregator.ofWord "sum" = .ok .sum :=
    Aggregator.ofWord_of_plain (by decide +kernel) rfl
  have hasks : wordsBySeat.Asks [⟨"n", .count, .rows⟩, ⟨"total", .sum, .column "words"⟩] :=
    ⟨[], _, .none rfl, .cons (.intro rfl hcount .neither)
      (.cons (.intro rfl hsum (.column (by decide))) .nil), rfl⟩
  have haggregate : aggregate speeches wordsBySeat = .ok groupedSpeeches := by
    rw [aggregate, metrics_eq_answers hasks (List.cons_ne_nil _ _)]
    rfl
  have hbefore : firstSeatOrNone.filter speeches = .ok (speeches.takeRows [1, 2, 3, 4]) := rfl
  have hafter : firstSeatOrNone.filter groupedSpeeches = .ok (groupedSpeeches.takeRows [1, 3]) :=
    rfl
  obtain ⟨hcomm, -⟩ := filter_commutes_with_groups (p := wordsBySeat) ⟨by decide, by decide⟩
    (by decide) haggregate (c := firstSeatOrNone) (by decide)
  rw [hbefore, hafter] at hcomm
  exact ⟨haggregate, hbefore, hcomm⟩

end Aggregation
end RollCall
