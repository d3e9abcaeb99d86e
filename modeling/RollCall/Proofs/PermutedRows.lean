import RollCall.Proofs.ExtremeCells
import RollCall.Proofs.RolledUpGroups
import RollCall.Proofs.SelectedGroups

/-!
# Rows in another order

An aggregation of the rows of a table in another order succeeds if that of the table does, and gives
the same groups in the same order. Each group has its rows in another order, so a metric has the
same key wherever its aggregator ignores the order of the cells.
-/
namespace RollCall

variable {t u v : Table} {rows : List Nat} {names : List String}

namespace Table

/-- Permuted rows are brought back into order by a selection. -/
theorem exists_takeRows_eq (ht : t.WellFormed) (hrows : rows.Perm (List.range t.rowCount)) :
    ∃ positions, (∀ j ∈ positions, j < rows.length) ∧
      (t.takeRows rows).takeRows positions = t := by
  have hplace : ∀ row ∈ List.range t.rowCount, rows.idxOf row < rows.length := fun row hrow =>
    List.idxOf_lt_length_of_mem (hrows.mem_iff.mpr hrow)
  have hpositions : ∀ j ∈ (List.range t.rowCount).map rows.idxOf, j < rows.length := by
    intro j hj
    obtain ⟨row, hrow, rfl⟩ := List.mem_map.mp hj
    exact hplace row hrow
  refine ⟨_, hpositions, ?_⟩
  rw [takeRows_takeRows t hpositions, List.map_map]
  conv_rhs => rw [← ht.takeRows_range, ← List.map_id (List.range t.rowCount)]
  refine congrArg t.takeRows (List.map_congr_left fun row hrow => ?_)
  simp [hplace row hrow]

/-- Two tables have a column of this name of one type, and its cells have the same keys. -/
def AgreesIn (u v : Table) (name : String) : Prop :=
  ∃ c d, u.column? name = some c ∧ v.column? name = some d ∧ c.kind = d.kind ∧
    c.cells.map Cell.key = d.cells.map Cell.key

private theorem map_key_cells (hu : u.WellFormed) {name : String} {c : Column}
    (hc : u.column? name = some c) :
    c.cells.map Cell.key = (List.range u.rowCount).map fun i => (u.cellAt i name).key := by
  have hlength : c.cells.length = u.rowCount := hu.length_of_column? hc
  refine List.ext_getElem (by simp [hlength]) fun i hi _ => ?_
  rw [List.length_map] at hi
  simp [cellAt, cell?, hc, hi]

end Table

namespace ColumnKind

private theorem all_present_iff {cells : List Cell} {test : Cell → Bool} {rank : Nat}
    (h : ∀ c : Cell, c.isMissing = false → (test c = true ↔ c.key.rank = rank)) :
    (cells.filter fun c => !c.isMissing).all test = true ↔
      ∀ k ∈ cells.map Cell.key, k ≠ .null → k.rank = rank := by
  rw [List.all_eq_true, List.forall_mem_map]
  refine forall_congr' fun c => ?_
  rw [List.mem_filter, Bool.not_eq_true', Ne, c.key_eq_null_iff, Bool.not_eq_true, and_imp]
  exact forall_congr' fun _ => forall_congr' fun hc => h c hc

/-- The type of a column can be told from the keys of its cells. -/
theorem infer_congr {cells cells' : List Cell} (h : cells.map Cell.key = cells'.map Cell.key) :
    infer cells = infer cells' := by
  have hnumeric : (cells.filter fun c => !c.isMissing).all Cell.isNumeric =
      (cells'.filter fun c => !c.isMissing).all Cell.isNumeric := by
    rw [Bool.eq_iff_iff, all_present_iff fun _ => Cell.isNumeric_iff_rank,
      all_present_iff fun _ => Cell.isNumeric_iff_rank, h]
  have hbool : (cells.filter fun c => !c.isMissing).all Cell.isBool =
      (cells'.filter fun c => !c.isMissing).all Cell.isBool := by
    rw [Bool.eq_iff_iff, all_present_iff fun _ => Cell.isBool_iff_rank,
      all_present_iff fun _ => Cell.isBool_iff_rank, h]
  rw [infer, infer, hnumeric, hbool]

end ColumnKind

private theorem Expression.evalRow_takeRows (ht : t.WellFormed)
    (hrows : ∀ row ∈ rows, row < t.rowCount) {j : Nat} (hj : j < rows.length) (e : Expression) :
    e.evalRow (t.takeRows rows) j = e.evalRow t (rows.getD j 0) := by
  induction e using inductionOn with
  | column name => rw [evalRow, evalRow, Table.cell?_takeRows ht hj hrows]
  | const c => rfl
  | apply op operands ih => rw [evalRow_apply, evalRow_apply, Outcome.mapM_congr ih]

private theorem MetricSource.cell?_takeRows (ht : t.WellFormed)
    (hrows : ∀ row ∈ rows, row < t.rowCount)
    {j : Nat} (hj : j < rows.length) (source : MetricSource) :
    source.cell? (t.takeRows rows) j = source.cell? t (rows.getD j 0) := by
  cases source with
  | rows => rfl
  | column name => exact Table.cell?_takeRows ht hj hrows name
  | expression e => exact congrArg Except.toOption (e.evalRow_takeRows ht hrows hj)

namespace Aggregation

variable {p : AggregateParameters} {rs : List MetricRequest} {keys keys' : List (List Key)}

/-- An aggregation of a table is one of any of its rows. -/
theorem exists_aggregate_takeRows (ht : t.WellFormed) (hrows : ∀ row ∈ rows, row < t.rowCount)
    (h : aggregate t p = .ok u) : ∃ v, aggregate (t.takeRows rows) p = .ok v := by
  obtain ⟨columns, ms, hcolumns, hms, hnames, -⟩ := aggregate_eq_ok_iff.mp h
  refine ⟨_, aggregate_eq_ok_iff.mpr ⟨_, _, groupColumns_takeRows hcolumns rows,
    metrics_takeRows ht hrows hms, ?_, rfl⟩⟩
  rwa [List.map_map]

/-- The cells that a request sums up for the group of a key. -/
def groupCells (t : Table) (names : List String) (r : MetricRequest) (k : List Key) : List Cell :=
  (groupRows t names k).map fun row => (r.source.cell? t row).getD .null

theorem groupKey_takeRows {j : Nat} (hj : j < rows.length) (names : List String) :
    groupKey (t.takeRows rows) names j = groupKey t names (rows.getD j 0) := by
  refine List.map_congr_left fun name _ => congrArg Cell.key ?_
  rw [List.getD_eq_getElem _ 0 hj]
  exact t.cellAt_takeRows rows hj name

section Permuted

variable (hrows : rows.Perm (List.range t.rowCount))
include hrows

/-- The positions of a group are those of its rows. -/
theorem groupRows_perm (names : List String) (k : List Key) :
    ((groupRows (t.takeRows rows) names k).map fun j => rows.getD j 0).Perm
      (groupRows t names k) := by
  have hpositions : (groupRows (t.takeRows rows) names k).map (fun j => rows.getD j 0) =
      rows.filter fun row => groupKey t names row = k := by
    conv_rhs => rw [← map_getD_range rows 0, List.filter_map]
    refine congrArg (List.map _) (List.filter_congr fun j hj => ?_)
    rw [groupKey_takeRows (List.mem_range.mp hj)]
    rfl
  rw [hpositions]
  exact hrows.filter _

private theorem groupCells_perm (ht : t.WellFormed) (names : List String) (r : MetricRequest)
    (k : List Key) :
    (groupCells t names r k).Perm (groupCells (t.takeRows rows) names r k) := by
  have hbound : ∀ row ∈ rows, row < t.rowCount := fun row hrow =>
    List.mem_range.mp (hrows.mem_iff.mp hrow)
  have hcells : groupCells (t.takeRows rows) names r k =
      ((groupRows (t.takeRows rows) names k).map fun j => rows.getD j 0).map
        fun row => (r.source.cell? t row).getD .null := by
    rw [groupCells, List.map_map]
    refine List.map_congr_left fun j hj => ?_
    rw [r.source.cell?_takeRows ht hbound (mem_groupRows.mp hj).1]
    rfl
  rw [hcells]
  exact ((groupRows_perm hrows names k).map _).symm

private theorem keys_eq_of_perm (hu : Groups t names rs keys u)
    (hv : Groups (t.takeRows rows) names rs keys' v) : keys = keys' := by
  refine hu.rising.ext hv.rising fun k => ?_
  rw [hu.mem_keys_iff, hv.mem_keys_iff]
  refine or_congr_left ?_
  constructor
  · rintro ⟨row, hrow, rfl⟩
    obtain ⟨j, hj, rfl⟩ := List.getElem_of_mem (hrows.mem_iff.mpr (List.mem_range.mpr hrow))
    refine ⟨j, hj, ?_⟩
    rw [groupKey_takeRows hj, List.getD_eq_getElem _ 0 hj]
  · rintro ⟨j, hj, rfl⟩
    have hrow := hrows.mem_iff.mp (List.getElem_mem hj)
    refine ⟨rows[j], List.mem_range.mp hrow, ?_⟩
    rw [groupKey_takeRows hj, List.getD_eq_getElem _ 0 hj]

/-- The metric of a group has one key in both tables if its aggregator ignores the order. -/
theorem key_summarize (ht : t.WellFormed) {r : MetricRequest} {k : List Key}
    (h : r.aggregator.IgnoresOrder (groupCells t names r k)) :
    (r.summarize t (groupRows t names k)).key =
      (r.summarize (t.takeRows rows) (groupRows (t.takeRows rows) names k)).key := by
  have hcells := h.key_apply (groupCells_perm hrows ht names r k)
  obtain ⟨name, a, source⟩ := r
  cases source with
  | rows =>
    have hlength := (groupRows_perm hrows names k).length_eq
    rw [List.length_map] at hlength
    rw [MetricRequest.summarize, MetricRequest.summarize, hlength]
  | column | expression => exact hcells

end Permuted

/-- A group column keeps its type, and the type of a metric is that of its cells. -/
theorem kinds_of_aggregate (h : aggregate t p = .ok u) :
    (∀ name ∈ p.group, ∃ c d, t.column? name = some c ∧ u.column? name = some d ∧
      d.kind = c.kind) ∧
    ∀ d ∈ u.columns, d.name ∉ p.group → d.kind = ColumnKind.infer d.cells := by
  obtain ⟨columns, ms, hcolumns, hms, hnames, rfl⟩ := aggregate_eq_ok_iff.mp h
  have hgroups := forall₂_groupColumns hcolumns
  have hgroupNames := names_of_forall₂ hgroups
  constructor
  · intro name hname
    obtain ⟨c, hmem, hc⟩ := Outcome.exists_of_mem_left hgroups hname
    obtain rfl := Table.name_of_column? hc
    have hrule : (⟨c.name, c.kind, fun g => representative c g.2⟩ :
        ColumnRule (List Key × List Nat)) ∈
          summaryRules (kindAmong (groups t columns)) columns ms :=
      List.mem_append_left _ (List.mem_map_of_mem hmem)
    have hwell : (Table.tabulate (summaryRules (kindAmong (groups t columns)) columns ms)
        (groups t columns)).WellFormed :=
      Table.tabulate_wellFormed (by rwa [map_name_summaryRules, hgroupNames]) _
    have hcolumn : ColumnRule.column ⟨c.name, c.kind, fun g => representative c g.2⟩
        (groups t columns) ∈ (Table.tabulate (summaryRules (kindAmong (groups t columns))
          columns ms) (groups t columns)).columns := List.mem_map_of_mem hrule
    have hfind := hwell.column?_eq hcolumn
    exact ⟨c, _, hc, hfind, rfl⟩
  · intro d hd hgroup
    obtain ⟨r, hr, rfl⟩ := List.mem_map.mp hd
    rcases List.mem_append.mp hr with hr | hr
    · obtain ⟨c, hc, rfl⟩ := List.mem_map.mp hr
      have hname : c.name ∈ p.group := hgroupNames ▸ List.mem_map_of_mem hc
      exact absurd hname hgroup
    · obtain ⟨m, -, rfl⟩ := List.mem_map.mp hr
      rfl

/-- The groups of an aggregation with what each of its requests makes of them. -/
theorem groups_of_asks (ht : t.WellFormed) (hasks : p.Asks rs) (hne : rs ≠ [])
    (h : aggregate t p = .ok u) : u.WellFormed ∧ ∃ keys, Groups t p.group rs keys u := by
  simp only [aggregate, Outcome.bind_eq_ok, Outcome.mapError_eq_ok] at h
  obtain ⟨columns, hcolumns, ms, hms, hsummary⟩ := h
  have hne' := ne_nil_of_metrics hms
  rw [metrics_eq_answers hasks hne, Outcome.mapM_eq_ok] at hms
  have hanswers := hms.imp fun r m => answers_of_answer ht
  obtain ⟨hwell, hgroups⟩ :=
    groups_of_summary ht (forall₂_groupColumns hcolumns) hanswers hne' hsummary
  exact ⟨hwell, _, hgroups⟩

private theorem exists_asks_of_aggregate (ht : t.WellFormed) (h : aggregate t p = .ok u) :
    ∃ rs, p.Asks rs ∧ rs ≠ [] := by
  obtain ⟨columns, ms, hcolumns, hms, -⟩ := aggregate_eq_ok_iff.mp h
  obtain ⟨hne, rs, hasks, hanswers⟩ := exists_asks_of_metrics ht hms
  refine ⟨rs, hasks, ?_⟩
  rintro rfl
  cases hanswers
  exact hne rfl

structure PermutedGroups (t : Table) (names : List String) (rs : List MetricRequest)
    (keys : List (List Key)) (rows : List Nat) (u v : Table) : Prop where
  left : Groups t names rs keys u
  right : Groups (t.takeRows rows) names rs keys v
  left_wellFormed : u.WellFormed
  right_wellFormed : v.WellFormed

private theorem exists_permutedGroups (ht : t.WellFormed)
    (hrows : rows.Perm (List.range t.rowCount))
    (hasks : p.Asks rs) (hne : rs ≠ []) (hu : aggregate t p = .ok u)
    (hv : aggregate (t.takeRows rows) p = .ok v) :
    ∃ keys, PermutedGroups t p.group rs keys rows u v := by
  obtain ⟨hleft, keys, hleftGroups⟩ := groups_of_asks ht hasks hne hu
  obtain ⟨hright, keys', hrightGroups⟩ := groups_of_asks (ht.takeRows rows) hasks hne hv
  obtain rfl := keys_eq_of_perm hrows hleftGroups hrightGroups
  exact ⟨keys, hleftGroups, hrightGroups, hleft, hright⟩

namespace PermutedGroups

variable (h : PermutedGroups t names rs keys rows u v)
include h

theorem names_eq : v.names = u.names :=
  h.right.names_eq.trans h.left.names_eq.symm

theorem rowCount_eq : v.rowCount = u.rowCount :=
  h.right.rowCount_eq.trans h.left.rowCount_eq.symm

private theorem key_group {i : Nat} (hi : i < u.rowCount) {name : String} (hname : name ∈ names) :
    (u.cellAt i name).key = (v.cellAt i name).key := by
  have hi : i < keys.length := h.left.rowCount_eq ▸ hi
  have hkeys : groupKey u names i = groupKey v names i :=
    (h.left.groupKey_eq h.left_wellFormed hi).trans (h.right.groupKey_eq h.right_wellFormed hi).symm
  exact List.map_inj_left.mp hkeys name hname

private theorem key_metric (ht : t.WellFormed) (hrows : rows.Perm (List.range t.rowCount)) {i : Nat}
    (hi : i < u.rowCount) {r : MetricRequest} (hr : r ∈ rs)
    (hignores : r.aggregator.IgnoresOrder (groupCells t names r (groupKey u names i))) :
    (u.cellAt i r.name).key = (v.cellAt i r.name).key := by
  have hi : i < keys.length := h.left.rowCount_eq ▸ hi
  rw [h.left.groupKey_eq h.left_wellFormed hi] at hignores
  rw [Table.cellAt, Table.cellAt, h.left.cell?_metric h.left_wellFormed hi hr,
    h.right.cell?_metric h.right_wellFormed hi hr]
  exact key_summarize hrows ht hignores

/-- Two columns with the same keys row by row. -/
theorem map_key_eq {name : String} {c d : Column} (hc : u.column? name = some c)
    (hd : v.column? name = some d)
    (hkeys : ∀ i < u.rowCount, (u.cellAt i name).key = (v.cellAt i name).key) :
    c.cells.map Cell.key = d.cells.map Cell.key := by
  rw [Table.map_key_cells h.left_wellFormed hc, Table.map_key_cells h.right_wellFormed hd,
    h.rowCount_eq]
  exact List.map_congr_left fun i hi => hkeys i (List.mem_range.mp hi)

end PermutedGroups

private theorem agreesIn_group (hu : aggregate t p = .ok u)
    (hv : aggregate (t.takeRows rows) p = .ok v)
    (h : PermutedGroups t p.group rs keys rows u v) {name : String} (hname : name ∈ p.group) :
    u.AgreesIn v name := by
  obtain ⟨c, d, hc, hd, hkind⟩ := (kinds_of_aggregate hu).1 name hname
  obtain ⟨c', d', hc', hd', hkind'⟩ := (kinds_of_aggregate hv).1 name hname
  rw [Table.column?_takeRows, hc] at hc'
  obtain rfl := Option.some.inj hc'
  exact ⟨d, d', hd, hd', hkind.trans hkind'.symm,
    h.map_key_eq hd hd' fun i hi => h.key_group hi hname⟩

private theorem agreesIn_metric (hu : aggregate t p = .ok u)
    (hv : aggregate (t.takeRows rows) p = .ok v)
    (h : PermutedGroups t p.group rs keys rows u v) {r : MetricRequest} (hr : r ∈ rs)
    (hkeys : ∀ i < u.rowCount, (u.cellAt i r.name).key = (v.cellAt i r.name).key) :
    u.AgreesIn v r.name := by
  have hname : r.name ∈ u.names := by
    rw [h.left.names_eq]
    exact List.mem_append_right _ (List.mem_map_of_mem hr)
  have hgroup : r.name ∉ p.group := by
    have hnodup := h.left_wellFormed.nodup
    rw [h.left.names_eq] at hnodup
    exact fun hmem => (List.nodup_append'.mp hnodup).2.2 hmem (List.mem_map_of_mem hr)
  obtain ⟨c, hc⟩ := Option.isSome_iff_exists.mp (Table.column?_isSome_iff.mpr hname)
  obtain ⟨d, hd⟩ := Option.isSome_iff_exists.mp
    (Table.column?_isSome_iff.mpr (h.names_eq ▸ hname : r.name ∈ v.names))
  have hcells := h.map_key_eq hc hd hkeys
  refine ⟨c, d, hc, hd, ?_, hcells⟩
  rw [(kinds_of_aggregate hu).2 c (Table.mem_of_column? hc) (Table.name_of_column? hc ▸ hgroup),
    (kinds_of_aggregate hv).2 d (Table.mem_of_column? hd) (Table.name_of_column? hd ▸ hgroup)]
  exact ColumnKind.infer_congr hcells

/-- The order of rows does not matter to an aggregation, but for metrics that do not ignore the
order of the cells of a group. A minimum or maximum ignores it in a group whose cells are of one
kind and have different keys only if they are different after rounding. -/
theorem aggregate_permuted (ht : t.WellFormed) (p : AggregateParameters)
    (hrows : rows.Perm (List.range t.rowCount)) :
    ((∃ u, aggregate t p = .ok u) ↔ ∃ v, aggregate (t.takeRows rows) p = .ok v) ∧
    (∀ u v, aggregate t p = .ok u → aggregate (t.takeRows rows) p = .ok v →
      v.names = u.names ∧ v.rowCount = u.rowCount ∧
      (∀ name ∈ p.group, u.AgreesIn v name) ∧
      ∀ rs, p.Asks rs → ∀ r ∈ rs,
        (∀ i < u.rowCount,
          r.aggregator.IgnoresOrder (groupCells t p.group r (groupKey u p.group i)) →
          (u.cellAt i r.name).key = (v.cellAt i r.name).key) ∧
        ((∀ i < u.rowCount,
          r.aggregator.IgnoresOrder (groupCells t p.group r (groupKey u p.group i))) →
          u.AgreesIn v r.name)) ∧
    ∀ (a : Aggregator) (cells : List Cell), a = .count ∨ a = .distinct ∨
      (a = .min ∨ a = .max) ∧ Aggregator.AreAlike (cells.filter fun c => !c.isMissing) →
        a.IgnoresOrder cells := by
  have hbound : ∀ row ∈ rows, row < t.rowCount := fun row hrow =>
    List.mem_range.mp (hrows.mem_iff.mp hrow)
  refine ⟨⟨?_, ?_⟩, fun u v hu hv => ?_, fun a cells => Aggregator.ignoresOrder⟩
  · rintro ⟨u, hu⟩
    exact exists_aggregate_takeRows ht hbound hu
  · rintro ⟨v, hv⟩
    obtain ⟨positions, hpositions, hback⟩ := Table.exists_takeRows_eq ht hrows
    have hu := exists_aggregate_takeRows (ht.takeRows rows) hpositions hv
    rwa [hback] at hu
  · obtain ⟨rs, hasks, hne⟩ := exists_asks_of_aggregate ht hu
    obtain ⟨keys, h⟩ := exists_permutedGroups ht hrows hasks hne hu hv
    refine ⟨h.names_eq, h.rowCount_eq, fun name hname => agreesIn_group hu hv h hname,
      fun rs hasks r hr => ?_⟩
    obtain ⟨keys, h⟩ := exists_permutedGroups ht hrows hasks (List.ne_nil_of_mem hr) hu hv
    exact ⟨fun i hi => h.key_metric ht hrows hi hr, fun hignores =>
      agreesIn_metric hu hv h hr fun i hi => h.key_metric ht hrows hi hr (hignores i hi)⟩

def mixedVotes : Table :=
  ⟨[⟨"votes", .text, [.int 1, .text "n/a"]⟩], 2⟩

/-- Of a number and a text neither is less, so the first one is the minimum. -/
theorem aggregate_permuted_mixed :
    let p := singleMetricBy [] "min" (some "votes")
    mixedVotes.WellFormed ∧ [1, 0].Perm (List.range mixedVotes.rowCount) ∧
      p.Asks [⟨"n", .min, .column "votes"⟩] ∧
      ∃ u v, aggregate mixedVotes p = .ok u ∧ aggregate (mixedVotes.takeRows [1, 0]) p = .ok v ∧
        (u.cellAt 0 "n").key ≠ (v.cellAt 0 "n").key := by
  have hmin : Aggregator.ofWord "min" = .ok .min :=
    Aggregator.ofWord_of_plain (by decide +kernel) rfl
  have hasks := (requests_column [] hmin (by decide : "votes" ≠ "*")).asks
  refine ⟨⟨by decide, by decide⟩, by decide, hasks, ⟨[⟨"n", .numeric, [.int 1]⟩], 1⟩,
    ⟨[⟨"n", .text, [.text "n/a"]⟩], 1⟩, ?_, ?_, by decide⟩
  · rw [aggregate, metrics_eq_answers hasks (List.cons_ne_nil _ _)]
    rfl
  · rw [aggregate, metrics_eq_answers hasks (List.cons_ne_nil _ _)]
    rfl

/-- The least party of each ward, by wards of which one has no party. -/
def leastParties : Table :=
  ⟨[⟨"ward", .numeric, [.int 1, .int 2, .null]⟩,
    ⟨"n", .text, [.text "Lab", .null, .text "Con"]⟩], 3⟩

theorem aggregate_permuted_sample :
    let p := singleMetricBy ["ward"] "min" (some "party")
    ballots.WellFormed ∧ [5, 3, 1, 0, 2, 4].Perm (List.range ballots.rowCount) ∧
      ∃ u v, aggregate ballots p = .ok u ∧
        aggregate (ballots.takeRows [5, 3, 1, 0, 2, 4]) p = .ok v ∧
        u.AgreesIn v "ward" ∧ u.AgreesIn v "n" := by
  intro p
  have ht : ballots.WellFormed := ⟨by decide, by decide⟩
  have hrows : [5, 3, 1, 0, 2, 4].Perm (List.range ballots.rowCount) := by decide
  have hmin : Aggregator.ofWord "min" = .ok .min :=
    Aggregator.ofWord_of_plain (by decide +kernel) rfl
  have hasks := (requests_column ["ward"] hmin (by decide : "party" ≠ "*")).asks
  obtain ⟨hsucceeds, hagree, hignores⟩ := aggregate_permuted ht p hrows
  have hu : aggregate ballots p = .ok leastParties := by
    rw [aggregate, metrics_eq_answers hasks (List.cons_ne_nil _ _)]
    rfl
  obtain ⟨v, hv⟩ := hsucceeds.mp ⟨_, hu⟩
  obtain ⟨-, -, hgroup, hmetric⟩ := hagree _ v hu hv
  have halike : ∀ i < 3, Aggregator.AreAlike ((groupCells ballots ["ward"]
      ⟨"n", .min, .column "party"⟩ (groupKey leastParties ["ward"] i)).filter
        fun c => !c.isMissing) := by decide
  exact ⟨ht, hrows, _, v, hu, hv, hgroup "ward" List.mem_cons_self,
    (hmetric _ hasks _ List.mem_cons_self).2 fun i hi =>
      hignores .min _ (.inr (.inr ⟨.inl rfl, halike i hi⟩))⟩

end Aggregation
end RollCall
