import RollCall.Proofs.RequestedMetrics

/-!
# Aggregates that roll up

A table that is grouped can be grouped again, by some of its group columns. The rows of a coarse
group are those of the fine groups in it, so both ways of grouping have the same keys in the same
order. The sum of the sizes of the fine groups is the size of the coarse one, and the fine groups
with a cell that is not missing are as many as the different cells there.
-/
namespace RollCall

theorem Table.WellFormed.cell?_eq_of_rows {u : Table} (hu : u.WellFormed) {row j : Nat}
    {cells : List Cell} {name : String} (hrow : u.rows[row]? = some cells)
    (hname : u.names[j]? = some name) : u.cell? row name = cells[j]? := by
  obtain ⟨c, hc, rfl⟩ := by simpa [Table.names] using hname
  have hmem : c ∈ u.columns := List.mem_of_getElem? hc
  obtain ⟨hlt, hcells⟩ : row < u.rowCount ∧
      (u.columns.map fun d => d.cells[row]?.getD .null) = cells := by
    simpa [Table.rows, List.getElem?_eq_some_iff] using hrow
  have hlength : row < c.cells.length := by
    have hcolumn := hu.length_eq c hmem
    rw [Column.length] at hcolumn
    omega
  rw [cell?, hu.column?_eq hmem, ← hcells]
  simp [hc, hlength]

namespace Aggregation

variable {t u v w : Table} {names G : List String} {rs rs' rs'' : List MetricRequest}
  {keys keys' keys'' : List (List Key)}

theorem groupKey_of_subset {i row : Nat} (hsub : ∀ name ∈ G, name ∈ names)
    (h : groupKey u names i = groupKey t names row) : groupKey u G i = groupKey t G row :=
  List.map_congr_left fun name hname => List.map_inj_left.mp h name (hsub name hname)

theorem mem_groupRows {k : List Key} {row : Nat} :
    row ∈ groupRows t names k ↔ row < t.rowCount ∧ groupKey t names row = k := by
  simp [groupRows]

namespace Groups

theorem row_eq (h : Groups t names rs keys u) {i : Nat} (hi : i < keys.length) :
    u.rows[i]? = some (groupRow t names rs keys[i]) := by
  rw [h.rows_eq]
  simp [hi]

theorem cell?_group (h : Groups t names rs keys u) (hu : u.WellFormed) {i : Nat}
    (hi : i < keys.length) {name : String} (hname : name ∈ names) :
    u.cell? i name = some (firstCell t (groupRows t names keys[i]) name) := by
  obtain ⟨j, hj, rfl⟩ := List.getElem_of_mem hname
  have hfound : u.names[j]? = some names[j] := by
    rw [h.names_eq, List.getElem?_append_left hj, List.getElem?_eq_getElem hj]
  rw [hu.cell?_eq_of_rows (h.row_eq hi) hfound, groupRow, List.getElem?_append_left (by simpa)]
  simp [hj]

theorem cell?_metric (h : Groups t names rs keys u) (hu : u.WellFormed) {i : Nat}
    (hi : i < keys.length) {r : MetricRequest} (hr : r ∈ rs) :
    u.cell? i r.name = some (r.summarize t (groupRows t names keys[i])) := by
  obtain ⟨j, hj, rfl⟩ := List.getElem_of_mem hr
  have hfound : u.names[names.length + j]? = some rs[j].name := by
    rw [h.names_eq, List.getElem?_append_right (Nat.le_add_right _ _)]
    simp [hj]
  rw [hu.cell?_eq_of_rows (h.row_eq hi) hfound, groupRow,
    List.getElem?_append_right (by simp)]
  simp [hj]

/-- The cells of a group have the keys of the cells of any of its rows. -/
theorem key_cellAt (h : Groups t names rs keys u) (hu : u.WellFormed) {i : Nat}
    (hi : i < keys.length) {row : Nat} (hrow : row ∈ groupRows t names keys[i]) {name : String}
    (hname : name ∈ names) : (u.cellAt i name).key = (t.cellAt row name).key := by
  obtain ⟨first, rest, hrows⟩ := List.exists_cons_of_ne_nil (List.ne_nil_of_mem hrow)
  have hfirst := mem_groupRows.mp (hrows ▸ List.mem_cons_self : first ∈ groupRows t names keys[i])
  have hsame : groupKey t names first = groupKey t names row :=
    hfirst.2.trans (mem_groupRows.mp hrow).2.symm
  rw [Table.cellAt, h.cell?_group hu hi hname, firstCell, hrows]
  exact List.map_inj_left.mp hsame name hname

/-- The groups stand in the result with their keys. -/
theorem groupKey_eq (h : Groups t names rs keys u) (hu : u.WellFormed) {i : Nat}
    (hi : i < keys.length) : groupKey u names i = keys[i] := by
  rcases (h.mem_keys_iff _).mp (List.getElem_mem hi) with ⟨row, hrow, hkey⟩ | ⟨rfl, hnil⟩
  · rw [← hkey]
    exact List.map_congr_left fun name hname =>
      h.key_cellAt hu hi (mem_groupRows.mpr ⟨hrow, hkey⟩) hname
  · rw [hnil]
    rfl

theorem map_groupKey (h : Groups t names rs keys u) (hu : u.WellFormed) :
    (List.range u.rowCount).map (groupKey u names) = keys := by
  refine List.ext_getElem (by simp [h.rowCount_eq]) fun i hi hi' => ?_
  rw [List.getElem_map, List.getElem_range, h.groupKey_eq hu hi']

theorem nodup_groupKey (h : Groups t names rs keys u) (hu : u.WellFormed) :
    ((List.range u.rowCount).map (groupKey u names)).Nodup := by
  rw [h.map_groupKey hu]
  exact h.rising.imp Grouping.ne_of_compareList

/-- Every row is in some group. -/
theorem exists_index (h : Groups t names rs keys u) (hu : u.WellFormed) {row : Nat}
    (hrow : row < t.rowCount) : ∃ i < u.rowCount, groupKey u names i = groupKey t names row := by
  have hmem := (h.mem_keys_iff _).mpr (.inl ⟨row, hrow, rfl⟩)
  rw [← h.map_groupKey hu] at hmem
  simpa using hmem

/-- Grouping again by some of the columns gives the keys of grouping by these at once. -/
theorem keys_eq_of_subset (h : Groups t names rs keys u) (hu : u.WellFormed)
    (hsub : ∀ name ∈ G, name ∈ names) (hv : Groups u G rs' keys' v)
    (hw : Groups t G rs'' keys'' w) : keys' = keys'' := by
  refine hv.rising.ext hw.rising fun k => ?_
  rw [hv.mem_keys_iff, hw.mem_keys_iff]
  constructor
  · rintro (⟨i, hi, rfl⟩ | hnone)
    · have hi : i < keys.length := h.rowCount_eq ▸ hi
      rcases (h.mem_keys_iff _).mp (List.getElem_mem hi) with ⟨row, hrow, hkey⟩ | ⟨rfl, -⟩
      · refine .inl ⟨row, hrow, (groupKey_of_subset hsub ?_).symm⟩
        rw [h.groupKey_eq hu hi, hkey]
      · obtain rfl := List.eq_nil_iff_forall_not_mem.mpr fun name hname => by
          simpa using hsub name hname
        exact .inr ⟨rfl, rfl⟩
    · exact .inr hnone
  · rintro (⟨row, hrow, rfl⟩ | hnone)
    · obtain ⟨i, hi, hkey⟩ := h.exists_index hu hrow
      exact .inl ⟨i, hi, groupKey_of_subset hsub hkey⟩
    · exact .inr hnone

end Groups

/-- Two tables have the same groups in the same order, each with the same metric. -/
structure SameGroups (names : List String) (metric : String) (v w : Table) : Prop where
  names_left : v.names = names ++ [metric]
  names_right : w.names = names ++ [metric]
  rowCount_eq : v.rowCount = w.rowCount
  group_keys : ∀ row < v.rowCount, ∀ name ∈ names, ∃ a b,
    v.cell? row name = some a ∧ w.cell? row name = some b ∧ a.key = b.key
  metric_eq : ∀ row < v.rowCount, ∃ c, v.cell? row metric = some c ∧ w.cell? row metric = some c

theorem sameGroups_of_summarize {n : String} {a a' : Aggregator} {source source' : MetricSource}
    (hv : Groups u G [⟨n, a, source⟩] keys v) (hvwell : v.WellFormed)
    (hw : Groups t G [⟨n, a', source'⟩] keys w) (hwwell : w.WellFormed)
    (h : ∀ k ∈ keys, MetricRequest.summarize u ⟨n, a, source⟩ (groupRows u G k) =
      MetricRequest.summarize t ⟨n, a', source'⟩ (groupRows t G k)) : SameGroups G n v w where
  names_left := hv.names_eq
  names_right := hw.names_eq
  rowCount_eq := hv.rowCount_eq.trans hw.rowCount_eq.symm
  group_keys row hrow name hname := by
    have hrow : row < keys.length := hv.rowCount_eq ▸ hrow
    have hleft := hv.cell?_group hvwell hrow hname
    have hright := hw.cell?_group hwwell hrow hname
    have hkeys : groupKey v G row = groupKey w G row :=
      (hv.groupKey_eq hvwell hrow).trans (hw.groupKey_eq hwwell hrow).symm
    refine ⟨_, _, hleft, hright, ?_⟩
    have hkey := List.map_inj_left.mp hkeys name hname
    rwa [hleft, hright] at hkey
  metric_eq row hrow := by
    have hrow : row < keys.length := hv.rowCount_eq ▸ hrow
    refine ⟨_, hv.cell?_metric hvwell hrow List.mem_cons_self, ?_⟩
    rw [hw.cell?_metric hwwell hrow List.mem_cons_self, h _ (List.getElem_mem hrow)]

theorem summarize_of_reads {n column : String} {a : Aggregator} {source : MetricSource}
    (h : source.Reads column) (t : Table) (rows : List Nat) :
    MetricRequest.summarize t ⟨n, a, source⟩ rows =
      a.apply (rows.map fun row => t.cellAt row column) := by
  have hcells : (rows.map fun row => (source.cell? t row).getD .null) =
      rows.map fun row => t.cellAt row column :=
    List.map_congr_left fun row _ => by rw [h.cell?_eq, Table.cellAt]
  rcases h with rfl | rfl <;> exact congrArg a.apply hcells

/-! ### Sizes -/

namespace Groups

/-- The fine groups in a coarse one hold its rows. -/
theorem sum_sizes (h : Groups t names rs keys u) (hu : u.WellFormed)
    (hsub : ∀ name ∈ G, name ∈ names) (k : List Key) :
    ((groupRows u G k).map fun i => (groupRows t names (groupKey u names i)).length).sum =
      (groupRows t G k).length := by
  have hnodup : ((groupRows u G k).map (groupKey u names)).Nodup :=
    (h.nodup_groupKey hu).sublist (List.filter_sublist.map _)
  have hmem : ∀ row ∈ groupRows t G k,
      groupKey t names row ∈ (groupRows u G k).map (groupKey u names) := by
    intro row hrow
    obtain ⟨hrow, hkey⟩ := mem_groupRows.mp hrow
    obtain ⟨i, hi, hsame⟩ := h.exists_index hu hrow
    refine List.mem_map.mpr ⟨i, mem_groupRows.mpr ⟨hi, ?_⟩, hsame⟩
    rw [groupKey_of_subset hsub hsame, hkey]
  have hparts : ∀ i ∈ groupRows u G k, groupRows t names (groupKey u names i) =
      (groupRows t G k).filter fun row => groupKey t names row = groupKey u names i := by
    intro i hi
    rw [groupRows, groupRows, List.filter_filter]
    refine List.filter_congr fun row _ => ?_
    by_cases hrow : groupKey t names row = groupKey u names i
    · have hcoarse : groupKey t G row = k := by
        rw [groupKey_of_subset hsub hrow, (mem_groupRows.mp hi).2]
      simp [hrow, hcoarse]
    · simp [hrow]
  rw [← sum_length_filter (groupKey t names) hnodup hmem, List.map_map]
  exact congrArg List.sum (List.map_congr_left fun i hi => by rw [hparts i hi]; rfl)

end Groups

private theorem add?_ofNat {a b : Nat} (h : a + b < 2 ^ 63) :
    Checked.add? (Int64.ofNat a) (Int64.ofNat b) = some (Int64.ofNat (a + b)) := by
  rw [Checked.add?, Int64.toInt_ofNat_of_lt (by omega), Int64.toInt_ofNat_of_lt (by omega),
    Checked.ofInt?, if_pos (by omega)]
  rfl

/-- The sum of sizes is exact if it is in range. -/
theorem sum_apply_sizes {sizes : List Nat} (h : sizes.sum < 2 ^ 63) :
    Aggregator.sum.apply (sizes.map fun size => .int (Int64.ofNat size)) =
      .int (Int64.ofNat sizes.sum) := by
  have hexact : ∀ (rest : List Nat) (sum : Nat), sum + rest.sum < 2 ^ 63 →
      (rest.map fun size => Cell.int (Int64.ofNat size)).foldlM
        (fun sum c => (Aggregator.integer? c).bind (Checked.add? sum)) (Int64.ofNat sum) =
          some (Int64.ofNat (sum + rest.sum)) := by
    intro rest
    induction rest with
    | nil => exact fun sum _ => rfl
    | cons size rest ih =>
      intro sum hsum
      rw [List.sum_cons] at hsum ⊢
      rw [List.map_cons, List.foldlM_cons, Aggregator.integer?, Option.bind_some,
        add?_ofNat (by omega), Option.bind_eq_bind, Option.bind_some, ih _ (by omega),
        Nat.add_assoc]
  have hpresent : (sizes.map fun size => Cell.int (Int64.ofNat size)).filter
      (fun c => !c.isMissing) = sizes.map fun size => Cell.int (Int64.ofNat size) :=
    List.filter_eq_self.mpr fun c hc => by
      obtain ⟨size, -, rfl⟩ := List.mem_map.mp hc
      rfl
  have hsum := hexact sizes 0 (by omega)
  rw [Nat.zero_add] at hsum
  have hexactSum : Aggregator.exactSum? (sizes.map fun size => .int (Int64.ofNat size)) =
      some (Int64.ofNat sizes.sum) := hsum
  rw [Aggregator.apply, hpresent, Aggregator.total, hexactSum]

private theorem counts_roll_up (ht : t.WellFormed) (hrows : t.rowCount < 2 ^ 63) {G H : List String}
    (hnodup : (G ++ H).Nodup) (hcolumns : ∀ name ∈ G ++ H, name ∈ t.names) {n : String}
    (hn : n ∉ G ++ H) {fine coarse direct : AggregateParameters} {source : MetricSource}
    (hfine : fine.Requests (G ++ H) ⟨n, .count, .rows⟩)
    (hcoarse : coarse.Requests G ⟨n, .sum, source⟩) (hreads : source.Reads n)
    (hdirect : direct.Requests G ⟨n, .count, .rows⟩) :
    ∃ u v w, aggregate t fine = .ok u ∧ aggregate u coarse = .ok v ∧ aggregate t direct = .ok w ∧
      SameGroups G n v w := by
  have hsub : ∀ name ∈ G, name ∈ G ++ H := fun name => List.mem_append_left H
  have hGnodup := (List.nodup_append'.mp hnodup).1
  have hnG : n ∉ G := fun hmem => hn (hsub n hmem)
  obtain ⟨u, keys, hufine, huwell, hu⟩ :=
    exists_groups_of_answer ht hfine (MetricRequest.answer_rows t n) hcolumns hnodup hn
  have hsize : ∀ i < u.rowCount, u.cellAt i n =
      .int (Int64.ofNat (groupRows t (G ++ H) (groupKey u (G ++ H) i)).length) := by
    intro i hi
    have hi : i < keys.length := hu.rowCount_eq ▸ hi
    rw [Table.cellAt, hu.cell?_metric huwell hi List.mem_cons_self, hu.groupKey_eq huwell hi]
    rfl
  have hunames : ∀ name ∈ G, name ∈ u.names := fun name hname => by
    rw [hu.names_eq]
    exact List.mem_append_left _ (hsub name hname)
  obtain ⟨m, hm⟩ := exists_answer_of_reads (n := n) (a := .sum) huwell hreads
    (by rw [hu.names_eq]; exact List.mem_append_right _ List.mem_cons_self)
    fun i hi => by rw [hsize i hi]; rfl
  obtain ⟨v, keys', hvcoarse, hvwell, hv⟩ :=
    exists_groups_of_answer huwell hcoarse hm hunames hGnodup hnG
  obtain ⟨w, keys'', hwdirect, hwwell, hw⟩ :=
    exists_groups_of_answer ht hdirect (MetricRequest.answer_rows t n)
      (fun name hname => hcolumns name (hsub name hname)) hGnodup hnG
  obtain rfl := hu.keys_eq_of_subset huwell hsub hv hw
  refine ⟨u, v, w, hufine, hvcoarse, hwdirect,
    sameGroups_of_summarize hv hvwell hw hwwell fun k _ => ?_⟩
  have hsum := hu.sum_sizes huwell hsub k
  have hle : (groupRows t G k).length ≤ t.rowCount := by
    simpa [groupRows] using List.length_filter_le (fun row => decide (groupKey t G row = k))
      (List.range t.rowCount)
  calc MetricRequest.summarize u ⟨n, .sum, source⟩ (groupRows u G k)
      = Aggregator.sum.apply (((groupRows u G k).map fun i =>
          (groupRows t (G ++ H) (groupKey u (G ++ H) i)).length).map
            fun size => .int (Int64.ofNat size)) := by
        rw [summarize_of_reads hreads, List.map_map]
        exact congrArg _ (List.map_congr_left fun i hi => hsize i (mem_groupRows.mp hi).1)
    _ = .int (Int64.ofNat (groupRows t G k).length) := by
        rw [sum_apply_sizes (by omega), hsum]

/-! ### Different cells -/

private theorem map_key_present (cells : List Cell) :
    (cells.filter fun c => !c.isMissing).map Cell.key =
      (cells.map Cell.key).filter fun k => k ≠ .null := by
  rw [List.filter_map]
  refine congrArg (List.map Cell.key) (List.filter_congr fun c _ => ?_)
  rw [Bool.eq_iff_iff]
  simp [c.key_eq_null_iff]

namespace Groups

private theorem groupKey_inj (h : Groups t names rs keys u) (hu : u.WellFormed) {i j : Nat}
    (hi : i < u.rowCount) (hj : j < u.rowCount) (heq : groupKey u names i = groupKey u names j) :
    i = j :=
  List.inj_on_of_nodup_map (h.nodup_groupKey hu) (List.mem_range.mpr hi) (List.mem_range.mpr hj)
    heq

/-- Every group has a row if there are group columns. -/
theorem exists_row (h : Groups t names rs keys u) (hu : u.WellFormed) (hnames : names ≠ [])
    {i : Nat} (hi : i < u.rowCount) :
    ∃ row < t.rowCount, groupKey t names row = groupKey u names i := by
  have hi : i < keys.length := h.rowCount_eq ▸ hi
  rw [h.groupKey_eq hu hi]
  exact ((h.mem_keys_iff _).mp (List.getElem_mem hi)).resolve_right fun hnone => hnames hnone.1

/-- The keys in a further group column, over the fine groups in a coarse one, are different, and
they are the keys that its rows have there. -/
theorem keys_of_column {column : String} (h : Groups t (G ++ [column]) rs keys u)
    (hu : u.WellFormed) (k : List Key) :
    ((groupRows u G k).map fun i => (u.cellAt i column).key).Nodup ∧
      ∀ x, x ∈ (groupRows u G k).map (fun i => (u.cellAt i column).key) ↔
        x ∈ (groupRows t G k).map fun row => (t.cellAt row column).key := by
  have hsub : ∀ name ∈ G, name ∈ G ++ [column] := fun name => List.mem_append_left _
  have hcolumn : column ∈ G ++ [column] := List.mem_append_right _ List.mem_cons_self
  constructor
  · refine List.Nodup.map_on (fun i hi j hj hkey => ?_) (List.nodup_range.filter _)
    obtain ⟨hi, hik⟩ := mem_groupRows.mp hi
    obtain ⟨hj, hjk⟩ := mem_groupRows.mp hj
    refine h.groupKey_inj hu hi hj ?_
    have hcoarse : groupKey u G i = groupKey u G j := hik.trans hjk.symm
    simp only [groupKey, List.map_append] at hcoarse ⊢
    rw [hcoarse]
    exact congrArg (_ ++ [·]) hkey
  · intro x
    simp only [List.mem_map, mem_groupRows]
    constructor
    · rintro ⟨i, ⟨hi, hik⟩, rfl⟩
      obtain ⟨row, hrow, hkey⟩ := h.exists_row hu (List.ne_nil_of_mem hcolumn) hi
      exact ⟨row, ⟨hrow, (groupKey_of_subset hsub hkey).trans hik⟩,
        List.map_inj_left.mp hkey column hcolumn⟩
    · rintro ⟨row, ⟨hrow, hrowk⟩, rfl⟩
      obtain ⟨i, hi, hkey⟩ := h.exists_index hu hrow
      exact ⟨i, ⟨hi, (groupKey_of_subset hsub hkey).trans hrowk⟩,
        List.map_inj_left.mp hkey column hcolumn⟩

end Groups

private theorem distinct_rolls_up (ht : t.WellFormed) {G : List String} {column n : String}
    (hnodup : (G ++ [column]).Nodup) (hcolumns : ∀ name ∈ G ++ [column], name ∈ t.names)
    (hn : n ∉ G ++ [column]) {fine coarse direct : AggregateParameters}
    {source source' : MetricSource} (hfine : fine.group = G ++ [column])
    (hu : aggregate t fine = .ok u) (hcoarse : coarse.Requests G ⟨n, .count, source⟩)
    (hreads : source.Reads column) (hdirect : direct.Requests G ⟨n, .distinct, source'⟩)
    (hreads' : source'.Reads column) :
    ∃ v w, aggregate u coarse = .ok v ∧ aggregate t direct = .ok w ∧ SameGroups G n v w := by
  have hsub : ∀ name ∈ G, name ∈ G ++ [column] := fun name => List.mem_append_left _
  have hGnodup := (List.nodup_append'.mp hnodup).1
  have hnG : n ∉ G := fun hmem => hn (hsub n hmem)
  have hcolumn : column ∈ G ++ [column] := List.mem_append_right _ List.mem_cons_self
  obtain ⟨huwell, rs, keys, hgroups⟩ := groups_of_aggregate ht hu
  rw [hfine] at hgroups
  have hunames : ∀ name ∈ G ++ [column], name ∈ u.names := fun name hname => by
    rw [hgroups.names_eq]
    exact List.mem_append_left _ hname
  obtain ⟨m, hm⟩ := exists_answer_of_reads (n := n) (a := .count) huwell hreads
    (hunames column hcolumn) fun _ _ => rfl
  obtain ⟨v, keys', hvcoarse, hvwell, hv⟩ := exists_groups_of_answer huwell hcoarse hm
    (fun name hname => hunames name (hsub name hname)) hGnodup hnG
  obtain ⟨m', hm'⟩ := exists_answer_of_reads (n := n) (a := .distinct) ht hreads'
    (hcolumns column hcolumn) fun _ _ => rfl
  obtain ⟨w, keys'', hwdirect, hwwell, hw⟩ := exists_groups_of_answer ht hdirect hm'
    (fun name hname => hcolumns name (hsub name hname)) hGnodup hnG
  obtain rfl := hgroups.keys_eq_of_subset huwell hsub hv hw
  refine ⟨v, w, hvcoarse, hwdirect, sameGroups_of_summarize hv hvwell hw hwwell fun k _ => ?_⟩
  obtain ⟨hdifferent, hmem⟩ := hgroups.keys_of_column huwell k
  rw [summarize_of_reads hreads, summarize_of_reads hreads', Aggregator.apply, Aggregator.apply,
    Aggregator.distinctCount]
  refine congrArg (fun size => Cell.int (Int64.ofNat size)) ?_
  rw [← List.length_map Cell.key, map_key_present, map_key_present, List.map_map, List.map_map]
  refine length_eq_eraseDups (hdifferent.filter _) fun x => ?_
  rw [List.mem_filter, List.mem_filter]
  exact and_congr_left fun _ => hmem x

/-- Counts of rows and of different cells roll up. A count is a signed integer of 64 bits, and no
table in memory has more rows than such an integer can count. -/
theorem aggregates_roll_up (ht : t.WellFormed) (G : List String) (n : String) :
    (∀ (H : List String) (fine coarse direct : AggregateParameters) (source : MetricSource),
      (G ++ H).Nodup → (∀ name ∈ G ++ H, name ∈ t.names) → n ∉ G ++ H → t.rowCount < 2 ^ 63 →
      fine.Requests (G ++ H) ⟨n, .count, .rows⟩ →
      coarse.Requests G ⟨n, .sum, source⟩ → source.Reads n →
      direct.Requests G ⟨n, .count, .rows⟩ →
      ∃ u v w, aggregate t fine = .ok u ∧ aggregate u coarse = .ok v ∧
        aggregate t direct = .ok w ∧ SameGroups G n v w) ∧
    ∀ (column : String) (fine coarse direct : AggregateParameters) (source source' : MetricSource)
      (u : Table),
      (G ++ [column]).Nodup → (∀ name ∈ G ++ [column], name ∈ t.names) → n ∉ G ++ [column] →
      fine.group = G ++ [column] → aggregate t fine = .ok u →
      coarse.Requests G ⟨n, .count, source⟩ → source.Reads column →
      direct.Requests G ⟨n, .distinct, source'⟩ → source'.Reads column →
      ∃ v w, aggregate u coarse = .ok v ∧ aggregate t direct = .ok w ∧ SameGroups G n v w :=
  ⟨fun _ _ _ _ _ hnodup hcolumns hn hrows hfine hcoarse hreads hdirect =>
      counts_roll_up ht hrows hnodup hcolumns hn hfine hcoarse hreads hdirect,
    fun _ _ _ _ _ _ _ hnodup hcolumns hn hfine hu hcoarse hreads hdirect hreads' =>
      distinct_rolls_up ht hnodup hcolumns hn hfine hu hcoarse hreads hdirect hreads'⟩

/-- Ballots by ward, two of them without a ward and two without a party. -/
def ballots : Table :=
  ⟨[⟨"ward", .numeric,
      [.int 1, .float 1, .int 2, .null, .float Binary64.nan, .int 1]⟩,
    ⟨"party", .text, [.text "Lab", .text "Lab", .null, .text "Con", .text "Con", .null]⟩], 6⟩

/-- One metric by name, computed from a column unless rows are counted. -/
def singleMetricBy (group : List String) (word : String) (column : Option String) :
    AggregateParameters :=
  { group
    metrics := [("n", .obj
      (("fn", .str word) :: column.toList.map fun name => ("col", .str name)))] }

private theorem requests_rows (group : List String) :
    (singleMetricBy group "count" none).Requests group ⟨"n", .count, .rows⟩ := by
  have hcount : Aggregator.ofWord "count" = .ok .count :=
    Aggregator.ofWord_of_plain (by decide +kernel) rfl
  exact ⟨rfl, [], _, .none rfl, .cons (.intro rfl hcount .neither) .nil, rfl⟩

theorem requests_column (group : List String) {word column : String} {a : Aggregator}
    (ha : Aggregator.ofWord word = .ok a) (hstar : column ≠ "*") :
    (singleMetricBy group word (some column)).Requests group ⟨"n", a, .column column⟩ :=
  ⟨rfl, [], _, .none rfl, .cons (.intro rfl ha (.column hstar)) .nil, rfl⟩

theorem aggregates_roll_up_sample :
    ballots.WellFormed ∧
      (∃ u v w, aggregate ballots (singleMetricBy ["ward", "party"] "count" none) = .ok u ∧
        aggregate u (singleMetricBy ["ward"] "sum" (some "n")) = .ok v ∧
        aggregate ballots (singleMetricBy ["ward"] "count" none) = .ok w ∧
        SameGroups ["ward"] "n" v w ∧
        w.columns.map Column.cells = [[.int 1, .int 2, .null], [.int 3, .int 1, .int 2]]) ∧
      ∃ u v w, aggregate ballots (singleMetricBy ["ward", "party"] "count" none) = .ok u ∧
        aggregate u (singleMetricBy ["ward"] "count" (some "party")) = .ok v ∧
        aggregate ballots (singleMetricBy ["ward"] "nunique" (some "party")) = .ok w ∧
        SameGroups ["ward"] "n" v w ∧
        w.columns.map Column.cells = [[.int 1, .int 2, .null], [.int 1, .int 0, .int 1]] := by
  have ht : ballots.WellFormed := ⟨by decide, by decide⟩
  have hcount : Aggregator.ofWord "count" = .ok .count :=
    Aggregator.ofWord_of_plain (by decide +kernel) rfl
  have hsum : Aggregator.ofWord "sum" = .ok .sum :=
    Aggregator.ofWord_of_plain (by decide +kernel) rfl
  have hdistinct : Aggregator.ofWord "nunique" = .ok .distinct :=
    Aggregator.ofWord_of_plain (by decide +kernel) rfl
  obtain ⟨hcounts, hdistincts⟩ := aggregates_roll_up ht ["ward"] "n"
  obtain ⟨u, v, w, hu, hv, hw, hsame⟩ := hcounts ["party"] _ _ _ _ (by decide) (by decide)
    (by decide) (by decide) (requests_rows ["ward", "party"])
    (requests_column ["ward"] hsum (by decide)) (.inl rfl) (requests_rows ["ward"])
  obtain ⟨v', w', hv', hw', hsame'⟩ := hdistincts "party" _ _ _ _ _ u (by decide) (by decide)
    (by decide) rfl hu (requests_column ["ward"] hcount (by decide)) (.inl rfl)
    (requests_column ["ward"] hdistinct (by decide)) (.inl rfl)
  have hrows := metrics_eq_answers (t := ballots) (requests_rows ["ward"]).asks
    (List.cons_ne_nil _ _)
  have hparties := metrics_eq_answers (t := ballots)
    (requests_column ["ward"] hdistinct (by decide : "party" ≠ "*")).asks (List.cons_ne_nil _ _)
  refine ⟨ht, ⟨u, v, w, hu, hv, hw, hsame, ?_⟩, u, v', w', hu, hv', hw', hsame', ?_⟩
  · rw [aggregate, hrows] at hw
    obtain rfl := Except.ok.inj hw
    rfl
  · rw [aggregate, hparties] at hw'
    obtain rfl := Except.ok.inj hw'
    rfl

end Aggregation
end RollCall
