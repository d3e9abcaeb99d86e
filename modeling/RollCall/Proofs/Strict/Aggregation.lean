import RollCall.Aggregation.Basic
import RollCall.Proofs.Strict.Basic

/-!
# Reading by position in aggregations

An aggregation reads the group cells of every row, the first row of every group, the cells of all
rows of a group for every metric, and the middle of the sorted numbers for a median.
-/
namespace RollCall

namespace Grouping

private theorem mem_of_mem_add {key : List Key} {row : Nat} {groups : Grouping}
    {g : List Key × List Nat} (hg : g ∈ add key row groups) {r : Nat} (hr : r ∈ g.2) :
    r = row ∨ ∃ old ∈ groups, r ∈ old.2 := by
  induction groups with
  | nil =>
    rw [add, List.mem_singleton] at hg
    subst hg
    exact .inl (List.mem_singleton.mp hr)
  | cons first groups ih =>
    obtain ⟨k, rows⟩ := first
    rw [add] at hg
    split at hg
    · rcases List.mem_cons.mp hg with rfl | hg
      · exact .inl (List.mem_singleton.mp hr)
      · exact .inr ⟨g, hg, hr⟩
    · rcases List.mem_cons.mp hg with rfl | hg
      · rcases List.mem_append.mp hr with hr | hr
        · exact .inr ⟨(k, rows), List.mem_cons_self, hr⟩
        · exact .inl (List.mem_singleton.mp hr)
      · exact .inr ⟨g, List.mem_cons_of_mem _ hg, hr⟩
    · rcases List.mem_cons.mp hg with rfl | hg
      · exact .inr ⟨(k, rows), List.mem_cons_self, hr⟩
      · obtain hrow | ⟨old, hold, hr⟩ := ih hg
        · exact .inl hrow
        · exact .inr ⟨old, List.mem_cons_of_mem _ hold, hr⟩

private theorem mem_of_mem_foldl_add {entries : List (List Key × Nat)} {groups : Grouping}
    {g : List Key × List Nat}
    (hg : g ∈ entries.foldl (fun groups (key, row) => add key row groups) groups) {r : Nat}
    (hr : r ∈ g.2) : (∃ entry ∈ entries, entry.2 = r) ∨ ∃ old ∈ groups, r ∈ old.2 := by
  induction entries generalizing groups with
  | nil => exact .inr ⟨g, hg, hr⟩
  | cons entry entries ih =>
    rcases ih hg with ⟨later, hlater, hrow⟩ | ⟨mid, hmid, hr⟩
    · exact .inl ⟨later, List.mem_cons_of_mem _ hlater, hrow⟩
    · rcases mem_of_mem_add hmid hr with rfl | hold
      · exact .inl ⟨entry, List.mem_cons_self, rfl⟩
      · exact .inr hold

/-- A group holds positions of the keys only. -/
theorem lt_of_mem_ofKeys {keys : List (List Key)} {g : List Key × List Nat}
    (hg : g ∈ ofKeys keys) {r : Nat} (hr : r ∈ g.2) : r < keys.length := by
  rcases mem_of_mem_foldl_add hg hr with ⟨entry, hentry, rfl⟩ | ⟨_, hold, -⟩
  · simpa using List.snd_lt_of_mem_zipIdx hentry
  · cases hold

end Grouping

namespace Aggregation

variable {t : Table}

theorem mem_of_groupColumns {names : List String} {columns : List Column}
    (h : names.mapM (groupColumn t) = .ok columns) : ∀ c ∈ columns, c ∈ t.columns := by
  intro c hc
  obtain ⟨name, -, hname⟩ := Outcome.exists_of_mem_mapM h hc
  rw [groupColumn] at hname
  split at hname
  · next d hd =>
    cases hname
    exact Table.mem_of_column? hd
  · cases hname

theorem lt_of_mem_groups {columns : List Column} (hcolumns : ∀ c ∈ columns, c.length = t.rowCount)
    {g : List Key × List Nat} (hg : g ∈ groups t columns) : ∀ r ∈ g.2, r < t.rowCount := by
  intro r hr
  have hlength := length_groupKeys hcolumns
  unfold groups at hg
  split at hg
  · rw [List.mem_singleton.mp hg] at hr
    cases hr
  · exact hlength ▸ Grouping.lt_of_mem_ofKeys hg hr

private theorem length_of_metricCells (ht : t.WellFormed) {a : Aggregator} {column : Option String}
    {node : Option Json} {cells : List Cell} (h : metricCells t a column node = .ok (some cells)) :
    cells.length = t.rowCount := by
  unfold metricCells at h
  split at h
  · simp only [Outcome.bind_eq_ok, Outcome.mapError_eq_ok, Outcome.pure_eq_ok,
      Option.some.injEq] at h
    obtain ⟨e, -, values, hvalues, rfl⟩ := h
    exact Expression.length_evalColumn ht hvalues
  · split at h
    · next c hc =>
      cases h
      exact ht.length_of_column? hc
    · cases h
  · split at h <;> cases h

/-- The cells of a metric are those of all rows. -/
def FitsRows (t : Table) (m : Metric) : Prop :=
  ∀ cells, m.cells = some cells → cells.length = t.rowCount

theorem fitsRows_of_metricOf (ht : t.WellFormed) {name : String} {a : Aggregator}
    {column : Option String} {node : Option Json} {m : Metric}
    (h : metricOf t name a column node = .ok m) : FitsRows t m := by
  rw [metricOf, Outcome.bind_eq_ok] at h
  obtain ⟨values, hvalues, h⟩ := h
  split at h
  · cases h
  · rw [Outcome.pure_eq_ok] at h
    subst h
    rintro cells rfl
    exact length_of_metricCells ht hvalues

private theorem fitsRows_of_singleMetric (ht : t.WellFormed) {p : AggregateParameters}
    {ms : List Metric} (h : singleMetric t p = .ok ms) : ∀ m ∈ ms, FitsRows t m := by
  rw [singleMetric] at h
  split at h
  · cases h
    simp
  · rw [Outcome.bind_eq_ok] at h
    obtain ⟨a, -, h⟩ := h
    split at h <;>
    · simp only [Outcome.bind_eq_ok, Outcome.pure_eq_ok] at h
      obtain ⟨m, hm, rfl⟩ := h
      simpa using fitsRows_of_metricOf ht hm

private theorem fitsRows_of_namedMetric (ht : t.WellFormed) {name : String} {spec : Json}
    {m : Metric} (h : namedMetric t name spec = .ok m) : FitsRows t m := by
  unfold namedMetric at h
  split at h
  · split at h
    · rw [Outcome.bind_eq_ok] at h
      obtain ⟨a, -, h⟩ := h
      exact fitsRows_of_metricOf ht h
    · cases h
  · cases h

private theorem fitsRows_of_metrics (ht : t.WellFormed) {p : AggregateParameters} {ms : List Metric}
    (h : metrics t p = .ok ms) : ∀ m ∈ ms, FitsRows t m := by
  simp only [metrics, Outcome.bind_eq_ok] at h
  obtain ⟨single, hsingle, named, hnamed, h⟩ := h
  have hall : ∀ m ∈ single ++ named, FitsRows t m := by
    intro m hm
    rcases List.mem_append.mp hm with hm | hm
    · exact fitsRows_of_singleMetric ht hsingle m hm
    · obtain ⟨⟨name, spec⟩, -, hspec⟩ := Outcome.exists_of_mem_mapM hnamed hm
      exact fitsRows_of_namedMetric ht hspec
  split at h
  · cases h
  · rw [Outcome.pure_eq_ok] at h
    exact h ▸ hall

theorem wellFormed_of_aggregate {p : AggregateParameters} {u : Table}
    (h : aggregate t p = .ok u) : u.WellFormed := by
  simp only [aggregate, Outcome.bind_eq_ok, Outcome.mapError_eq_ok] at h
  obtain ⟨columns, -, ms, -, h⟩ := h
  rw [summary] at h
  split at h
  · cases h
  · dsimp only at h
    split at h
    · next v hv =>
      cases h
      exact Table.wellFormed_of_ofColumns hv
    · cases h

end Aggregation

namespace Strict

def groupKey (columns : List Column) (row : Nat) : Option (List Key) :=
  columns.mapM fun c => c.cells[row]?.map Cell.key

def groups (t : Table) (columns : List Column) : Option Grouping := do
  let keys ← (List.range t.rowCount).mapM (groupKey columns)
  return match columns, Grouping.ofKeys keys with
    | [], [] => [([], [])]
    | _, found => found

def representative (c : Column) : List Nat → Option Cell
  | [] => some .null
  | row :: _ => c.cells[row]?

def middle (xs : List Float) : Option Float :=
  let sorted := xs.mergeSort fun x y => Binary64.orderRank x ≤ Binary64.orderRank y
  let half := sorted.length / 2
  if sorted.length % 2 = 0 then do return ((← sorted[half - 1]?) + (← sorted[half]?)) / 2.0
  else sorted[half]?

/-- The cell that stands for a group. Only a median reads by position. -/
def aggregateCells (a : Aggregator) (cells : List Cell) : Option Cell :=
  match a with
  | .median =>
    let present := cells.filter fun c => !c.isMissing
    if present.isEmpty then some .null
    else (middle (present.map Aggregator.number)).map .float
  | a => some (a.apply cells)

def metricCell (m : Metric) (rows : List Nat) : Option Cell :=
  match m.cells with
  | none => some (.int (Int64.ofNat rows.length))
  | some cells => do aggregateCells m.aggregator (← readAll cells rows)

def groupColumn (gs : Grouping) (c : Column) : Option Column := do
  return { c with cells := ← gs.mapM fun g => representative c g.2 }

def metricColumn (gs : Grouping) (m : Metric) : Option Column := do
  return Column.ofCells m.name (← gs.mapM fun g => metricCell m g.2)

def summary (t : Table) (columns : List Column) (ms : List Metric) :
    Reading AggregationFault Table := do
  let gs ← found (groups t columns)
  let groupColumns ← found (columns.mapM (groupColumn gs))
  let metricColumns ← found (ms.mapM (metricColumn gs))
  plain <| match ms.find? fun m => m.name ∈ columns.map Column.name with
    | some m => .error (.groupClash m.name)
    | none =>
      match Table.ofColumns (groupColumns ++ metricColumns) with
      | .ok result => .ok result
      | .error fault => .error (.table fault)

def metricCells (t : Table) (a : Aggregator) (column : Option String) (node : Option Json) :
    Reading Failure (Option (List Cell)) :=
  match node with
  | some node => do
    let e ← plain ((Expression.ofJson node).mapError .expression)
    return some (← (evalColumn t e).adapt .expression)
  | none => plain (Aggregation.metricCells t a column none)

def metricOf (t : Table) (name : String) (a : Aggregator) (column : Option String)
    (node : Option Json) : Reading Failure Metric := do
  let cells ← metricCells t a column node
  match (cells.getD []).find? fun c => !a.accepts c with
  | some c => plain (.error (.aggregation (.notNumeric a c)))
  | none => return ⟨name, a, cells⟩

def singleMetric (t : Table) (p : AggregateParameters) : Reading Failure (List Metric) :=
  match p.metric with
  | none => plain (.ok [])
  | some source => do
    let a ← plain ((Aggregator.ofWord (p.function.getD "sum")).mapError .aggregation)
    let name := p.name.getD (Text.asciiLower a.title)
    match source with
    | .str column => return [← metricOf t name a (some column) none]
    | node => return [← metricOf t name a none (some node)]

def namedMetric (t : Table) (name : String) : Json → Reading Failure Metric
  | .obj fields =>
    match Json.lookup "fn" fields with
    | some (.str word) => do
      let a ← plain ((Aggregator.ofWord word).mapError .aggregation)
      let column := (Json.lookup "col" fields <|> Json.lookup "column" fields).bind Json.toStr?
      metricOf t name a column (Json.lookup "expr" fields)
    | _ => plain (.error (.aggregation (.noFunction name)))
  | _ => plain (.error (.aggregation (.metricNotObject name)))

def metrics (t : Table) (p : AggregateParameters) : Reading Failure (List Metric) := do
  let single ← singleMetric t p
  let named ← p.metrics.mapM fun (name, spec) => namedMetric t name spec
  match single ++ named with
  | [] => plain (.error (.aggregation .noMetric))
  | all => return all

def aggregate (t : Table) (p : AggregateParameters) : Reading Failure Table := do
  let columns ← plain (p.group.mapM (Aggregation.groupColumn t))
  let ms ← metrics t p
  (summary t columns ms).adapt .aggregation

variable {t : Table}

private theorem groups_eq {columns : List Column} (h : ∀ c ∈ columns, c.length = t.rowCount) :
    groups t columns = some (Aggregation.groups t columns) := by
  have hkeys : (List.range t.rowCount).mapM (groupKey columns) =
      some (groupKeys t.rowCount columns) := by
    rw [groupKeys_eq h]
    refine mapM_eq_some_map fun row hrow => mapM_eq_some_map fun c hc => ?_
    have hlength : c.cells.length = t.rowCount := h c hc
    have hread := getElem?_eq_some_getD (hlength ▸ List.mem_range.mp hrow) Cell.null
    rw [hread]
    rfl
  rw [groups, hkeys]
  rfl

private theorem representative_eq {c : Column} {rows : List Nat}
    (h : ∀ r ∈ rows, r < c.cells.length) :
    representative c rows = some (Aggregation.representative c rows) := by
  cases rows with
  | nil => rfl
  | cons row rows => exact getElem?_eq_some_getD (h row List.mem_cons_self) Cell.null

/-- Some numbers have a middle. -/
theorem middle_eq {xs : List Float} (h : xs ≠ []) : middle xs = some (Aggregator.middle xs) := by
  rw [middle, Aggregator.middle]
  simp only [List.size_toArray, List.getElem?_toArray]
  generalize hsorted : xs.mergeSort (fun x y => decide (Binary64.orderRank x ≤
    Binary64.orderRank y)) = sorted
  have hpos : 0 < sorted.length := by
    rw [← hsorted, List.length_mergeSort]
    exact List.length_pos_of_ne_nil h
  have hupper : sorted[sorted.length / 2]? = some (sorted[sorted.length / 2]?.getD Binary64.nan) :=
    getElem?_eq_some_getD (by omega) _
  have hlower : sorted[sorted.length / 2 - 1]? =
      some (sorted[sorted.length / 2 - 1]?.getD Binary64.nan) :=
    getElem?_eq_some_getD (by omega) _
  split
  · rw [hlower, hupper]
    rfl
  · exact hupper

private theorem aggregateCells_eq (a : Aggregator) (cells : List Cell) :
    aggregateCells a cells = some (a.apply cells) := by
  cases a with
  | median =>
    simp only [aggregateCells, Aggregator.apply]
    split
    · rfl
    · next hpresent =>
      rw [middle_eq (by simpa using hpresent)]
      rfl
  | _ => rfl

private theorem metricCell_eq {m : Metric} (hm : Aggregation.FitsRows t m) {rows : List Nat}
    (h : ∀ r ∈ rows, r < t.rowCount) :
    metricCell m rows = some (Aggregation.metricCell m rows) := by
  rw [metricCell, Aggregation.metricCell]
  cases hcells : m.cells with
  | none => rfl
  | some cells =>
    have hread := readAll_eq Cell.null fun r hr => (hm cells hcells).symm ▸ h r hr
    simp only [hread, Option.bind_eq_bind, Option.bind_some, aggregateCells_eq]

private theorem meets_summary (ht : t.WellFormed) {columns : List Column}
    (hcolumns : ∀ c ∈ columns, c ∈ t.columns) {ms : List Metric}
    (hms : ∀ m ∈ ms, Aggregation.FitsRows t m) :
    Meets (summary t columns ms) (Aggregation.summary t columns ms) := by
  have hlength : ∀ c ∈ columns, c.length = t.rowCount := fun c hc =>
    ht.length_eq c (hcolumns c hc)
  have hrows : ∀ g ∈ Aggregation.groups t columns, ∀ r ∈ g.2, r < t.rowCount := fun g hg =>
    Aggregation.lt_of_mem_groups hlength hg
  have hgroup : ∀ c ∈ columns, groupColumn (Aggregation.groups t columns) c =
      some { c with cells := (Aggregation.groups t columns).map fun g =>
        Aggregation.representative c g.2 } := by
    intro c hc
    have hcells : c.cells.length = t.rowCount := hlength c hc
    rw [groupColumn, mapM_eq_some_map fun g hg => representative_eq (hcells.symm ▸ hrows g hg)]
    rfl
  have hmetric : ∀ m ∈ ms, metricColumn (Aggregation.groups t columns) m =
      some (Column.ofCells m.name
        ((Aggregation.groups t columns).map fun g => Aggregation.metricCell m g.2)) := by
    intro m hm
    rw [metricColumn, mapM_eq_some_map fun g hg => metricCell_eq (hms m hm) (hrows g hg)]
    rfl
  refine Meets.found_bind (groups_eq hlength) ?_
  refine Meets.found_bind (mapM_eq_some_map hgroup) ?_
  exact Meets.found_bind (mapM_eq_some_map hmetric) (Meets.plain _)

private theorem meets_metricCells (ht : t.WellFormed) (a : Aggregator) (column : Option String)
    (node : Option Json) :
    Meets (metricCells t a column node) (Aggregation.metricCells t a column node) := by
  cases node with
  | none => exact Meets.plain _
  | some node =>
    refine (Meets.plain _).bind fun e _ => ?_
    exact (meets_evalColumn ht e).adapt.bind fun cells _ => Meets.pure (some cells)

theorem meets_metricOf (ht : t.WellFormed) (name : String) (a : Aggregator)
    (column : Option String) (node : Option Json) :
    Meets (metricOf t name a column node) (Aggregation.metricOf t name a column node) := by
  refine (meets_metricCells ht a column node).bind fun cells _ => ?_
  cases (cells.getD []).find? fun c => !a.accepts c with
  | some c => exact Meets.plain _
  | none => exact Meets.pure _

private theorem meets_singleMetric (ht : t.WellFormed) (p : AggregateParameters) :
    Meets (singleMetric t p) (Aggregation.singleMetric t p) := by
  rw [singleMetric, Aggregation.singleMetric]
  cases p.metric with
  | none => exact Meets.plain _
  | some source =>
    refine (Meets.plain _).bind fun a _ => ?_
    cases source <;> exact (meets_metricOf ht _ a _ _).bind fun m _ => Meets.pure [m]

private theorem meets_namedMetric (ht : t.WellFormed) (name : String) (spec : Json) :
    Meets (namedMetric t name spec) (Aggregation.namedMetric t name spec) := by
  cases spec with
  | obj fields =>
    simp only [namedMetric, Aggregation.namedMetric]
    cases Json.lookup "fn" fields with
    | none => exact Meets.plain _
    | some v =>
      cases v with
      | str word => exact (Meets.plain _).bind fun a _ => meets_metricOf ht name a _ _
      | _ => exact Meets.plain _
  | _ => exact Meets.plain _

private theorem meets_metrics (ht : t.WellFormed) (p : AggregateParameters) :
    Meets (metrics t p) (Aggregation.metrics t p) := by
  refine (meets_singleMetric ht p).bind fun single _ => ?_
  refine (Meets.mapM fun spec _ => meets_namedMetric ht spec.1 spec.2).bind fun named _ => ?_
  cases single ++ named with
  | nil => exact Meets.plain _
  | cons m ms => exact Meets.pure (m :: ms)

theorem meets_aggregate (ht : t.WellFormed) (p : AggregateParameters) :
    Meets (aggregate t p) (Aggregation.aggregate t p) := by
  refine (Meets.plain _).bind fun columns hcolumns => ?_
  refine (meets_metrics ht p).bind fun ms hms => ?_
  exact (meets_summary ht (Aggregation.mem_of_groupColumns hcolumns)
    (Aggregation.fitsRows_of_metrics ht hms)).adapt

end Strict
end RollCall
