import RollCall.Proofs.GroupedRows
import RollCall.Proofs.RowwiseEvaluation
import RollCall.Proofs.Strict.Aggregation

/-!
# Grouped tables

What an aggregation makes of a table, said row by row. The key of a row holds the keys of its cells
in the group columns. For each key there is one row of the result, with the group cells of the first
row that has the key, and the metrics of all rows that have it. A metric is computed from a column,
an expression or the number of rows, as the parameters ask for it.
-/
namespace RollCall

/-- What a metric is computed from. -/
inductive MetricSource
  | rows
  | column (name : String)
  | expression (e : Expression)

namespace MetricSource

/-- The source that a column and an expression node stand for: the expression if there is one. -/
inductive Given : Option String → Option Json → MetricSource → Prop
  | expression {column : Option String} {node : Json} {e : Expression}
    (h : Expression.ofJson node = .ok e) : Given column (some node) (.expression e)
  | column {name : String} (h : name ≠ "*") : Given (some name) none (.column name)
  | star : Given (some "*") none .rows
  | neither : Given none none .rows

def cell? (t : Table) (row : Nat) : MetricSource → Option Cell
  | .rows => none
  | .column name => t.cell? row name
  | .expression e => (e.evalRow t row).toOption

def cells (t : Table) (a : Aggregator) : MetricSource → Except Failure (Option (List Cell))
  | .rows => if a = .count then .ok none else .error (.aggregation .noSource)
  | .column name =>
    match t.column? name with
    | some c => .ok (some c.cells)
    | none => .error (.aggregation (.unknownColumn name))
  | .expression e => do return some (← (e.evalColumn t).mapError .expression)

private theorem metricCells_eq_cells {source : MetricSource} {column : Option String}
    {node : Option Json} (h : source.Given column node) (t : Table) (a : Aggregator) :
    Aggregation.metricCells t a column node = source.cells t a := by
  cases h with
  | expression h =>
    rw [Aggregation.metricCells, h]
    rfl
  | @column name h =>
    have hname : (some name).filter (· ≠ "*") = some name := by simp [Option.filter, h]
    cases hc : t.column? name <;> simp only [Aggregation.metricCells, cells, hname, hc]
  | star => rfl
  | neither => rfl

end MetricSource

structure MetricRequest where
  name : String
  aggregator : Aggregator
  source : MetricSource

namespace MetricRequest

/-- The cell of a group: the number of its rows, or its cells aggregated in the order of rows. -/
def summarize (t : Table) (r : MetricRequest) (rows : List Nat) : Cell :=
  match r.source with
  | .rows => .int (Int64.ofNat rows.length)
  | source => r.aggregator.apply (rows.map fun row => (source.cell? t row).getD .null)

/-- Only a count is computed from the rows, and any other source has a cell in every row. -/
def Fits (t : Table) (r : MetricRequest) : Prop :=
  match r.source with
  | .rows => r.aggregator = .count
  | source => ∀ row < t.rowCount, (source.cell? t row).isSome

/-- The metric that a request asks for. -/
def answer (t : Table) (r : MetricRequest) : Except Failure Metric := do
  let cells ← r.source.cells t r.aggregator
  match (cells.getD []).find? fun c => !r.aggregator.accepts c with
  | some c => .error (.aggregation (.notNumeric r.aggregator c))
  | none => return ⟨r.name, r.aggregator, cells⟩

end MetricRequest

namespace AggregateParameters

/-- The single metric of the parameters, if they have one. -/
inductive AsksOnce (p : AggregateParameters) : List MetricRequest → Prop
  | none (h : p.metric = none) : AsksOnce p []
  | column {name : String} {a : Aggregator} {source : MetricSource}
    (h : p.metric = some (.str name)) (ha : Aggregator.ofWord (p.function.getD "sum") = .ok a)
    (hsource : source.Given (some name) .none) :
    AsksOnce p [⟨p.name.getD (Text.asciiLower a.title), a, source⟩]
  | node {node : Json} {a : Aggregator} {source : MetricSource} (h : p.metric = some node)
    (hnode : ∀ name, node ≠ .str name)
    (ha : Aggregator.ofWord (p.function.getD "sum") = .ok a)
    (hsource : source.Given .none (some node)) :
    AsksOnce p [⟨p.name.getD (Text.asciiLower a.title), a, source⟩]

/-- A metric that is given by its name and a description. -/
inductive Describes : String × Json → MetricRequest → Prop
  | intro {name : String} {fields : List (String × Json)} {word : String} {a : Aggregator}
    {source : MetricSource} (hword : Json.lookup "fn" fields = some (.str word))
    (ha : Aggregator.ofWord word = .ok a)
    (hsource : source.Given
      ((Json.lookup "col" fields <|> Json.lookup "column" fields).bind Json.toStr?)
      (Json.lookup "expr" fields)) :
    Describes (name, .obj fields) ⟨name, a, source⟩

/-- The metrics that the parameters ask for: the single one, then those by name. -/
def Asks (p : AggregateParameters) (rs : List MetricRequest) : Prop :=
  ∃ single named, p.AsksOnce single ∧ List.Forall₂ Describes p.metrics named ∧
    rs = single ++ named

end AggregateParameters

namespace Aggregation

/-- The key of a row in the columns of the given names. -/
def groupKey (t : Table) (names : List String) (row : Nat) : List Key :=
  names.map fun name => ((t.cell? row name).getD .null).key

def groupRows (t : Table) (names : List String) (k : List Key) : List Nat :=
  (List.range t.rowCount).filter fun row => groupKey t names row = k

def firstCell (t : Table) (rows : List Nat) (name : String) : Cell :=
  (rows.head?.bind fun row => t.cell? row name).getD .null

def groupRow (t : Table) (names : List String) (rs : List MetricRequest) (k : List Key) :
    List Cell :=
  names.map (firstCell t (groupRows t names k)) ++
    rs.map fun r => r.summarize t (groupRows t names k)

/-- A table is another one grouped by columns of the given names, one row for each key. -/
structure Groups (t : Table) (names : List String) (rs : List MetricRequest)
    (keys : List (List Key)) (u : Table) : Prop where
  rising : Grouping.Rising keys
  mem_keys_iff : ∀ k, k ∈ keys ↔
    (∃ row < t.rowCount, groupKey t names row = k) ∨ names = [] ∧ k = []
  names_eq : u.names = names ++ rs.map MetricRequest.name
  rowCount_eq : u.rowCount = keys.length
  rows_eq : u.rows = keys.map (groupRow t names rs)
  /-- No cell that the keys and the group cells are made of is lacking. -/
  group_isSome : ∀ name ∈ names, ∀ row < t.rowCount, (t.cell? row name).isSome
  metrics_fit : ∀ r ∈ rs, r.Fits t

variable {t u : Table} {names : List String} {columns : List Column} {rs : List MetricRequest}
  {keys : List (List Key)}

theorem cell?_of_column? {name : String} {c : Column} (h : t.column? name = some c) (row : Nat) :
    t.cell? row name = c.cells[row]? := by
  rw [Table.cell?, h]
  rfl

theorem column?_of_groupColumn {name : String} {c : Column} (h : groupColumn t name = .ok c) :
    t.column? name = some c := by
  rw [groupColumn] at h
  split at h
  · next d hd =>
    cases h
    exact hd
  · cases h

theorem forall₂_groupColumns (h : names.mapM (groupColumn t) = .ok columns) :
    List.Forall₂ (fun name c => t.column? name = some c) names columns :=
  (Outcome.mapM_eq_ok.mp h).imp fun _ _ => column?_of_groupColumn

theorem names_of_forall₂ (h : List.Forall₂ (fun name c => t.column? name = some c) names columns) :
    columns.map Column.name = names := by
  induction h with
  | nil => rfl
  | cons hc _ ih => rw [List.map_cons, ih, Table.name_of_column? hc]

private theorem rowKey_eq_groupKey
    (h : List.Forall₂ (fun name c => t.column? name = some c) names columns) (row : Nat) :
    rowKey columns row = groupKey t names row := by
  induction h with
  | nil => rfl
  | cons hc _ ih =>
    rw [rowKey, List.map_cons, ← cell?_of_column? hc]
    exact congrArg _ ih

private theorem representatives_eq
    (h : List.Forall₂ (fun name c => t.column? name = some c) names columns) (rows : List Nat) :
    columns.map (representative · rows) = names.map (firstCell t rows) := by
  induction h with
  | nil => rfl
  | cons hc _ ih =>
    rw [List.map_cons, ih, List.map_cons, representative, firstCell]
    simp only [cell?_of_column? hc]

def Yields (t : Table) (source : MetricSource) (cells : Option (List Cell)) : Prop :=
  match source with
  | .rows => cells = none
  | source => ∃ values, cells = some values ∧
      ∀ row < t.rowCount, source.cell? t row = some (values[row]?.getD .null)

/-- A metric is what a request asks for. -/
structure Answers (t : Table) (r : MetricRequest) (m : Metric) : Prop where
  name_eq : m.name = r.name
  aggregator_eq : m.aggregator = r.aggregator
  yields : Yields t r.source m.cells
  counts : r.source = .rows → r.aggregator = .count

private theorem yields_of_cells (ht : t.WellFormed) {source : MetricSource} {a : Aggregator}
    {cells : Option (List Cell)} (h : source.cells t a = .ok cells) :
    Yields t source cells ∧ (source = .rows → a = .count) := by
  cases source with
  | rows =>
    rw [MetricSource.cells] at h
    split at h
    · next ha =>
      cases h
      exact ⟨rfl, fun _ => ha⟩
    · cases h
  | column name =>
    rw [MetricSource.cells] at h
    split at h
    · next c hc =>
      cases h
      refine ⟨⟨c.cells, rfl, fun row hrow => ?_⟩, by simp⟩
      rw [← ht.length_of_column? hc] at hrow
      simp [MetricSource.cell?, cell?_of_column? hc, hrow]
    · cases h
  | expression e =>
    simp only [MetricSource.cells, Outcome.bind_eq_ok, Outcome.mapError_eq_ok,
      Outcome.pure_eq_ok] at h
    obtain ⟨values, hvalues, rfl⟩ := h
    refine ⟨⟨values, rfl, fun row hrow => ?_⟩, by simp⟩
    rw [MetricSource.cell?, Expression.evalRow_of_evalColumn ht hvalues hrow]
    rfl

private theorem exists_given_of_metricCells {a : Aggregator} {column : Option String}
    {node : Option Json} {cells : Option (List Cell)}
    (h : metricCells t a column node = .ok cells) :
    ∃ source : MetricSource, source.Given column node := by
  cases node with
  | some node =>
    simp only [metricCells, Outcome.bind_eq_ok, Outcome.mapError_eq_ok] at h
    obtain ⟨e, he, -⟩ := h
    exact ⟨.expression e, .expression he⟩
  | none =>
    cases column with
    | none => exact ⟨.rows, .neither⟩
    | some name =>
      by_cases hstar : name = "*"
      · exact ⟨.rows, hstar ▸ .star⟩
      · exact ⟨.column name, .column hstar⟩

theorem metricOf_eq_answer {column : Option String} {node : Option Json} {name : String}
    {a : Aggregator} {source : MetricSource} (h : source.Given column node) :
    metricOf t name a column node = MetricRequest.answer t ⟨name, a, source⟩ := by
  rw [metricOf, MetricSource.metricCells_eq_cells h]
  rfl

theorem answers_of_answer (ht : t.WellFormed) {r : MetricRequest} {m : Metric}
    (h : r.answer t = .ok m) :
    Answers t r m := by
  rw [MetricRequest.answer, Outcome.bind_eq_ok] at h
  obtain ⟨cells, hcells, h⟩ := h
  obtain ⟨hyields, hcounts⟩ := yields_of_cells ht hcells
  split at h
  · cases h
  · rw [Outcome.pure_eq_ok] at h
    subst h
    exact ⟨rfl, rfl, hyields, hcounts⟩

theorem exists_given_of_metricOf (ht : t.WellFormed) {name : String} {a : Aggregator}
    {column : Option String} {node : Option Json} {m : Metric}
    (h : metricOf t name a column node = .ok m) :
    ∃ source : MetricSource, source.Given column node ∧ Answers t ⟨name, a, source⟩ m := by
  have hcells := h
  rw [metricOf, Outcome.bind_eq_ok] at hcells
  obtain ⟨cells, hcells, -⟩ := hcells
  obtain ⟨source, hgiven⟩ := exists_given_of_metricCells hcells
  rw [metricOf_eq_answer hgiven] at h
  exact ⟨source, hgiven, answers_of_answer ht h⟩

private theorem exists_asksOnce_of_singleMetric (ht : t.WellFormed) {p : AggregateParameters}
    {ms : List Metric} (h : singleMetric t p = .ok ms) :
    ∃ rs, p.AsksOnce rs ∧ List.Forall₂ (Answers t) rs ms := by
  rw [singleMetric] at h
  split at h
  · next hmetric =>
    cases h
    exact ⟨[], .none hmetric, .nil⟩
  · next source hmetric =>
    rw [Outcome.bind_eq_ok] at h
    obtain ⟨a, ha, h⟩ := h
    rw [Outcome.mapError_eq_ok] at ha
    split at h
    · simp only [Outcome.bind_eq_ok, Outcome.pure_eq_ok] at h
      obtain ⟨m, hm, rfl⟩ := h
      obtain ⟨source, hgiven, hanswers⟩ := exists_given_of_metricOf ht hm
      exact ⟨_, .column hmetric ha hgiven, .cons hanswers .nil⟩
    · next hnode =>
      simp only [Outcome.bind_eq_ok, Outcome.pure_eq_ok] at h
      obtain ⟨m, hm, rfl⟩ := h
      obtain ⟨source, hgiven, hanswers⟩ := exists_given_of_metricOf ht hm
      exact ⟨_, .node hmetric hnode ha hgiven, .cons hanswers .nil⟩

private theorem exists_describes_of_namedMetric (ht : t.WellFormed) {name : String} {spec : Json}
    {m : Metric} (h : namedMetric t name spec = .ok m) :
    ∃ r, AggregateParameters.Describes (name, spec) r ∧ Answers t r m := by
  unfold namedMetric at h
  split at h
  · split at h
    · next hword =>
      rw [Outcome.bind_eq_ok] at h
      obtain ⟨a, ha, h⟩ := h
      rw [Outcome.mapError_eq_ok] at ha
      obtain ⟨source, hgiven, hanswers⟩ := exists_given_of_metricOf ht h
      exact ⟨_, .intro hword ha hgiven, hanswers⟩
    · cases h
  · cases h

theorem exists_asks_of_metrics (ht : t.WellFormed) {p : AggregateParameters} {ms : List Metric}
    (h : metrics t p = .ok ms) :
    ms ≠ [] ∧ ∃ rs, p.Asks rs ∧ List.Forall₂ (Answers t) rs ms := by
  simp only [metrics, Outcome.bind_eq_ok] at h
  obtain ⟨single, hsingle, named, hnamed, h⟩ := h
  obtain ⟨rs, hrs, hanswers⟩ := exists_asksOnce_of_singleMetric ht hsingle
  obtain ⟨rs', hrs', hanswers'⟩ := Outcome.exists_between <|
    (Outcome.mapM_eq_ok.mp hnamed).imp fun spec m hm => exists_describes_of_namedMetric ht hm
  split at h
  · cases h
  · next hsome =>
    rw [Outcome.pure_eq_ok] at h
    subst h
    exact ⟨hsome, rs ++ rs', ⟨rs, rs', hrs, hrs', rfl⟩, List.rel_append hanswers hanswers'⟩

private theorem fits_of_answers {r : MetricRequest} {m : Metric} (h : Answers t r m) :
    r.Fits t := by
  obtain ⟨-, -, hyields, hcounts⟩ := h
  obtain ⟨name, a, source⟩ := r
  cases source with
  | rows => exact hcounts rfl
  | _ =>
    obtain ⟨values, -, hvalues⟩ := hyields
    intro row hrow
    rw [hvalues row hrow]
    rfl

private theorem metricCell_eq_summarize {r : MetricRequest} {m : Metric} (h : Answers t r m)
    {rows : List Nat} (hrows : ∀ row ∈ rows, row < t.rowCount) :
    metricCell m rows = r.summarize t rows := by
  obtain ⟨-, haggregator, hyields, -⟩ := h
  obtain ⟨name, a, source⟩ := r
  dsimp only at haggregator
  subst haggregator
  unfold metricCell
  cases source with
  | rows =>
    have hnone : m.cells = none := hyields
    rw [hnone]
    rfl
  | _ =>
    obtain ⟨values, hsome, hvalues⟩ := hyields
    rw [hsome]
    refine congrArg m.aggregator.apply (List.map_congr_left fun row hrow => ?_)
    rw [hvalues row (hrows row hrow)]
    rfl

private theorem summaries_eq {ms : List Metric} (h : List.Forall₂ (Answers t) rs ms)
    {rows : List Nat} (hrows : ∀ row ∈ rows, row < t.rowCount) :
    ms.map (metricCell · rows) = rs.map fun r => r.summarize t rows := by
  induction h with
  | nil => rfl
  | cons hm _ ih => rw [List.map_cons, ih, List.map_cons, metricCell_eq_summarize hm hrows]

theorem names_of_answers {ms : List Metric} (h : List.Forall₂ (Answers t) rs ms) :
    ms.map Metric.name = rs.map MetricRequest.name := by
  induction h with
  | nil => rfl
  | cons hm _ ih => rw [List.map_cons, ih, List.map_cons, hm.name_eq]

def summaryColumns (t : Table) (columns : List Column) (ms : List Metric) : List Column :=
  (columns.map fun c => { c with cells := (groups t columns).map fun g => representative c g.2 }) ++
    ms.map fun m => Column.ofCells m.name ((groups t columns).map fun g => metricCell m g.2)

theorem columns_of_summary {ms : List Metric} (h : summary t columns ms = .ok u) :
    Table.ofColumns (summaryColumns t columns ms) = .ok u := by
  rw [summary] at h
  split at h
  · cases h
  · dsimp only at h
    split at h
    · next hcolumns =>
      cases h
      exact hcolumns
    · cases h

private theorem length_of_mem_summaryColumns {ms : List Metric} {c : Column}
    (hc : c ∈ summaryColumns t columns ms) : c.length = (groups t columns).length := by
  rcases List.mem_append.mp hc with hc | hc <;>
  · obtain ⟨d, -, rfl⟩ := List.mem_map.mp hc
    exact List.length_map _

private theorem summaryColumns_ne_nil {ms : List Metric} (hms : ms ≠ []) :
    summaryColumns t columns ms ≠ [] := by
  simp [summaryColumns, hms]

/-- Read row by row, the columns of a result hold the cells of one group after the other. -/
theorem rows_of_summaryColumns {ms : List Metric}
    (hcolumns : u.columns = summaryColumns t columns ms)
    (hrows : u.rowCount = (groups t columns).length) :
    u.rows = (groups t columns).map fun g =>
      columns.map (representative · g.2) ++ ms.map (metricCell · g.2) := by
  rw [Table.rows, hcolumns, hrows]
  apply List.ext_getElem
  · simp
  · intro i hi hi'
    have hgroup : i < (groups t columns).length := by simpa using hi'
    simp [summaryColumns, Column.ofCells, Function.comp_def, hgroup]

theorem groups_of_summary (ht : t.WellFormed)
    (hcolumns : List.Forall₂ (fun name c => t.column? name = some c) names columns)
    {ms : List Metric} (hanswers : List.Forall₂ (Answers t) rs ms) (hms : ms ≠ [])
    (h : summary t columns ms = .ok u) :
    u.WellFormed ∧ Groups t names rs (groups t columns).keys u := by
  have hlength : ∀ c ∈ columns, c.length = t.rowCount := by
    intro c hc
    obtain ⟨name, -, hname⟩ := Outcome.exists_of_mem_right hcolumns hc
    exact ht.length_of_column? hname
  have hnames := names_of_forall₂ hcolumns
  have hnone : columns = [] ↔ names = [] := by rw [← hnames, List.map_eq_nil_iff]
  obtain ⟨hwell, hu, hfirst⟩ := Table.ofColumns_eq_ok.mp (columns_of_summary h)
  have hrows : u.rowCount = (groups t columns).length := by
    -- There is a metric, so there is a first column by which the rows are counted.
    obtain ⟨c, cs, hcs⟩ := List.exists_cons_of_ne_nil (summaryColumns_ne_nil hms)
    rw [hfirst, hcs, List.head?_cons, Option.map_some, Option.getD_some]
    exact length_of_mem_summaryColumns (hcs ▸ List.mem_cons_self)
  refine ⟨hwell, ?_⟩
  constructor
  case rising => exact rising_groups hlength
  case mem_keys_iff =>
    intro k
    rw [mem_keys_groups hlength, hnone]
    simp only [rowKey_eq_groupKey hcolumns]
  case names_eq =>
    rw [Table.names, hu, summaryColumns, ← hnames, ← names_of_answers hanswers]
    simp [Column.ofCells, Function.comp_def]
  case rowCount_eq => rw [hrows, Grouping.keys, List.length_map]
  case rows_eq =>
    rw [rows_of_summaryColumns hu hrows, Grouping.keys, List.map_map]
    refine List.map_congr_left fun g hg => ?_
    have hgroup : g.2 = groupRows t names g.1 := by
      rw [rows_of_mem_groups hlength hg]
      simp only [rowKey_eq_groupKey hcolumns]
      rfl
    rw [representatives_eq hcolumns, summaries_eq hanswers (lt_of_mem_groups hlength hg), hgroup]
    rfl
  case group_isSome =>
    intro name hname row hrow
    obtain ⟨c, -, hc⟩ := Outcome.exists_of_mem_left hcolumns hname
    rw [← ht.length_of_column? hc] at hrow
    rw [cell?_of_column? hc, List.getElem?_eq_getElem hrow]
    rfl
  case metrics_fit =>
    intro r hr
    obtain ⟨m, -, hm⟩ := Outcome.exists_of_mem_left hanswers hr
    exact fits_of_answers hm

namespace Groups

private theorem existsUnique_index (h : Groups t names rs keys u) {row : Nat}
    (hrow : row < t.rowCount) :
    ∃! i, ∃ hi : i < keys.length, row ∈ groupRows t names keys[i] := by
  -- The key of the row is among the keys, and no two of them agree.
  have hnodup : keys.Nodup := h.rising.imp Grouping.ne_of_compareList
  have hmem : groupKey t names row ∈ keys := (h.mem_keys_iff _).mpr (.inl ⟨row, hrow, rfl⟩)
  obtain ⟨i, hi, hkey⟩ := List.getElem_of_mem hmem
  refine ⟨i, ⟨hi, ?_⟩, ?_⟩
  · rw [groupRows, List.mem_filter, List.mem_range]
    exact ⟨hrow, decide_eq_true hkey.symm⟩
  · rintro j ⟨hj, hrowj⟩
    have hkeyj : groupKey t names row = keys[j] := of_decide_eq_true (List.mem_filter.mp hrowj).2
    exact (hnodup.getElem_inj_iff).mp (hkeyj.symm.trans hkey.symm)

private theorem rowCount_of_no_names (h : Groups t [] rs keys u) : u.rowCount = 1 := by
  have hall : ∀ k ∈ keys, k = [] := by
    intro k hk
    rcases (h.mem_keys_iff k).mp hk with ⟨row, -, rfl⟩ | ⟨-, rfl⟩ <;> rfl
  have hnodup : keys.Nodup := h.rising.imp Grouping.ne_of_compareList
  have hmem : [] ∈ keys := (h.mem_keys_iff []).mpr (.inr ⟨rfl, rfl⟩)
  have hle : keys.length ≤ 1 := by
    rw [List.eq_replicate_of_mem hall] at hnodup
    simpa using List.nodup_replicate.mp hnodup
  have hpos := List.length_pos_of_mem hmem
  rw [h.rowCount_eq]
  omega

private theorem rowCount_of_no_rows (h : Groups t names rs keys u) (hnames : names ≠ [])
    (ht : t.rowCount = 0) : u.rowCount = 0 := by
  rw [h.rowCount_eq, List.length_eq_zero_iff, List.eq_nil_iff_forall_not_mem]
  intro k hk
  rcases (h.mem_keys_iff k).mp hk with ⟨row, hrow, -⟩ | ⟨hnone, -⟩
  · omega
  · exact hnames hnone

end Groups

/-- Aggregating groups the rows of a table by their keys and answers every metric for each group.
The order of the keys is lexicographic, and the key of a missing cell comes last. -/
theorem aggregate_eq_groups (ht : t.WellFormed) {p : AggregateParameters}
    (h : aggregate t p = .ok u) :
    (∃ rs keys, p.Asks rs ∧ Groups t p.group rs keys u ∧
      ∀ row < t.rowCount, ∃! i, ∃ hi : i < keys.length, row ∈ groupRows t p.group keys[i]) ∧
    u.WellFormed ∧
    (p.group = [] → u.rowCount = 1) ∧
    (p.group ≠ [] → t.rowCount = 0 → u.rowCount = 0) ∧
    Key.compareList = List.compareLex Key.compare ∧
    (∀ k, k ≠ .null → Key.compare k .null = .lt) ∧
    ∀ c : Cell, c.key = .null ↔ c.isMissing := by
  simp only [aggregate, Outcome.bind_eq_ok, Outcome.mapError_eq_ok] at h
  obtain ⟨columns, hcolumns, ms, hms, hsummary⟩ := h
  obtain ⟨hne, rs, hasks, hanswers⟩ := exists_asks_of_metrics ht hms
  obtain ⟨hwell, hgroups⟩ :=
    groups_of_summary ht (forall₂_groupColumns hcolumns) hanswers hne hsummary
  refine ⟨⟨rs, _, hasks, hgroups, fun row => hgroups.existsUnique_index⟩, hwell, ?_,
    hgroups.rowCount_of_no_rows, Key.compareList_eq, fun k => Key.compare_null,
    fun c => c.key_eq_null_iff⟩
  intro hnone
  rw [hnone] at hgroups
  exact hgroups.rowCount_of_no_names

/-- Words spoken from a seat that is an integer, the double of the same value, a text, a truth value
or missing in one of two ways. -/
def speeches : Table :=
  ⟨[⟨"seat", .numeric, [.text "vacant", .int 1, .null, .float (Float.ofBits 0x3FF0000000000000),
      .float Binary64.nan, .bool true]⟩,
    ⟨"words", .numeric, [.int 5, .int 10, .int 2, .int 40, .null, .int 7]⟩], 6⟩

def wordsBySeat : AggregateParameters :=
  { group := ["seat"]
    metrics := [("n", .obj [("fn", .str "count")]),
      ("total", .obj [("fn", .str "sum"), ("col", .str "words")])] }

def groupedSpeeches : Table :=
  ⟨[⟨"seat", .numeric, [.bool true, .int 1, .text "vacant", .null]⟩,
    ⟨"n", .numeric, [.int 1, .int 2, .int 1, .int 2]⟩,
    ⟨"total", .numeric, [.int 7, .int 50, .int 5, .int 2]⟩], 4⟩

theorem aggregate_eq_groups_sample :
    aggregate speeches wordsBySeat = .ok groupedSpeeches ∧ groupedSpeeches.WellFormed ∧
      ∃ rs keys, wordsBySeat.Asks rs ∧ Groups speeches ["seat"] rs keys groupedSpeeches := by
  have hcount : Aggregator.ofWord "count" = .ok .count :=
    Aggregator.ofWord_of_plain (by decide +kernel) rfl
  have hsum : Aggregator.ofWord "sum" = .ok .sum :=
    Aggregator.ofWord_of_plain (by decide +kernel) rfl
  have hn : namedMetric speeches "n" (.obj [("fn", .str "count")]) = .ok ⟨"n", .count, none⟩ := by
    change ((Aggregator.ofWord "count").mapError Failure.aggregation >>= fun a =>
      metricOf speeches "n" a none none) = _
    rw [hcount]
    rfl
  have htotal : namedMetric speeches "total" (.obj [("fn", .str "sum"), ("col", .str "words")]) =
      .ok ⟨"total", .sum, some [.int 5, .int 10, .int 2, .int 40, .null, .int 7]⟩ := by
    change ((Aggregator.ofWord "sum").mapError Failure.aggregation >>= fun a =>
      metricOf speeches "total" a (some "words") none) = _
    rw [hsum]
    rfl
  have haggregate : aggregate speeches wordsBySeat = .ok groupedSpeeches := by
    simp only [aggregate, metrics, wordsBySeat, List.mapM_cons, hn, htotal]
    rfl
  obtain ⟨⟨rs, keys, hasks, hgroups, -⟩, hwell, -⟩ :=
    aggregate_eq_groups (t := speeches) ⟨by decide, by decide⟩ haggregate
  exact ⟨haggregate, hwell, rs, keys, hasks, hgroups⟩

end Aggregation
end RollCall
