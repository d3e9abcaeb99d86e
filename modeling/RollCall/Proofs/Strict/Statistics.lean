import RollCall.Proofs.Strict.Basic
import RollCall.Statistics.Tests

/-!
# Reading by position in statistical tests

Tests read the cells of a row column after column, up to the first that is missing, and then the
numbers of the complete rows by their columns.
-/
namespace RollCall

namespace Statistics

private theorem length_rowNumbers {row : List (String × Cell)} {xs : List Float}
    (h : rowNumbers row = .ok (some xs)) : xs.length = row.length := by
  induction row generalizing xs with
  | nil =>
    rw [rowNumbers] at h
    cases h
    rfl
  | cons entry row ih =>
    obtain ⟨name, c⟩ := entry
    rw [rowNumbers, Outcome.bind_eq_ok] at h
    obtain ⟨x, -, h⟩ := h
    cases x with
    | none => cases h
    | some x =>
      simp only [Outcome.bind_eq_ok, Outcome.pure_eq_ok, Option.map_eq_some_iff] at h
      obtain ⟨_, hrest, rest, rfl, rfl⟩ := h
      simp [ih hrest]

theorem length_of_cells {t : Table} (ht : t.WellFormed) {names : List String}
    {columns : List (List Cell)} (h : names.mapM (cells t) = .ok columns) :
    ∀ cs ∈ columns, cs.length = t.rowCount := by
  intro cs hcs
  obtain ⟨name, -, hname⟩ := Outcome.exists_of_mem_mapM h hcs
  rw [cells] at hname
  split at hname
  · next c hc =>
    cases hname
    exact ht.length_of_column? hc
  · cases hname

/-- A complete row has a number for every name. -/
theorem length_of_mem_completeRows {t : Table} (ht : t.WellFormed) {names : List String}
    {rows : List (List Float)} (h : completeRows t names = .ok rows) :
    ∀ row ∈ rows, row.length = names.length := by
  simp only [completeRows, Outcome.bind_eq_ok, Outcome.pure_eq_ok] at h
  obtain ⟨columns, hcolumns, found, hfound, rfl⟩ := h
  intro row hrow
  obtain ⟨found?, hmem, rfl⟩ := List.mem_filterMap.mp hrow
  obtain ⟨cells, hcells, hnumbers⟩ := Outcome.exists_of_mem_mapM hfound hmem
  rw [rowsOf_eq (length_of_cells ht hcolumns)] at hcells
  obtain ⟨i, -, rfl⟩ := List.mem_map.mp hcells
  rw [length_rowNumbers hnumbers]
  simp [Outcome.length_eq_of_mapM hcolumns]

end Statistics

namespace Strict

/-- The numbers of a row, read column after column up to the first that is missing. -/
def rowNumbers (row : Nat) : List (String × List Cell) → Reading TestFault (Option (List Float))
  | [] => return some []
  | (name, cells) :: columns => do
    match ← plain (Statistics.number? name (← found cells[row]?)) with
    | none => return none
    | some x => return (← rowNumbers row columns).map (x :: ·)

def completeRows (t : Table) (names : List String) : Reading TestFault (List (List Float)) := do
  let columns ← plain (names.mapM (Statistics.cells t))
  let rows ← (List.range t.rowCount).mapM fun row => rowNumbers row (names.zip columns)
  return rows.filterMap id

def columnOf (rows : List (List Float)) (i : Nat) : Option (List Float) :=
  rows.mapM (·[i]?)

def correlation [Library] (t : Table) (x y : String) : Reading TestFault TestResult := do
  let rows ← completeRows t [x, y]
  plain (Statistics.correlationOf (← found (columnOf rows 0)) (← found (columnOf rows 1)))

/-- The fit of a column by an intercept and predictors, all of whose numbers are read. -/
def ols [Library] (t : Table) (y : String) (predictors : List String) :
    Reading TestFault TestResult := do
  if predictors.isEmpty then plain (.error .noPredictor)
  else
    match Statistics.badPredictor? y [] predictors with
    | some p => plain (.error (.badPredictor p))
    | none =>
      let rows ← completeRows t (y :: predictors)
      let _ ← found ((List.range (predictors.length + 1)).mapM (columnOf rows))
      plain (Statistics.olsOf predictors rows)

/-- What a statistical test finds in a table. A t-test reads nothing by position. -/
def testTable [Library] (t : Table) : Test → Reading TestFault TestResult
  | .ttest value group => plain (Statistics.ttest t value group)
  | .correlation x y => correlation t x y
  | .ols y x controls => ols t y (x ++ controls)

variable {t : Table}

private theorem meets_rowNumbers {row : Nat} {names : List String} {columns : List (List Cell)}
    (h : ∀ cells ∈ columns, row < cells.length) :
    Meets (rowNumbers row (names.zip columns))
      (Statistics.rowNumbers (names.zip (columns.map fun cells => cells[row]?.getD .null))) := by
  induction names generalizing columns with
  | nil => exact Meets.pure (some [])
  | cons name names ih =>
    cases columns with
    | nil => exact Meets.pure (some [])
    | cons cells columns =>
      rw [List.zip_cons_cons, List.map_cons, List.zip_cons_cons, rowNumbers, Statistics.rowNumbers]
      refine Meets.found_bind (getElem?_eq_some_getD (h cells List.mem_cons_self) Cell.null) ?_
      refine (Meets.plain _).bind fun x _ => ?_
      cases x with
      | none => exact Meets.pure none
      | some x =>
        exact (ih fun other hother => h other (List.mem_cons_of_mem _ hother)).bind
          fun rest _ => Meets.pure (rest.map (x :: ·))

theorem meets_completeRows (ht : t.WellFormed) (names : List String) :
    Meets (completeRows t names) (Statistics.completeRows t names) := by
  refine (Meets.plain _).bind fun columns hcolumns => ?_
  have hlength := Statistics.length_of_cells ht hcolumns
  rw [Statistics.rowsOf_eq hlength, List.mapM_map]
  refine Meets.bind (Meets.mapM fun row hrow => ?_) fun rows _ => Meets.pure (rows.filterMap id)
  exact meets_rowNumbers fun cells hcells => by
    rw [hlength cells hcells]
    exact List.mem_range.mp hrow

theorem columnOf_eq {rows : List (List Float)} {i n : Nat} (h : ∀ row ∈ rows, row.length = n)
    (hi : i < n) : columnOf rows i = some (Statistics.columnOf rows i) :=
  mapM_eq_some_map fun row hrow => getElem?_eq_some_getD (by rw [h row hrow]; exact hi) _

private theorem meets_correlation [Library] (ht : t.WellFormed) (x y : String) :
    Meets (correlation t x y) (Statistics.correlation t x y) := by
  refine (meets_completeRows ht [x, y]).bind fun rows hrows => ?_
  have hlength := Statistics.length_of_mem_completeRows ht hrows
  refine Meets.found_bind (columnOf_eq hlength (by simp)) ?_
  exact Meets.found_bind (columnOf_eq hlength (by simp)) (Meets.plain _)

private theorem meets_ols [Library] (ht : t.WellFormed) (y : String) (predictors : List String) :
    Meets (ols t y predictors) (Statistics.ols t y predictors) := by
  rw [ols, Statistics.ols]
  split
  · exact Meets.plain _
  · cases Statistics.badPredictor? y [] predictors with
    | some p => exact Meets.plain _
    | none =>
      refine (meets_completeRows ht (y :: predictors)).bind fun rows hrows => ?_
      have hlength := Statistics.length_of_mem_completeRows ht hrows
      have hcolumns : ∀ i ∈ List.range (predictors.length + 1),
          columnOf rows i = some (Statistics.columnOf rows i) := fun i hi =>
        columnOf_eq hlength (List.mem_range.mp hi)
      exact Meets.found_bind (mapM_eq_some_map hcolumns) (Meets.plain _)

theorem meets_testTable [Library] (ht : t.WellFormed) (test : Test) :
    Meets (testTable t test) (test.run t) := by
  cases test with
  | ttest value group => exact Meets.plain _
  | correlation x y => exact meets_correlation ht x y
  | ols y x controls => exact meets_ols ht y (x ++ controls)

end Strict
end RollCall
