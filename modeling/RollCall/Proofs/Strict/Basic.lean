import RollCall.Proofs.Lengths
import RollCall.Proofs.Rows

/-!
# Reading by position

The operations of the library read cells by position and take a missing cell for one that is not
there. A `Reading` is stricter: it has no outcome at all once it reads outside a list. `Meets` says
that a reading stays inside its lists and has the same outcome as the total computation beside it.
This module holds the strict forms of row selection and of expressions, each under the name of the
total one.
-/
namespace RollCall.Strict

variable {ε ε' α β γ : Type}

/-- A computation that may fail, and that is stuck without an outcome once it reads outside a
list. -/
abbrev Reading (ε α : Type) := ExceptT ε Option α

/-- The reading is never stuck, and its outcome is the given one. -/
def Meets (x : Reading ε α) (r : Except ε α) : Prop :=
  x.run = some r

/-- A computation that reads nothing by position. -/
def plain (r : Except ε α) : Reading ε α :=
  ExceptT.mk (some r)

def found (x : Option α) : Reading ε α :=
  ExceptT.lift x

def readAll (xs : List α) (positions : List Nat) : Option (List α) :=
  positions.mapM (xs[·]?)

theorem mapM_eq_some_map {f : α → Option β} {g : α → β} {xs : List α}
    (h : ∀ x ∈ xs, f x = some (g x)) : xs.mapM f = some (xs.map g) := by
  induction xs with
  | nil => rfl
  | cons x xs ih =>
    rw [List.mapM_cons, h x List.mem_cons_self, ih fun y hy => h y (List.mem_cons_of_mem _ hy)]
    rfl

theorem getElem?_eq_some_getD {xs : List α} {i : Nat} (h : i < xs.length) (d : α) :
    xs[i]? = some (xs[i]?.getD d) := by
  rw [List.getElem?_eq_getElem h]
  rfl

theorem readAll_eq {xs : List α} {positions : List Nat} (d : α)
    (h : ∀ i ∈ positions, i < xs.length) :
    readAll xs positions = some (positions.map fun i => xs[i]?.getD d) :=
  mapM_eq_some_map fun i hi => getElem?_eq_some_getD (h i hi) d

namespace Meets

variable {x : Reading ε α} {r : Except ε α}

theorem plain (r : Except ε α) : Meets (Strict.plain r) r := rfl

theorem pure (a : α) : Meets (Pure.pure a : Reading ε α) (Pure.pure a) := rfl

theorem bind {f : α → Reading ε β} {g : α → Except ε β} (hx : Meets x r)
    (hf : ∀ a, r = .ok a → Meets (f a) (g a)) : Meets (x >>= f) (r >>= g) := by
  unfold Meets at hx ⊢
  rw [ExceptT.run_bind, hx]
  cases r with
  | error e => rfl
  | ok a => exact hf a rfl

/-- A reading inside its list goes on with what it has read. -/
theorem found_bind {o : Option α} {a : α} {f : α → Reading ε β} {r : Except ε β}
    (ho : o = some a) (hf : Meets (f a) r) : Meets (found o >>= f) r := by
  subst ho
  exact hf

theorem map {f : α → β} (hx : Meets x r) : Meets (f <$> x) (r.map f) := by
  unfold Meets at hx ⊢
  rw [ExceptT.run_map, hx]
  rfl

theorem adapt {f : ε → ε'} (hx : Meets x r) : Meets (x.adapt f) (r.mapError f) := by
  unfold Meets at hx ⊢
  rw [ExceptT.run_adapt, hx]
  rfl

theorem mapM {f : α → Reading ε β} {g : α → Except ε β} {xs : List α}
    (h : ∀ x ∈ xs, Meets (f x) (g x)) : Meets (xs.mapM f) (xs.mapM g) := by
  induction xs with
  | nil => exact pure []
  | cons x xs ih =>
    rw [List.mapM_cons, List.mapM_cons]
    refine (h x List.mem_cons_self).bind fun b _ => ?_
    exact (ih fun y hy => h y (List.mem_cons_of_mem _ hy)).bind fun bs _ => pure (b :: bs)

/-- A loop is never stuck if no step is where the invariant holds, and every step keeps it. -/
theorem foldlM {P : β → Prop} {f : β → α → Reading ε β} {g : β → α → Except ε β} {xs : List α}
    {b : β} (hstep : ∀ x ∈ xs, ∀ c, P c → Meets (f c x) (g c x))
    (hkeep : ∀ x ∈ xs, ∀ c c', g c x = .ok c' → P c → P c') (hb : P b) :
    Meets (xs.foldlM f b) (xs.foldlM g b) := by
  induction xs generalizing b with
  | nil => exact pure b
  | cons x xs ih =>
    rw [List.foldlM_cons, List.foldlM_cons]
    refine (hstep x List.mem_cons_self b hb).bind fun c hc => ?_
    exact ih (fun y hy => hstep y (List.mem_cons_of_mem _ hy))
      (fun y hy => hkeep y (List.mem_cons_of_mem _ hy)) (hkeep x List.mem_cons_self b c hc hb)

end Meets

/-! ## Selecting rows -/

def takeRows (t : Table) (rows : List Nat) : Option Table := do
  let columns ← t.columns.mapM fun c => return { c with cells := ← readAll c.cells rows }
  return ⟨columns, rows.length⟩

def filterMask (t : Table) (mask : List Bool) : Option Table :=
  takeRows t (Table.setPositions mask)

private theorem takeRows_eq {t : Table} (ht : t.WellFormed) {rows : List Nat}
    (h : ∀ i ∈ rows, i < t.rowCount) : takeRows t rows = some (t.takeRows rows) := by
  have hcolumns : ∀ c ∈ t.columns,
      (do return { c with cells := ← readAll c.cells rows } : Option Column) =
        some { c with cells := c.pick rows } := by
    intro c hc
    have hlength : c.cells.length = t.rowCount := ht.length_eq c hc
    rw [readAll_eq .null fun i hi => hlength ▸ h i hi, Column.pick_eq]
    rfl
  rw [takeRows, mapM_eq_some_map hcolumns]
  rfl

private theorem lt_of_mem_setPositions {mask : List Bool} {i : Nat}
    (h : i ∈ Table.setPositions mask) :
    i < mask.length := by
  obtain ⟨⟨b, j⟩, hmem, rfl⟩ := List.mem_map.mp h
  simpa using List.snd_lt_of_mem_zipIdx (List.mem_filter.mp hmem).1

theorem filterMask_eq {t : Table} (ht : t.WellFormed) (mask : List Bool)
    (h : mask.length = t.rowCount) : filterMask t mask = some (t.filterMask mask) :=
  takeRows_eq ht fun _ hi => h ▸ lt_of_mem_setPositions hi

/-! ## Operators and expressions -/

/-- The result of an arithmetic operator, whose operands are read by position. The other operators
have none. -/
def compute (op : Operator) (numbers : List Number) : Option Number :=
  match op with
  | .add => do return (numbers.drop 1).foldl Number.add (← numbers[0]?)
  | .mul => do return (numbers.drop 1).foldl Number.mul (← numbers[0]?)
  | .sub => do return (← numbers[0]?).sub (← numbers[1]?)
  | .div => do return (← numbers[0]?).div (← numbers[1]?)
  | .pow => do return (← numbers[0]?).pow (← numbers[1]?)
  | .neg => numbers[0]?.map Number.neg
  | .abs => numbers[0]?.map Number.abs
  | _ => none

def applyOperator (op : Operator) (operands : List Cell) : Reading ExpressionFault Cell :=
  if !op.allows operands.length then plain (.error (.wrongCount op operands.length))
  else
    match op with
    | .and | .or | .min | .max => plain (op.apply operands)
    | op => do
      match (← plain (operands.mapM op.number?)).mapM id with
      | none => return .null
      | some numbers => return (← found (compute op numbers)).toCell

def applyRows (op : Operator) (rows : Nat) (columns : List (List Cell)) :
    Reading ExpressionFault (List Cell) :=
  (List.range rows).mapM fun i => do
    applyOperator op (← found (columns.mapM (·[i]?)))

mutual

def evalColumn (t : Table) : Expression → Reading ExpressionFault (List Cell)
  | .column name =>
    match t.column? name with
    | some c => return c.cells
    | none => plain (.error (.unknownColumn name))
  | .const c => return List.replicate t.rowCount c
  | .apply op operands => do applyRows op t.rowCount (← evalColumnEach t operands)

def evalColumnEach (t : Table) : List Expression → Reading ExpressionFault (List (List Cell))
  | [] => return []
  | e :: es => return (← evalColumn t e) :: (← evalColumnEach t es)

end

/-- As many numbers as an arithmetic operator allows are enough to compute its result. -/
theorem exists_compute {op : Operator} {numbers : List Number}
    (hop : op ∉ [.and, .or, .min, .max]) (h : op.allows numbers.length) :
    ∃ n, compute op numbers = some n ∧ op.compute? numbers = some n := by
  cases op <;> rcases numbers with _ | ⟨a, _ | ⟨b, _ | ⟨c, rest⟩⟩⟩ <;>
    simp [compute, Operator.compute?, Operator.allows] at hop h ⊢

theorem length_of_numbers {op : Operator} {operands : List Cell} {cells : List (Option Number)}
    {numbers : List Number} (hcells : operands.mapM op.number? = .ok cells)
    (hnumbers : cells.mapM id = some numbers) : numbers.length = operands.length := by
  rw [← Outcome.length_eq_of_mapM hcells]
  clear hcells
  induction cells generalizing numbers with
  | nil => cases hnumbers; rfl
  | cons c cells ih =>
    simp only [List.mapM_cons, id_eq, Option.bind_eq_bind, Option.bind_eq_some_iff] at hnumbers
    obtain ⟨n, -, rest, hrest, hcons⟩ := hnumbers
    cases hcons
    simp [ih hrest]

private theorem meets_compute {op : Operator} {operands : List Cell}
    (hop : op ∉ [.and, .or, .min, .max]) (h : op.allows operands.length) :
    Meets
      (do
        match (← plain (operands.mapM op.number?)).mapM id with
        | none => return .null
        | some numbers => return (← found (compute op numbers)).toCell)
      (do
        match (← operands.mapM op.number?).mapM id with
        | none => return .null
        | some numbers =>
          match op.compute? numbers with
          | some n => return n.toCell
          | none => .error (.wrongCount op operands.length)) := by
  refine (Meets.plain _).bind fun cells hcells => ?_
  cases hnumbers : cells.mapM id with
  | none => exact Meets.pure Cell.null
  | some numbers =>
    have hlength := length_of_numbers hcells hnumbers
    obtain ⟨n, hread, htotal⟩ := exists_compute hop (hlength ▸ h)
    simp only [htotal]
    exact Meets.found_bind hread (Meets.pure n.toCell)

/-- No operator reads an operand that is not there. -/
theorem meets_applyOperator (op : Operator) (operands : List Cell) :
    Meets (applyOperator op operands) (op.apply operands) := by
  unfold applyOperator
  by_cases h : op.allows operands.length
  · cases op
    case and | or | min | max => simp only [h]; exact Meets.plain _
    all_goals
      simp only [h, Operator.apply]
      exact meets_compute (by decide) h
  · simp only [h, Operator.apply]
    exact Meets.plain _

/-- Every row that is read lies in every column. -/
theorem meets_applyRows {op : Operator} {rows : Nat} {columns : List (List Cell)}
    (h : ∀ cells ∈ columns, cells.length = rows) :
    Meets (applyRows op rows columns) (Expression.applyRows op rows columns) := by
  refine Meets.mapM fun i hi => ?_
  have hrow : columns.mapM (·[i]?) = some (columns.map fun cells => cells[i]?.getD .null) :=
    mapM_eq_some_map fun cells hcells =>
      getElem?_eq_some_getD (by rw [h cells hcells]; exact List.mem_range.mp hi) Cell.null
  refine Meets.found_bind hrow ?_
  simp only [List.map_map, Function.comp_def, List.getElem?_toArray]
  exact meets_applyOperator op _

mutual

theorem meets_evalColumn {t : Table} (ht : t.WellFormed) :
    ∀ e : Expression, Meets (evalColumn t e) (e.evalColumn t)
  | .column name => by
    rw [evalColumn, Expression.evalColumn]
    cases t.column? name with
    | some c => exact Meets.pure c.cells
    | none => exact Meets.plain _
  | .const c => by
    rw [evalColumn, Expression.evalColumn]
    exact Meets.pure _
  | .apply op operands => by
    rw [evalColumn, Expression.evalColumn]
    refine (meets_evalColumnEach ht operands).bind fun columns hcolumns => ?_
    exact meets_applyRows (Expression.length_evalColumnEach ht hcolumns)

theorem meets_evalColumnEach {t : Table} (ht : t.WellFormed) :
    ∀ es : List Expression, Meets (evalColumnEach t es) (Expression.evalColumnEach t es)
  | [] => by
    rw [evalColumnEach, Expression.evalColumnEach]
    exact Meets.pure []
  | e :: es => by
    rw [evalColumnEach, Expression.evalColumnEach]
    refine (meets_evalColumn ht e).bind fun cells _ => ?_
    exact (meets_evalColumnEach ht es).bind fun columns _ => Meets.pure (cells :: columns)

end

end RollCall.Strict
