import RollCall.Proofs.Lengths

/-!
# Conditions row by row

A condition is evaluated clause by clause, each for all rows of a table. Whether that fails is seen
from the names of the columns and the patterns alone, and where it does not, a row satisfies the
condition or not by its own cells. `mask_eq` states both at once.
-/
namespace RollCall

/-- The cell of a row in a column, a missing one in a column that is not there. -/
def Table.cellAt (t : Table) (row : Nat) (name : String) : Cell :=
  (t.cell? row name).getD .null

variable {t : Table}

/-- A column holds the cells of the rows in its name. -/
theorem Table.WellFormed.cells_eq (ht : t.WellFormed) {name : String} {c : Column}
    (h : t.column? name = some c) :
    c.cells = (List.range t.rowCount).map fun i => t.cellAt i name := by
  refine List.ext_getElem ?_ fun i hi _ => ?_
  · simp [ht.length_of_column? h]
  · simp [cellAt, cell?, h, hi]

namespace Clause

variable [Library]

def checkPattern (c : Clause) : Except ConditionFault Unit :=
  if c.comparison = .matching then
    match Library.compile (needle c.literal) with
    | .ok _ => .ok ()
    | .error reason => .error (.badPattern (needle c.literal) reason)
  else .ok ()

/-- Refuses a clause on a column that is not there, or with a pattern that cannot be read. -/
def check (names : List String) (c : Clause) : Except ConditionFault Unit :=
  if c.column ∉ names then .error (.unknownColumn c.column)
  else c.checkPattern

/-- Whether a cell satisfies a clause. None satisfies a pattern that cannot be read. -/
def holds (c : Clause) (x : Cell) : Bool :=
  match c.test? with
  | .ok test => test x
  | .error _ => false

private theorem test?_eq (c : Clause) : c.test? = c.checkPattern.map fun _ => c.holds := by
  cases hcomparison : c.comparison
  case matching =>
    cases hread : Library.compile (needle c.literal) <;>
      simp [checkPattern, holds, test?, hcomparison, hread, Except.map, funext_iff]
  all_goals simp [checkPattern, holds, test?, hcomparison, Except.map, funext_iff]

private theorem mask_eq (ht : t.WellFormed) (c : Clause) :
    c.mask t = (c.check t.names).map fun _ =>
      (List.range t.rowCount).map fun i => c.holds (t.cellAt i c.column) := by
  rw [Clause.mask, Clause.check]
  split
  · next hcolumn =>
    rw [if_pos (Table.column?_eq_none_iff.mp hcolumn)]
    rfl
  · next column hcolumn =>
    have hmem : c.column ∈ t.names := Table.column?_isSome_iff.mp (by simp [hcolumn])
    have hcells : column.cells.map c.holds =
        (List.range t.rowCount).map fun i => c.holds (t.cellAt i c.column) := by
      rw [ht.cells_eq hcolumn, List.map_map]
      rfl
    rw [if_neg (not_not.mpr hmem), test?_eq, ← hcells]
    cases c.checkPattern <;> rfl

end Clause

namespace Condition

/-- The induction over a condition and all conditions below it. -/
@[elab_as_elim]
theorem inductionOn {motive : Condition → Prop}
    (all : ∀ cs, (∀ c ∈ cs, motive c) → motive (.all cs))
    (any : ∀ cs, (∀ c ∈ cs, motive c) → motive (.any cs))
    (not : ∀ c, motive c → motive (.not c)) (clause : ∀ c, motive (.clause c))
    (c : Condition) : motive c :=
  @Condition.rec motive (fun cs => ∀ c ∈ cs, motive c) all any not clause
    (fun _ hc => absurd hc List.not_mem_nil)
    (fun _ _ hhead htail c hc => (List.mem_cons.mp hc).elim (fun h => h ▸ hhead) (htail c)) c

mutual

def clauses : Condition → List Clause
  | .all cs => clausesOf cs
  | .any cs => clausesOf cs
  | .not c => clauses c
  | .clause c => [c]

def clausesOf : List Condition → List Clause
  | [] => []
  | c :: cs => clauses c ++ clausesOf cs

end

theorem mem_clausesOf {cs : List Condition} {clause : Clause} :
    clause ∈ clausesOf cs ↔ ∃ c ∈ cs, clause ∈ c.clauses := by
  induction cs with
  | nil => simp [clausesOf]
  | cons c cs ih => simp [clausesOf, ih]

private theorem foldl_and (bs : List Bool) (b : Bool) : bs.foldl (· && ·) b = (b && bs.all id) := by
  induction bs generalizing b with
  | nil => simp
  | cons c bs ih => simp [ih, Bool.and_assoc]

private theorem foldl_or (bs : List Bool) (b : Bool) : bs.foldl (· || ·) b = (b || bs.any id) := by
  induction bs generalizing b with
  | nil => simp
  | cons c bs ih => simp [ih, Bool.or_assoc]

variable [Library]

def check (names : List String) (c : Condition) : Except ConditionFault Unit :=
  forM c.clauses (Clause.check names)

mutual

/-- Whether a row with the given cells satisfies a condition. -/
def holds (row : String → Cell) : Condition → Bool
  | .all cs => (holdsEach row cs).all id
  | .any cs => (holdsEach row cs).any id
  | .not c => !holds row c
  | .clause c => c.holds (row c.column)

def holdsEach (row : String → Cell) : List Condition → List Bool
  | [] => []
  | c :: cs => holds row c :: holdsEach row cs

end

/-- The condition is refused, or its mask says for each row whether the row satisfies it. -/
def Rowwise (t : Table) (c : Condition) : Prop :=
  c.mask t = (c.check t.names).map fun _ =>
    (List.range t.rowCount).map fun i => c.holds (t.cellAt i)

/-- The masks of conditions, joined one after the other to that of the rows so far. -/
def joinMasks (t : Table) (op : Bool → Bool → Bool) (rows : List Bool) (cs : List Condition) :
    Except ConditionFault (List Bool) :=
  cs.foldlM (fun rows c => return rows.zipWith op (← c.mask t)) rows

private theorem maskAll_eq (rows : List Bool) (cs : List Condition) :
    maskAll t rows cs = joinMasks t (· && ·) rows cs := by
  induction cs generalizing rows with
  | nil => rfl
  | cons c cs ih =>
    rw [maskAll, joinMasks, List.foldlM_cons]
    cases c.mask t with
    | error fault => rfl
    | ok mask => exact ih _

private theorem maskAny_eq (rows : List Bool) (cs : List Condition) :
    maskAny t rows cs = joinMasks t (· || ·) rows cs := by
  induction cs generalizing rows with
  | nil => rfl
  | cons c cs ih =>
    rw [maskAny, joinMasks, List.foldlM_cons]
    cases c.mask t with
    | error fault => rfl
    | ok mask => exact ih _

private theorem joinMasks_eq {cs : List Condition} (h : ∀ c ∈ cs, c.Rowwise t)
    (op : Bool → Bool → Bool) (p : Nat → Bool) :
    joinMasks t op ((List.range t.rowCount).map p) cs =
      (forM (clausesOf cs) (Clause.check t.names)).map fun _ =>
        (List.range t.rowCount).map fun i => (holdsEach (t.cellAt i) cs).foldl op (p i) := by
  induction cs generalizing p with
  | nil => rfl
  | cons c cs ih =>
    have hrest := ih (fun d hd => h d (List.mem_cons_of_mem _ hd))
      fun i => op (p i) (c.holds (t.cellAt i))
    rw [joinMasks, List.foldlM_cons, h c List.mem_cons_self, clausesOf, List.forM_append, check]
    cases forM c.clauses (Clause.check t.names) with
    | error fault => rfl
    | ok _ =>
      simpa [holdsEach, Except.map, bind, Except.bind, pure, Except.pure, List.zipWith_map,
        joinMasks] using hrest

theorem rowwise (ht : t.WellFormed) (c : Condition) : c.Rowwise t := by
  induction c using inductionOn with
  | all cs ih =>
    have hstart : List.replicate t.rowCount true = (List.range t.rowCount).map fun _ => true := by
      simp
    rw [Rowwise, mask, maskAll_eq, hstart, joinMasks_eq ih]
    simp [check, clauses, holds, foldl_and]
  | any cs ih =>
    have hstart : List.replicate t.rowCount false = (List.range t.rowCount).map fun _ => false := by
      simp
    rw [Rowwise, mask, maskAny_eq, hstart, joinMasks_eq ih]
    simp [check, clauses, holds, foldl_or]
  | not c ih =>
    rw [Rowwise, mask, ih, check, check, clauses]
    cases forM c.clauses (Clause.check t.names) with
    | error fault => rfl
    | ok _ => simp [Except.map, holds, bind, Except.bind, pure, Except.pure]
  | clause c =>
    rw [Rowwise, mask, c.mask_eq ht, check, clauses]
    simp [holds]

end Condition

end RollCall
