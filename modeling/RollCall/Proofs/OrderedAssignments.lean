import RollCall.Proofs.EditedTables
import RollCall.Proofs.PlacedColumns
import RollCall.Proofs.SelectedGroups
import RollCall.Proofs.WrittenExpressions

/-!
# Assignments in order

Assignments put columns into a table one after the other, each computed from the table so far, and
leave every other column as it is. As the cells are computed row by row, a filter that mentions no
assigned column may come before the assignments or after.
-/
namespace RollCall

variable {s t u : Table} {name : String} {names typed : List String} {rows : List Nat}

/-- The column, with new cells if its name is one of `names`. -/
def Column.overwrite (names : List String) (cells : String → List Cell) (d : Column) : Column :=
  if d.name ∈ names then .ofCells d.name (cells d.name) else d

@[simp] theorem Column.name_overwrite (names : List String) (cells : String → List Cell)
    (d : Column) : (d.overwrite names cells).name = d.name := by
  rw [Column.overwrite]
  split <;> rfl

namespace Table

/-- The table with columns of the given cells under some names. Those that are there are replaced in
place, and the others follow in the order of the names. -/
def overwrite (t : Table) (names : List String) (cells : String → List Cell) : Table :=
  ⟨t.columns.map (Column.overwrite names cells) ++
    (names.filter fun name => name ∉ t.names).map fun name => .ofCells name (cells name),
    t.rowCount⟩

variable {cells : String → List Cell}

private theorem overwrite_nil : t.overwrite [] cells = t := by
  have hsame : Column.overwrite [] cells = id := by
    funext d
    simp [Column.overwrite]
  simp [overwrite, hsame]

/-- A column that is put in before others is the first of those that are put in. -/
theorem overwrite_place (hnodup : t.names.Nodup) (hname : name ∉ names) (x : List Cell) :
    (Table.mk (place (.ofCells name x) t.columns) t.rowCount).overwrite names cells =
      t.overwrite (name :: names) (Function.update cells name x) := by
  have hne : ∀ n ∈ names, n ≠ name := fun n hn => ne_of_mem_of_not_mem hn hname
  have hnames : names.filter (fun n => n ∉
      (Table.mk (place (.ofCells name x) t.columns) t.rowCount).names) =
        names.filter fun n => n ∉ t.names := by
    refine List.filter_congr fun n hn => decide_eq_decide.mpr (not_congr ?_)
    exact mem_names_place.trans (or_iff_right (hne n hn))
  have hnew : (names.filter fun n => n ∉ t.names).map (fun n => Column.ofCells n (cells n)) =
      (names.filter fun n => n ∉ t.names).map
        fun n => .ofCells n (Function.update cells name x n) := by
    refine List.map_congr_left fun n hn => ?_
    rw [Function.update_of_ne (hne n (List.mem_filter.mp hn).1)]
  have hkeep : ∀ d : Column, d.name ≠ name →
      d.overwrite names cells = d.overwrite (name :: names) (Function.update cells name x) := by
    intro d hd
    simp only [Column.overwrite, List.mem_cons, hd, false_or, Function.update_of_ne hd]
  have hput : ∀ d : Column, d.name = name →
      d.overwrite (name :: names) (Function.update cells name x) = .ofCells name x := by
    rintro d rfl
    simp [Column.overwrite]
  have hplaced : (Column.ofCells name x).overwrite names cells = .ofCells name x := if_neg hname
  rw [overwrite, overwrite, hnames, hnew, Table.mk.injEq]
  refine ⟨?_, rfl⟩
  -- The column takes the place of an old one, or is the first of the new ones.
  by_cases hmem : name ∈ t.names
  · have hplace : place (.ofCells name x) t.columns =
        t.columns.map fun d => if d.name = name then .ofCells name x else d :=
      place_of_mem hnodup hmem
    rw [List.filter_cons_of_neg (by simp [hmem]), hplace, List.map_map]
    congr 1
    refine List.map_congr_left fun d _ => ?_
    by_cases hd : d.name = name
    · simp [hd, hplaced, hput d hd]
    · simp [hd, hkeep d hd]
  · have hplace : place (.ofCells name x) t.columns = t.columns ++ [.ofCells name x] :=
      place_of_notMem hmem
    rw [List.filter_cons_of_pos (by simp [hmem]), hplace, List.map_append, List.map_singleton,
      hplaced, List.map_cons, Function.update_self, List.append_assoc, List.singleton_append]
    congr 1
    refine List.map_congr_left fun d hd => hkeep d ?_
    rintro rfl
    exact hmem (List.mem_map_of_mem hd)

private theorem column?_overwrite (hname : name ∉ names) :
    (t.overwrite names cells).column? name = t.column? name := by
  have hkept : (t.columns.map (Column.overwrite names cells)).find? (fun d => d.name = name) =
      t.column? name := by
    have hsame : (fun d : Column => decide (d.name = name)) ∘ Column.overwrite names cells =
        fun d => decide (d.name = name) := by
      funext d
      simp
    rw [List.find?_map, hsame, column?]
    cases hfind : t.columns.find? fun d => d.name = name with
    | none => rfl
    | some d =>
      have hd : d.name = name := by simpa using List.find?_some hfind
      rw [Option.map_some, Column.overwrite, if_neg (hd ▸ hname)]
  have hnew : ((names.filter fun n => n ∉ t.names).map fun n => Column.ofCells n (cells n)).find?
      (fun d => d.name = name) = none := by
    rw [List.find?_eq_none]
    intro d hd
    obtain ⟨n, hn, rfl⟩ := List.mem_map.mp hd
    have hne : n ≠ name := ne_of_mem_of_not_mem (List.mem_filter.mp hn).1 hname
    simp [Column.ofCells, hne]
  rw [column?, overwrite, List.find?_append, hkept, hnew, Option.or_none]

end Table

/-- A filter that mentions no overwritten column keeps the rows that it keeps without the new
cells. -/
theorem Condition.filter_overwrite [Library] {cells : String → List Cell}
    (hwell : (t.overwrite names cells).WellFormed) {condition : Condition}
    (hclauses : ∀ clause ∈ condition.clauses, clause.column ∉ names) :
    condition.filter (t.overwrite names cells) =
      (condition.check t.names).map fun _ => (t.overwrite names cells).takeRows
        ((List.range t.rowCount).filter fun row => condition.holds (t.cellAt row)) := by
  have hcolumn : ∀ clause ∈ condition.clauses,
      (t.overwrite names cells).column? clause.column = t.column? clause.column :=
    fun clause hclause => Table.column?_overwrite (hclauses clause hclause)
  have hcheck : condition.check (t.overwrite names cells).names = condition.check t.names := by
    refine check_eq_of_names fun clause hclause => ?_
    rw [← Table.column?_isSome_iff, ← Table.column?_isSome_iff, hcolumn clause hclause]
  have hholds : ∀ row, condition.holds ((t.overwrite names cells).cellAt row) =
      condition.holds (t.cellAt row) := by
    intro row
    refine holds_eq_of_keys fun clause hclause => congrArg Cell.key ?_
    simp only [Table.cellAt, Table.cell?, hcolumn clause hclause]
  rw [filter_eq hwell, hcheck]
  simp only [hholds]
  rfl

/-- What is seen of a column. -/
def Column.shown (typed : List String) (c : Column) : String × Option ColumnKind × List Cell :=
  (c.name, if c.name ∈ typed then some c.kind else none, c.cells)

private theorem Table.shown_eq (typed : List String) (t : Table) :
    t.shown typed = (t.columns.map (Column.shown typed), t.rowCount) := rfl

private theorem Table.cells_of_shown (h : s.shown typed = t.shown typed) (name : String) :
    (s.column? name).map Column.cells = (t.column? name).map Column.cells := by
  have hfind : ∀ u : Table, (u.column? name).map Column.cells =
      ((u.shown typed).1.find? fun entry => entry.1 = name).map fun entry => entry.2.2 := by
    intro u
    rw [shown_eq, List.find?_map, Option.map_map]
    rfl
  rw [hfind, hfind, h]

/-- An expression sees the names and the cells of a table only. -/
theorem Expression.evalColumn_eq_of_shown (h : s.shown typed = t.shown typed) (e : Expression) :
    e.evalColumn s = e.evalColumn t := by
  have hrows : s.rowCount = t.rowCount := congrArg Prod.snd h
  induction e using inductionOn with
  | column name =>
    have hcells := Table.cells_of_shown h name
    rw [evalColumn, evalColumn]
    cases hs : s.column? name with
    | none =>
      rw [hs, Option.map_none, eq_comm, Option.map_eq_none_iff] at hcells
      rw [hcells]
    | some c =>
      rw [hs, Option.map_some, eq_comm, Option.map_eq_some_iff] at hcells
      obtain ⟨d, hd, hcells⟩ := hcells
      simp only [hd, hcells]
  | const c => rw [evalColumn, evalColumn, hrows]
  | apply op operands ih => rw [evalColumn_apply, evalColumn_apply, Outcome.mapM_congr ih, hrows]

namespace Operation

variable {node : Json} {assignments : List (String × Json)}

/-- The table after assignments, carried out in their order. -/
def assignEach (t : Table) (assignments : List (String × Json)) : Except Failure Table :=
  assignments.foldlM (fun t (name, node) => assign t name node) t

/-- Each name has the cells that its expression has row by row in the table that the assignments
before it make. -/
def Computes (t : Table) (assignments : List (String × Json)) (cells : String → List Cell) : Prop :=
  ∀ before name node after, assignments = before ++ (name, node) :: after →
    ∃ v e, assignEach t before = .ok v ∧ Expression.ofJson node = .ok e ∧
      (cells name).length = t.rowCount ∧
      ∀ row < t.rowCount, e.evalRow v row = .ok ((cells name)[row]?.getD .null)

theorem assign_eq_ok_iff (ht : t.WellFormed) :
    assign t name node = .ok u ↔ ∃ e cells, Expression.ofJson node = .ok e ∧
      e.evalColumn t = .ok cells ∧
      u = ⟨Table.place (.ofCells name cells) t.columns, t.rowCount⟩ := by
  simp only [assign, place, Outcome.bind_eq_ok, Outcome.mapError_eq_ok, Table.withColumn_eq_ok_iff]
  constructor
  · rintro ⟨e, hread, cells, hcells, -, rfl⟩
    have hlength : (Column.ofCells name cells).length = t.rowCount :=
      Expression.length_evalColumn ht hcells
    exact ⟨e, cells, hread, hcells, by rw [hlength]⟩
  · rintro ⟨e, cells, hread, hcells, rfl⟩
    have hlength : (Column.ofCells name cells).length = t.rowCount :=
      Expression.length_evalColumn ht hcells
    exact ⟨e, hread, cells, hcells, .inl hlength, by rw [hlength]⟩

theorem assign_wellFormed (ht : t.WellFormed) (h : assign t name node = .ok u) : u.WellFormed :=
  (Table.Edited.refl.assign h).wellFormed ht

private theorem assignEach_wellFormed (ht : t.WellFormed) (h : assignEach t assignments = .ok u) :
    u.WellFormed :=
  Outcome.foldlM_keeps (fun _ _ _ _ hassign hv => assign_wellFormed hv hassign) h ht

theorem assignEach_cons : assignEach t ((name, node) :: assignments) =
    assign t name node >>= fun u => assignEach u assignments :=
  List.foldlM_cons

/-- Assignments overwrite the columns that they name with cells computed in their order. -/
theorem exists_overwrite (ht : t.WellFormed) (hnodup : (assignments.map Prod.fst).Nodup)
    (h : assignEach t assignments = .ok u) :
    ∃ cells, u = t.overwrite (assignments.map Prod.fst) cells ∧ Computes t assignments cells := by
  induction assignments generalizing t with
  | nil =>
    cases h
    exact ⟨fun _ => [], Table.overwrite_nil.symm, fun before _ _ _ hsplit => by simp at hsplit⟩
  | cons assignment assignments ih =>
    obtain ⟨name, node⟩ := assignment
    rw [assignEach_cons, Outcome.bind_eq_ok] at h
    obtain ⟨v, hv, hrest⟩ := h
    obtain ⟨hname, hnodup⟩ := List.nodup_cons.mp hnodup
    obtain ⟨e, x, hread, hx, rfl⟩ := (assign_eq_ok_iff ht).mp hv
    obtain ⟨cells, rfl, hcells⟩ := ih (assign_wellFormed ht hv) hnodup hrest
    refine ⟨Function.update cells name x, Table.overwrite_place ht.nodup hname x, ?_⟩
    -- Nothing is assigned twice, so the later assignments leave the cells of the first.
    intro before other otherNode after hsplit
    cases before with
    | nil =>
      cases hsplit
      refine ⟨t, e, rfl, hread, ?_, fun row hrow => ?_⟩
      · rw [Function.update_self, Expression.length_evalColumn ht hx]
      · rw [Function.update_self]
        exact Expression.evalRow_of_evalColumn ht hx hrow
    | cons first before =>
      cases hsplit
      have hother : other ≠ name := by
        rintro rfl
        simp at hname
      obtain ⟨v, e, hbefore, hread, hlength, hrows⟩ := hcells before other otherNode after rfl
      refine ⟨v, e, ?_, hread, ?_, ?_⟩
      · rw [assignEach_cons, hv]
        exact hbefore
      · rwa [Function.update_of_ne hother]
      · rwa [Function.update_of_ne hother]

/-- An assignment to selected rows shows the selected rows of what it makes of all. -/
theorem assign_takeRows (ht : t.WellFormed) (hs : s.WellFormed)
    (hrows : ∀ row ∈ rows, row < t.rowCount)
    (hshown : s.shown typed = (t.takeRows rows).shown typed)
    (hname : name ∉ typed) (h : assign t name node = .ok u) :
    ∃ v, assign s name node = .ok v ∧ v.shown typed = (u.takeRows rows).shown typed := by
  obtain ⟨e, cells, hread, hcells, rfl⟩ := (assign_eq_ok_iff ht).mp h
  have hselected : e.evalColumn s = .ok (selectCells rows cells) :=
    (e.evalColumn_eq_of_shown hshown).trans (Expression.evalColumn_takeRows hrows hcells)
  refine ⟨_, (assign_eq_ok_iff hs).mpr ⟨e, _, hread, hselected, rfl⟩, ?_⟩
  have hselect : (Table.place (.ofCells name cells) t.columns).map (Aggregation.selectColumn rows) =
      Table.place (Aggregation.selectColumn rows (.ofCells name cells)) (t.takeRows rows).columns :=
    Table.map_place fun _ => rfl
  have hcolumn : Column.shown typed (.ofCells name (selectCells rows cells)) =
      Column.shown typed (Aggregation.selectColumn rows (.ofCells name cells)) := by
    simp [Column.shown, Aggregation.selectColumn, Column.ofCells, hname,
      Column.pick_eq_selectCells]
  have hplace : (Table.place (.ofCells name (selectCells rows cells)) s.columns).map
        (Column.shown typed) =
      ((Table.place (.ofCells name cells) t.columns).map (Aggregation.selectColumn rows)).map
        (Column.shown typed) := by
    rw [hselect]
    exact Table.map_place_eq (fun a b hab => (Prod.mk.inj hab).1) (Prod.mk.inj hshown).1 hcolumn
  exact Prod.ext hplace (Prod.mk.inj hshown).2

/-- Assignments to selected rows show the selected rows of what they make of all. -/
theorem assignEach_takeRows (ht : t.WellFormed) (hs : s.WellFormed)
    (hrows : ∀ row ∈ rows, row < t.rowCount)
    (hshown : s.shown typed = (t.takeRows rows).shown typed)
    (hnames : ∀ name ∈ assignments.map Prod.fst, name ∉ typed)
    (h : assignEach t assignments = .ok u) :
    ∃ v, assignEach s assignments = .ok v ∧ v.shown typed = (u.takeRows rows).shown typed := by
  induction assignments generalizing s t with
  | nil =>
    cases h
    exact ⟨s, rfl, hshown⟩
  | cons assignment assignments ih =>
    obtain ⟨name, node⟩ := assignment
    rw [assignEach_cons, Outcome.bind_eq_ok] at h
    obtain ⟨u, hu, hrest⟩ := h
    obtain ⟨hname, hnames⟩ := List.forall_mem_cons.mp hnames
    obtain ⟨v, hv, hshown'⟩ := assign_takeRows ht hs hrows hshown hname hu
    have hcount : u.rowCount = t.rowCount := by
      obtain ⟨_, _, -, -, rfl⟩ := (assign_eq_ok_iff ht).mp hu
      rfl
    rw [assignEach_cons, hv]
    exact ih (assign_wellFormed ht hu) (assign_wellFormed hs hv) (hcount ▸ hrows) hshown' hnames
      hrest

private theorem runMutate_eq_ok_iff {c : Context} (hinput : c.input = .ok t) :
    runMutate c assignments = .ok u ↔ assignments ≠ [] ∧ assignEach t assignments = .ok u := by
  rw [runMutate, hinput]
  split
  · next hempty => simp [List.isEmpty_iff.mp hempty]
  · next hempty => exact (and_iff_right (mt List.isEmpty_iff.mpr hempty)).symm

/-- Assignments overwrite columns in their order, each with cells computed row by row in the table
so far, and a filter that mentions none of the columns may come before them or after. Only the types
of the columns that are assigned may tell. -/
theorem assigns_in_order [Library] {c : Context} (hinput : c.input = .ok t) (ht : t.WellFormed)
    (hnodup : (assignments.map Prod.fst).Nodup) (h : runMutate c assignments = .ok u) :
    (∃ cells, u = t.overwrite (assignments.map Prod.fst) cells ∧
      Computes t assignments cells) ∧
    ∀ (condition : Condition) (mask : List Bool), condition.mask t = .ok mask →
      (∀ clause ∈ condition.clauses, clause.column ∉ assignments.map Prod.fst) →
      ∃ s v w, condition.filter t = .ok s ∧ condition.filter u = .ok v ∧
        runMutate { c with inputs := [s] } assignments = .ok w ∧
        v.shown (t.names.filter fun name => name ∉ assignments.map Prod.fst) =
          w.shown (t.names.filter fun name => name ∉ assignments.map Prod.fst) := by
  obtain ⟨hne, heach⟩ := (runMutate_eq_ok_iff hinput).mp h
  have hwell := assignEach_wellFormed ht heach
  obtain ⟨cells, rfl, hcells⟩ := exists_overwrite ht hnodup heach
  refine ⟨⟨cells, rfl, hcells⟩, fun condition mask hmask hclauses => ?_⟩
  have hcheck := Condition.check_of_mask ht hmask
  let kept := (List.range t.rowCount).filter fun row => condition.holds (t.cellAt row)
  have hkept : ∀ row ∈ kept, row < t.rowCount := fun row hrow =>
    List.mem_range.mp (List.mem_filter.mp hrow).1
  have htyped : ∀ name ∈ assignments.map Prod.fst,
      name ∉ t.names.filter fun name => name ∉ assignments.map Prod.fst :=
    fun name hname hmem => of_decide_eq_true (List.mem_filter.mp hmem).2 hname
  obtain ⟨w, hw, hshown⟩ :=
    assignEach_takeRows ht (ht.takeRows kept) hkept rfl htyped heach
  refine ⟨t.takeRows kept, _, w, ?_, ?_, (runMutate_eq_ok_iff rfl).mpr ⟨hne, hw⟩, hshown.symm⟩
  · rw [Condition.filter_eq ht, hcheck]
    rfl
  · rw [Condition.filter_overwrite hwell hclauses, hcheck]
    rfl

/-- Two divisions, and a third without a count of the ayes. -/
def counts : Table :=
  ⟨[⟨"ayes", .numeric, [.int 3, .int 1, .null]⟩, ⟨"noes", .numeric, [.int 1, .int 4, .int 2]⟩], 3⟩

def marginNode : Json :=
  .obj [("op", .str "sub"), ("args", .arr [.obj [("var", .str "ayes")],
    .obj [("var", .str "noes")]])]

def raisedNode : Json :=
  .obj [("op", .str "add"), ("args", .arr [.obj [("var", .str "ayes")],
    .obj [("var", .str "margin")]])]

def raisedAyes : Expression := .apply .add [.column "ayes", .column "margin"]

def raisedCounts : Table :=
  ⟨[⟨"ayes", .numeric, [.int 5, .int (-2), .null]⟩, ⟨"noes", .numeric, [.int 1, .int 4, .int 2]⟩,
    ⟨"margin", .numeric, [.int 2, .int (-3), .null]⟩], 3⟩

/-- The ayes are computed from the old ones and from the margin that was put in before. -/
theorem assigns_in_order_sample :
    let c : Context :=
      ⟨"raised", [counts], {}, { source := fun _ d => .error (.fetch ⟨d, .unreachable⟩) }⟩
    let assignments := [("margin", marginNode), ("ayes", raisedNode)]
    runMutate c assignments = .ok raisedCounts ∧
    (∃ v, assignEach counts [("margin", marginNode)] = .ok v ∧
      raisedAyes.evalRow v 1 = .ok (.int (-2))) ∧
    ∃ s v w, (Condition.clause ⟨"noes", .ge, .int 2⟩).filter counts = .ok s ∧
      (Condition.clause ⟨"noes", .ge, .int 2⟩).filter raisedCounts = .ok v ∧
      runMutate { c with inputs := [s] } assignments = .ok w ∧
      v.shown ["noes"] = w.shown ["noes"] := by
  intro c assignments
  have hnodes : ∀ other, [.obj [("var", .str "ayes")], .obj [("var", .str other)]].mapM
      Expression.ofJson = .ok [.column "ayes", .column other] := by
    intro other
    simp only [List.mapM_cons, List.mapM_nil, Expression.ofJson_column]
    rfl
  have hmargin : Expression.ofJson marginNode =
      .ok (.apply .sub [.column "ayes", .column "noes"]) :=
    Expression.ofJson_apply (Operator.ofWord_of_asciiLower (by decide +kernel)) (.refl _)
      (hnodes "noes") rfl
  have hraised : Expression.ofJson raisedNode = .ok raisedAyes :=
    Expression.ofJson_apply (Operator.ofWord_of_asciiLower (by decide +kernel)) (.refl _)
      (hnodes "margin") le_rfl
  have hrun : runMutate c assignments = .ok raisedCounts := by
    simp only [runMutate, assignments, List.isEmpty_cons, List.foldlM_cons, List.foldlM_nil, assign,
      hmargin, hraised]
    rfl
  obtain ⟨⟨cells, hcounts, hcells⟩, hfilter⟩ :=
    assigns_in_order (c := c) rfl ⟨by decide, by decide⟩ (by decide) hrun
  have hayes : some [.int 5, .int (-2), .null] = some (cells "ayes") :=
    congrArg (fun t : Table => (t.column? "ayes").map Column.cells) hcounts
  obtain ⟨v, e, hv, hread, -, hrows⟩ := hcells [("margin", marginNode)] "ayes" raisedNode [] rfl
  cases hraised.symm.trans hread
  refine ⟨hrun, ⟨v, hv, ?_⟩, hfilter _ [false, true, true] rfl (by decide)⟩
  rw [hrows 1 (by decide), ← Option.some.inj hayes]
  rfl

end Operation

end RollCall
