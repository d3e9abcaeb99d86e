import RollCall.Proofs.Lengths

/-!
# Column by column and row by row

An expression is evaluated for all rows of a table operand by operand, or for one row at a time.
Both orders give the same cells, and where the first one fails the second one fails alike in some
row. Only a table without rows sets them apart: it has no row in which an unknown column could be
missed, so the columns an expression mentions enter the statement.
-/
namespace RollCall.Expression

/-- The induction over an expression and all operands below it. -/
@[elab_as_elim]
theorem inductionOn {motive : Expression → Prop} (column : ∀ name, motive (.column name))
    (const : ∀ c, motive (.const c))
    (apply : ∀ op operands, (∀ e ∈ operands, motive e) → motive (.apply op operands))
    (e : Expression) : motive e :=
  @Expression.rec motive (fun es => ∀ e ∈ es, motive e) column const apply
    (fun _ he => absurd he List.not_mem_nil)
    (fun _ _ hhead htail e he => (List.mem_cons.mp he).elim (fun h => h ▸ hhead) (htail e)) e

variable {t : Table} {name : String}

theorem mem_addAllColumns {es : List Expression} {seen : List String}
    (h : ∀ e ∈ es, ∀ seen, name ∈ addColumns seen e ↔ name ∈ seen ∨ name ∈ e.columns) :
    name ∈ addAllColumns seen es ↔ name ∈ seen ∨ ∃ e ∈ es, name ∈ e.columns := by
  induction es generalizing seen with
  | nil => simp [addAllColumns]
  | cons e es ih =>
    rw [addAllColumns, ih fun d hd => h d (List.mem_cons_of_mem _ hd), h e List.mem_cons_self]
    simp only [List.exists_mem_cons_iff, or_assoc]

private theorem mem_addColumns (e : Expression) (seen : List String) :
    name ∈ addColumns seen e ↔ name ∈ seen ∨ name ∈ e.columns := by
  induction e using inductionOn generalizing seen with
  | column other =>
    rw [addColumns, columns, addColumns, if_neg List.not_mem_nil]
    split
    · next hseen =>
      constructor
      · exact .inl
      · rintro (h | h)
        · exact h
        · rw [List.nil_append, List.mem_singleton] at h
          exact h ▸ hseen
    · rw [List.mem_append, List.nil_append]
  | const c => simp [addColumns, columns]
  | apply op operands ih =>
    rw [columns, addColumns, addColumns, mem_addAllColumns ih, mem_addAllColumns ih]
    simp only [List.not_mem_nil, false_or]

@[simp] theorem columns_column : (column name).columns = [name] := by
  simp [columns, addColumns]

@[simp] theorem columns_const (c : Cell) : (const c).columns = [] := by
  simp [columns, addColumns]

@[simp] theorem mem_columns_apply {op : Operator} {operands : List Expression} :
    name ∈ (apply op operands).columns ↔ ∃ e ∈ operands, name ∈ e.columns := by
  rw [columns, addColumns, mem_addAllColumns fun e _ seen => mem_addColumns e seen]
  simp only [List.not_mem_nil, false_or]

private theorem evalRowEach_eq_mapM (t : Table) (row : Nat) (es : List Expression) :
    evalRowEach t row es = es.mapM (evalRow t row) := by
  induction es with
  | nil => rfl
  | cons e es ih => rw [evalRowEach, ih, List.mapM_cons]

private theorem evalColumnEach_eq_mapM (t : Table) (es : List Expression) :
    evalColumnEach t es = es.mapM (evalColumn t) := by
  induction es with
  | nil => rfl
  | cons e es ih => rw [evalColumnEach, ih, List.mapM_cons]

theorem applyRows_eq_mapM (op : Operator) (rows : Nat) (columns : List (List Cell)) :
    applyRows op rows columns =
      (List.range rows).mapM fun i => op.apply (columns.map fun cells => cells[i]?.getD .null) := by
  simp [applyRows, Function.comp_def]

private theorem evalRow_column {row : Nat} {c : Cell} (h : t.cell? row name = some c) :
    (column name).evalRow t row = .ok c := by
  rw [evalRow, h]

theorem evalRow_apply (t : Table) (row : Nat) (op : Operator) (operands : List Expression) :
    (apply op operands).evalRow t row = operands.mapM (evalRow t row) >>= op.apply := by
  rw [evalRow, evalRowEach_eq_mapM]

theorem evalColumn_apply (t : Table) (op : Operator) (operands : List Expression) :
    (apply op operands).evalColumn t =
      operands.mapM (evalColumn t) >>= applyRows op t.rowCount := by
  rw [evalColumn, evalColumnEach_eq_mapM]

private theorem hasColumn_of_evalColumn {e : Expression} {cells : List Cell}
    (h : e.evalColumn t = .ok cells) : ∀ name ∈ e.columns, t.hasColumn name := by
  induction e using inductionOn generalizing cells with
  | column name =>
    rw [evalColumn] at h
    intro other hother
    rw [columns_column, List.mem_singleton] at hother
    subst hother
    cases hfind : t.column? other with
    | some c => simp [Table.hasColumn, hfind]
    | none =>
      rw [hfind] at h
      cases h
  | const c => simp
  | apply op operands ih =>
    rw [evalColumn_apply, Outcome.bind_eq_ok] at h
    obtain ⟨columns, hcolumns, -⟩ := h
    intro name hname
    obtain ⟨e, he, hname⟩ := mem_columns_apply.mp hname
    obtain ⟨cells, hcells⟩ := Outcome.exists_ok_of_mapM hcolumns e he
    exact ih e he hcells name hname

/-- Each row gives its own cell of what the columns give. -/
theorem evalRow_of_evalColumn (ht : t.WellFormed) {e : Expression} {cells : List Cell}
    (h : e.evalColumn t = .ok cells) {row : Nat} (hrow : row < t.rowCount) :
    e.evalRow t row = .ok (cells[row]?.getD .null) := by
  induction e using inductionOn generalizing cells with
  | column name =>
    rw [evalColumn] at h
    split at h
    · next c hc =>
      cases h
      refine evalRow_column ?_
      rw [← ht.length_of_column? hc] at hrow
      simp [Table.cell?, hc, hrow]
    · cases h
  | const c =>
    rw [evalColumn] at h
    cases h
    simp [evalRow, hrow]
  | apply op operands ih =>
    rw [evalColumn_apply, Outcome.bind_eq_ok] at h
    obtain ⟨columns, hcolumns, hcells⟩ := h
    have hoperands : operands.mapM (evalRow t row) =
        .ok (columns.map fun cells => cells[row]?.getD .null) :=
      Outcome.mapM_eq_ok_map (fun e he cells hcells => ih e he hcells) hcolumns
    have hlength := length_applyRows hcells
    rw [applyRows_eq_mapM, Outcome.mapM_range_eq_ok] at hcells
    have hvalue := hcells.2 row (hlength ▸ hrow)
    rw [evalRow_apply, hoperands]
    simpa [hlength, hrow] using hvalue

/-- A failure is that of some row, unless there is none to miss a column in. -/
theorem evalColumn_eq_error (ht : t.WellFormed) {e : Expression} {fault : ExpressionFault}
    (h : e.evalColumn t = .error fault) :
    (∃ row < t.rowCount, e.evalRow t row = .error fault) ∨
      t.rowCount = 0 ∧ ∃ name ∈ e.columns, ¬t.hasColumn name := by
  induction e using inductionOn generalizing fault with
  | column name =>
    rw [evalColumn] at h
    split at h
    · cases h
    · next hfind =>
      cases h
      rcases Nat.eq_zero_or_pos t.rowCount with hzero | hpos
      · exact .inr ⟨hzero, name, by simp, by simp [Table.hasColumn, hfind]⟩
      · exact .inl ⟨0, hpos, by simp [evalRow, Table.cell?, hfind]⟩
  | const c =>
    rw [evalColumn] at h
    cases h
  | apply op operands ih =>
    rw [evalColumn_apply] at h
    cases hcolumns : operands.mapM (evalColumn t) with
    | error cause =>
      rw [hcolumns] at h
      cases h
      -- The operands before the first that fails have a value in every row.
      obtain ⟨before, e, after, rfl, hbefore, he⟩ := Outcome.mapM_eq_error.mp hcolumns
      have hmem : e ∈ before ++ e :: after := List.mem_append_right _ List.mem_cons_self
      rcases ih e hmem he with ⟨row, hrow, hfails⟩ | ⟨hzero, name, hname, hnot⟩
      · refine .inl ⟨row, hrow, ?_⟩
        have heach : (before ++ e :: after).mapM (evalRow t row) = .error fault := by
          refine Outcome.mapM_eq_error.mpr ⟨before, e, after, rfl, fun d hd => ?_, hfails⟩
          obtain ⟨cells, hcells⟩ := hbefore d hd
          exact ⟨_, evalRow_of_evalColumn ht hcells hrow⟩
        rw [evalRow_apply, heach]
        rfl
      · exact .inr ⟨hzero, name, mem_columns_apply.mpr ⟨e, hmem, hname⟩, hnot⟩
    | ok columns =>
      rw [hcolumns] at h
      have happly : applyRows op t.rowCount columns = .error fault := h
      rw [applyRows_eq_mapM] at happly
      obtain ⟨row, hrow, hfails⟩ := Outcome.exists_of_mapM_eq_error happly
      have hrow := List.mem_range.mp hrow
      have hoperands : operands.mapM (evalRow t row) =
          .ok (columns.map fun cells => cells[row]?.getD .null) :=
        Outcome.mapM_eq_ok_map (fun e _ cells hcells => evalRow_of_evalColumn ht hcells hrow)
          hcolumns
      refine .inl ⟨row, hrow, ?_⟩
      rw [evalRow_apply, hoperands]
      exact hfails

/-- The columns of an expression give what its rows give, and fail as some row does. -/
theorem evalColumn_agrees_with_rows (ht : t.WellFormed) (e : Expression) :
    (∀ cells, e.evalColumn t = .ok cells ↔
      (∀ name ∈ e.columns, t.hasColumn name) ∧ cells.length = t.rowCount ∧
        ∀ row, (hrow : row < cells.length) → e.evalRow t row = .ok cells[row]) ∧
    ∀ fault, e.evalColumn t = .error fault → 0 < t.rowCount →
      ∃ row < t.rowCount, e.evalRow t row = .error fault := by
  have hvalue : ∀ cells, e.evalColumn t = .ok cells → cells.length = t.rowCount ∧
      ∀ row, (hrow : row < cells.length) → e.evalRow t row = .ok cells[row] := by
    intro cells h
    have hlength := length_evalColumn ht h
    refine ⟨hlength, fun row hrow => ?_⟩
    have hcell := evalRow_of_evalColumn ht h (hlength ▸ hrow)
    rwa [List.getElem?_eq_getElem hrow] at hcell
  refine ⟨fun cells => ⟨fun h => ⟨hasColumn_of_evalColumn h, hvalue cells h⟩, ?_⟩, ?_⟩
  · rintro ⟨hnames, hlength, hrows⟩
    cases h : e.evalColumn t with
    | ok others =>
      obtain ⟨hlength', hrows'⟩ := hvalue others h
      have heq : others = cells := by
        refine List.ext_getElem (hlength'.trans hlength.symm) fun row hrow hrow' => ?_
        exact Except.ok.inj ((hrows' row hrow).symm.trans (hrows row hrow'))
      rw [heq]
    | error fault =>
      rcases evalColumn_eq_error ht h with ⟨row, hrow, hfails⟩ | ⟨-, name, hname, hnot⟩
      · rw [hrows row (hlength ▸ hrow)] at hfails
        cases hfails
      · exact absurd (hnames name hname) hnot
  · intro fault h hpos
    rcases evalColumn_eq_error ht h with hrow | ⟨hzero, -⟩
    · exact hrow
    · omega

/-- The votes of two divisions, in the second of which one count is a remark. -/
def tallies : Table :=
  ⟨[⟨"ayes", .numeric, [.int 300, .null]⟩, ⟨"noes", .text, [.int 290, .text "tied"]⟩], 2⟩

theorem evalColumn_agrees_with_rows_sample :
    tallies.WellFormed ∧
    (apply .add [column "ayes", const (.int 1)]).evalColumn tallies = .ok [.int 301, .null] ∧
    ∃ row < 2, (apply .sub [column "ayes", column "noes"]).evalRow tallies row =
      .error (.textOperand .sub "tied") := by
  have ht : tallies.WellFormed := ⟨by decide, by decide⟩
  obtain ⟨hvalue, -⟩ := evalColumn_agrees_with_rows ht (apply .add [column "ayes", const (.int 1)])
  obtain ⟨-, hfails⟩ := evalColumn_agrees_with_rows ht (apply .sub [column "ayes", column "noes"])
  refine ⟨ht, (hvalue _).mpr ⟨by decide, rfl, ?_⟩, hfails _ rfl (by decide)⟩
  rintro (_ | _ | row) hrow
  · rfl
  · rfl
  · exact absurd hrow (by simp)

end RollCall.Expression
