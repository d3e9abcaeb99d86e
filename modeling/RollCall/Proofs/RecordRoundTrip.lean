import RollCall.Library.Standard
import RollCall.Proofs.NearestDoubles
import RollCall.Proofs.NumbersInRange
import RollCall.Proofs.Tables

/-!
# Tables written and read again

A well-formed table is read back from its row objects with its columns in order and every cell as it
was, except that a double which JSON cannot hold is missing and that types are inferred anew. It
must have a row to carry the names of its columns. A table that has been read from records comes
back exactly.
-/
namespace RollCall

/-- The cell as JSON carries it: a double that is not finite is missing. -/
def Cell.carried : Cell → Cell
  | .float x => if Binary64.isFinite x then .float x else .null
  | c => c

theorem Cell.ofJson_toJson (c : Cell) : Cell.ofJson c.toJson = c.carried := by
  cases c with
  | int n => simp [toJson, ofJson, carried, Checked.ofInt?_toInt]
  | float x =>
    rw [toJson, Json.ofFloat, carried]
    split <;> rfl
  | _ => rfl

/-- What is read from a JSON value, JSON carries. -/
theorem Cell.carried_ofJson {v : Json} (hv : v.InRange) :
    (Cell.ofJson v).carried = Cell.ofJson v := by
  cases hv with
  | float h => simp [ofJson, carried, h]
  | @int n h =>
    rw [Json.isIntegral, decide_eq_true_eq] at h
    have hfinite : Binary64.isFinite (Binary64.ofInt n) = true :=
      Binary64.isFinite_ofInt (by omega)
    rw [ofJson]
    split
    · rfl
    · simp [carried, hfinite]
  | _ => rfl

namespace Json

variable {key : String} {v : Json} {fields : List (String × Json)}

private theorem insert_of_notMem (h : key ∉ fields.map Prod.fst) :
    insert key v fields = fields ++ [(key, v)] := by
  induction fields with
  | nil => rfl
  | cons field fields ih =>
    rw [List.map_cons, List.mem_cons, not_or] at h
    rw [insert, if_neg (Ne.symm h.1), ih h.2, List.cons_append]

/-- Fields of distinct names stand in the order in which they are put in. -/
theorem foldl_insert_eq {α : Type} {name : α → String} {value : α → Json} {xs : List α}
    (h : (fields.map Prod.fst ++ xs.map name).Nodup) :
    xs.foldl (fun fields x => insert (name x) (value x) fields) fields =
      fields ++ xs.map fun x => (name x, value x) := by
  induction xs generalizing fields with
  | nil => simp
  | cons x xs ih =>
    have hx : name x ∉ fields.map Prod.fst := by
      rw [List.map_cons, List.nodup_append] at h
      exact fun hmem => h.2.2 _ hmem _ List.mem_cons_self rfl
    rw [List.foldl_cons, insert_of_notMem hx, ih (by simpa using h), List.map_cons,
      List.append_assoc, List.singleton_append]

private theorem lookup_map {α : Type} {name : α → String} {value : α → Json} {xs : List α} {x : α}
    (h : (xs.map name).Nodup) (hx : x ∈ xs) :
    lookup (name x) (xs.map fun x => (name x, value x)) = some (value x) := by
  induction xs with
  | nil => cases hx
  | cons y xs ih =>
    rw [List.map_cons, List.nodup_cons] at h
    rw [List.map_cons, lookup]
    rcases List.mem_cons.mp hx with rfl | hx
    · rw [if_pos rfl]
    · have hne : name y ≠ name x := fun heq => h.1 (heq ▸ List.mem_map_of_mem hx)
      rw [if_neg hne, ih h.2 hx]

end Json

namespace Table

variable {t u : Table} {names more : List String} {rows : List (List (String × Json))}
  {records : List Json}

private theorem addNames_of_subset (h : more ⊆ names) : addNames names more = names := by
  induction more with
  | nil => rfl
  | cons name more ih =>
    obtain ⟨hname, hmore⟩ := List.cons_subset.mp h
    rw [addNames, List.foldl_cons, if_pos hname]
    exact ih hmore

private theorem addNames_of_nodup (h : (names ++ more).Nodup) :
    addNames names more = names ++ more := by
  induction more generalizing names with
  | nil => simp [addNames]
  | cons name more ih =>
    have hname : name ∉ names := by
      rw [List.nodup_append] at h
      exact fun hmem => h.2.2 _ hmem _ List.mem_cons_self rfl
    rw [addNames, List.foldl_cons, if_neg hname]
    exact (ih (by simpa using h)).trans (by simp)

private theorem foldl_addNames_eq (h : ∀ fields ∈ rows, fields.map Prod.fst = names) :
    rows.foldl (fun names fields => addNames names (fields.map Prod.fst)) names = names := by
  induction rows with
  | nil => rfl
  | cons fields rows ih =>
    obtain ⟨hfields, hrows⟩ := List.forall_mem_cons.mp h
    rw [List.foldl_cons, hfields, addNames_of_subset (List.Subset.refl _)]
    exact ih hrows

/-- Rows that all have the same names, of which there is one at least, name them in order. -/
theorem recordNames_eq (hnodup : names.Nodup) (h : ∀ fields ∈ rows, fields.map Prod.fst = names)
    (hrows : rows ≠ [] ∨ names = []) : recordNames rows = names := by
  cases rows with
  | nil => exact (hrows.resolve_left fun hne => hne rfl).symm
  | cons fields rows =>
    obtain ⟨hfields, hrest⟩ := List.forall_mem_cons.mp h
    rw [recordNames, List.foldl_cons, hfields, addNames_of_nodup (by simpa using hnodup)]
    exact foldl_addNames_eq hrest

private theorem rowFields_map_obj (rows : List (List (String × Json))) :
    rowFields (rows.map .obj) = .ok rows := by
  rw [rowFields, Outcome.mapM_eq_ok, List.forall₂_iff_get]
  refine ⟨by simp, fun i _ _ => ?_⟩
  simp

def fieldsAt (t : Table) (i : Nat) : List (String × Json) :=
  t.columns.map fun c => (c.name, (c.cells[i]?.getD .null).toJson)

private theorem map_fst_fieldsAt (t : Table) (i : Nat) : (t.fieldsAt i).map Prod.fst = t.names := by
  simp [fieldsAt, names]

private theorem toRecords_eq (ht : t.WellFormed) :
    t.toRecords = ((List.range t.rowCount).map t.fieldsAt).map .obj := by
  rw [toRecords, List.map_map]
  refine List.map_congr_left fun i _ => ?_
  have hcells : t.names.zip ((t.columns.map fun c => c.cells.toArray).map (·[i]?.getD .null)) =
      t.columns.map fun c => (c.name, c.cells[i]?.getD .null) := by
    rw [names, List.map_map, List.zip_map']
    simp
  have hnodup : (([] : List (String × Json)).map Prod.fst ++ t.columns.map Column.name).Nodup :=
    ht.nodup
  rw [recordOf, hcells, List.foldl_map, Json.foldl_insert_eq hnodup]
  rfl

/-- The table that is read back: cells as JSON carries them, under their inferred type. -/
def carried (t : Table) : Table :=
  ⟨t.columns.map fun c => .ofCells c.name (c.cells.map Cell.carried), t.rowCount⟩

private theorem recordColumn_fieldsAt (ht : t.WellFormed) {c : Column} (hc : c ∈ t.columns) :
    recordColumn ((List.range t.rowCount).map t.fieldsAt) c.name =
      .ofCells c.name (c.cells.map Cell.carried) := by
  have hcells : c.cells = (List.range t.rowCount).map fun i => c.cells[i]?.getD .null := by
    rw [← Column.pick_eq, ← ht.length_eq c hc, Column.pick_range]
  conv_rhs => rw [hcells]
  rw [recordColumn, List.map_map, List.map_map]
  refine congrArg (Column.ofCells c.name) (List.map_congr_left fun i _ => ?_)
  have hlookup : Json.lookup c.name (t.fieldsAt i) = some (c.cells[i]?.getD .null).toJson :=
    Json.lookup_map ht.nodup hc
  simp [hlookup, Cell.ofJson_toJson]

@[simp] theorem names_carried (t : Table) : t.carried.names = t.names := by
  simp [carried, names, Column.ofCells]

private theorem WellFormed.carried (ht : t.WellFormed) : t.carried.WellFormed := by
  refine ⟨by rw [names_carried]; exact ht.nodup, fun c hc => ?_⟩
  obtain ⟨d, hd, rfl⟩ := List.mem_map.mp hc
  rw [Column.length_ofCells, List.length_map]
  exact ht.length_eq d hd

private theorem WellFormed.exists_ofColumns (ht : t.WellFormed) :
    ∃ u, ofColumns t.columns = .ok u ∧ u.columns = t.columns := by
  refine ⟨⟨t.columns, (t.columns.head?.map Column.length).getD 0⟩, ?_, rfl⟩
  refine ofColumns_eq_ok.mpr ⟨⟨ht.nodup, fun c hc => ?_⟩, rfl, rfl⟩
  obtain ⟨first, hfirst⟩ : ∃ first, t.columns.head? = some first :=
    Option.isSome_iff_exists.mp (List.isSome_head?.mpr (List.ne_nil_of_mem hc))
  have hrows : c.length = first.length :=
    (ht.length_eq c hc).trans (ht.length_eq first (List.mem_of_mem_head? hfirst)).symm
  simp [hfirst, hrows]

/-- A table with a row for its names, or without any, is read back from its records. -/
theorem ofRecords_toRecords (ht : t.WellFormed) (h : t.rowCount ≠ 0 ∨ t.columns = []) :
    ofRecords t.toRecords = .ok t.carried := by
  have hnames : recordNames ((List.range t.rowCount).map t.fieldsAt) = t.names := by
    refine recordNames_eq ht.nodup (fun fields hfields => ?_) (h.imp ?_ ?_)
    · obtain ⟨i, -, rfl⟩ := List.mem_map.mp hfields
      exact map_fst_fieldsAt t i
    · intro hrows hnil
      simp [hrows] at hnil
    · intro hcolumns
      rw [names, hcolumns, List.map_nil]
  have hcolumns : (recordNames ((List.range t.rowCount).map t.fieldsAt)).map
      (recordColumn ((List.range t.rowCount).map t.fieldsAt)) = t.carried.columns := by
    rw [hnames, names, List.map_map]
    exact List.map_congr_left fun c hc => recordColumn_fieldsAt ht hc
  obtain ⟨u, hu, hucolumns⟩ := ht.carried.exists_ofColumns
  rw [ofRecords, toRecords_eq ht, rowFields_map_obj]
  simp only [Outcome.bind_eq_ok, Outcome.pure_eq_ok]
  refine ⟨_, rfl, u, hcolumns ▸ hu, ?_⟩
  rw [hucolumns]
  simp [carried]

private theorem carried_of_ofRecords (hrecords : ∀ v ∈ records, v.InRange)
    (h : ofRecords records = .ok t) : t.carried = t := by
  obtain ⟨rows, rfl, hcolumns, -⟩ := exists_rows_of_ofRecords h
  have hcells : ∀ c ∈ t.columns, Column.ofCells c.name (c.cells.map Cell.carried) = c := by
    intro c hc
    rw [hcolumns] at hc
    obtain ⟨name, -, rfl⟩ := List.mem_map.mp hc
    refine congrArg (Column.ofCells name) ?_
    rw [recordColumn, Column.ofCells]
    refine List.map_map.trans (List.map_congr_left fun fields hfields => ?_)
    cases hvalue : Json.lookup name fields with
    | none => simp [hvalue, Cell.carried]
    | some v =>
      cases hrecords _ (List.mem_map_of_mem hfields) with
      | obj hobject =>
        have hv := hobject _ (Json.mem_of_lookup hvalue)
        simp [hvalue, Cell.carried_ofJson hv]
  obtain ⟨columns, rowCount⟩ := t
  rw [carried, Table.mk.injEq]
  exact ⟨(List.map_congr_left hcells).trans (List.map_id columns), rfl⟩

/-- Rows of JSON make a table that is read back from its own rows, and so do the rows of a text.
Any well-formed table with a row, or without columns, is read back with its names, its number of
rows and its cells as JSON carries them, every column under the type that its cells suggest. -/
theorem records_roundTrip [Library] :
    (∀ records t, (∀ v ∈ records, v.InRange) → ofRecords records = .ok t →
      ofRecords t.toRecords = .ok t) ∧
    (∀ text records t, Json.read? text = some (.arr records) → ofRecords records = .ok t →
      ofRecords t.toRecords = .ok t) ∧
    ∀ t : Table, t.WellFormed → t.rowCount ≠ 0 ∨ t.columns = [] →
      ∃ u, ofRecords t.toRecords = .ok u ∧ u.names = t.names ∧ u.rowCount = t.rowCount ∧
        u.columns.map Column.cells = t.columns.map (fun c => c.cells.map Cell.carried) ∧
        ∀ c ∈ u.columns, c.kind = ColumnKind.infer c.cells := by
  have hrows : ∀ records t, (∀ v ∈ records, v.InRange) → ofRecords records = .ok t →
      ofRecords t.toRecords = .ok t := by
    intro records t hrecords h
    obtain ⟨hwell, hcount⟩ := wellFormed_of_ofRecords h
    have hnamed : t.rowCount ≠ 0 ∨ t.columns = [] := by
      by_cases hzero : t.rowCount = 0
      · obtain ⟨rows, hrows, hcolumns, -⟩ := exists_rows_of_ofRecords h
        have hnil : rows = [] :=
          List.length_eq_zero_iff.mp (by rw [← hzero, hcount, hrows, List.length_map])
        exact .inr (by rw [hcolumns, hnil]; rfl)
      · exact .inl hzero
    rw [ofRecords_toRecords hwell hnamed, carried_of_ofRecords hrecords h]
  refine ⟨hrows, fun text records t htext h => ?_, fun t ht hnamed => ?_⟩
  · cases Json.inRange_of_read? htext with
    | arr hrecords => exact hrows records t hrecords h
  · refine ⟨t.carried, ofRecords_toRecords ht hnamed, names_carried t, rfl, ?_, fun c hc => ?_⟩
    · simp [carried, Column.ofCells]
    · obtain ⟨d, -, rfl⟩ := List.mem_map.mp hc
      rfl

def sampleRecords : List Json :=
  [.obj [("id", .int 1), ("score", .float 1.5)], .obj [],
   .obj [("note", .arr [.int 1]), ("id", .int 9223372036854775808)]]

def sampleText : String :=
  "[\x7b\"id\": 1, \"score\": 1.5\x7d, \x7b\x7d, " ++
    "\x7b\"note\": [1], \"id\": 9223372036854775808\x7d]"

/-- An integer beyond 64 bits is a double, and an array is its text. -/
def sampleRead : Table :=
  ⟨[⟨"id", .numeric, [.int 1, .null, .float (Binary64.ofInt 9223372036854775808)]⟩,
    ⟨"score", .numeric, [.float 1.5, .null, .null]⟩,
    ⟨"note", .text, [.null, .null, .text "[1]"]⟩], 3⟩

def sampleUnbounded : Table :=
  ⟨[⟨"x", .categorical, [.float Binary64.infinity, .int 2]⟩], 2⟩

theorem records_roundTrip_sample :
    (∀ v ∈ sampleRecords, v.InRange) ∧ Json.read? sampleText = some (.arr sampleRecords) ∧
      ofRecords sampleRecords = .ok sampleRead ∧ ofRecords sampleRead.toRecords = .ok sampleRead ∧
      ∃ u, ofRecords sampleUnbounded.toRecords = .ok u ∧
        u.columns.map Column.cells = [[.null, .int 2]] := by
  have htext : Json.read? sampleText = some (.arr sampleRecords) := rfl
  have hread : ofRecords sampleRecords = .ok sampleRead := rfl
  have hrange : ∀ v ∈ sampleRecords, v.InRange := by
    cases Json.inRange_of_read? htext with
    | arr h => exact h
  have hwell : sampleUnbounded.WellFormed := ⟨by decide, by decide⟩
  have hcarried : sampleUnbounded.columns.map (fun c => c.cells.map Cell.carried) =
      [[.null, .int 2]] := by decide
  obtain ⟨hrows, -, htables⟩ := records_roundTrip
  obtain ⟨u, hu, -, -, hcells, -⟩ := htables sampleUnbounded hwell (.inl (by decide))
  exact ⟨hrange, htext, hread, hrows sampleRecords sampleRead hrange hread, u, hu,
    hcells.trans hcarried⟩

end Table
end RollCall
