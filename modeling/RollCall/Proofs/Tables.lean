import Mathlib.Data.List.Nodup
import RollCall.Proofs.Outcome
import RollCall.TableStore

/-!
# Well-formed tables

Every way to make a table gives a well-formed one: from columns, by placing a column, by selecting
rows and from records. The fault that `ofColumns` looks for is exactly a violation of
well-formedness.
-/
namespace RollCall

variable {t u : Table} {c d : Column} {cs : List Column} {n : Nat} {name : String}

@[simp] theorem Column.length_ofCells (name : String) (cells : List Cell) :
    (Column.ofCells name cells).length = cells.length := rfl

@[simp] theorem Column.length_pick (c : Column) (rows : List Nat) :
    (c.pick rows).length = rows.length := by
  simp [Column.pick]

@[simp] theorem Column.length_pick? (c : Column) (rows : List (Option Nat)) :
    (c.pick? rows).length = rows.length := by
  simp [Column.pick?]

theorem Column.pick_range (c : Column) : c.pick (List.range c.length) = c.cells := by
  rw [Column.pick_eq]
  refine List.ext_getElem (by simp [Column.length]) fun i hi hi' => ?_
  simp [hi']

namespace Table

theorem mem_of_column? (h : t.column? name = some c) : c ∈ t.columns :=
  List.mem_of_find?_eq_some h

theorem name_of_column? (h : t.column? name = some c) : c.name = name := by
  simpa using List.find?_some h

theorem column?_eq_none_iff : t.column? name = none ↔ name ∉ t.names := by
  simp [column?, names]

theorem column?_isSome_iff : (t.column? name).isSome ↔ name ∈ t.names := by
  rw [← not_iff_not, ← column?_eq_none_iff, Option.not_isSome_iff_eq_none]

/-- Distinct names make every column the one its name finds. -/
theorem WellFormed.column?_eq (ht : t.WellFormed) (hc : c ∈ t.columns) :
    t.column? c.name = some c := by
  obtain ⟨d, hd⟩ := Option.isSome_iff_exists.mp
    (column?_isSome_iff.mpr (List.mem_map_of_mem hc))
  have hname := name_of_column? hd
  have heq : d = c := List.inj_on_of_nodup_map ht.nodup (mem_of_column? hd) hc hname
  rw [hd, heq]

theorem WellFormed.length_of_column? (ht : t.WellFormed) (h : t.column? name = some c) :
    c.cells.length = t.rowCount :=
  ht.length_eq c (mem_of_column? h)

/-- The names seen before and those of the columns are distinct, and all lengths agree. -/
theorem fault?_eq_none_iff {before : List String} (hbefore : before.Nodup) :
    fault? n before cs = none ↔
      (before ++ cs.map Column.name).Nodup ∧ ∀ c ∈ cs, c.length = n := by
  induction cs generalizing before with
  | nil => simp [fault?, hbefore]
  | cons c cs ih =>
    rw [fault?]
    by_cases hlength : c.length = n
    · by_cases hseen : c.name ∈ before
      · have hdup : ¬(before ++ (c :: cs).map Column.name).Nodup := by
          intro h
          exact (List.nodup_append.mp h).2.2 _ hseen _ (by simp) rfl
        simp only [hlength, hseen, hdup, ne_eq, not_true_eq_false, if_false, if_true, false_and]
        simp
      · have hnodup : (before ++ [c.name]).Nodup := by
          rw [← List.concat_eq_append]
          exact hbefore.concat hseen
        simp [hlength, hseen, ih hnodup]
    · simp [hlength]

/-- Columns make a table exactly when they are well formed with the length of the first one. -/
theorem ofColumns_eq_ok :
    ofColumns cs = .ok t ↔
      t.WellFormed ∧ t.columns = cs ∧ t.rowCount = (cs.head?.map Column.length).getD 0 := by
  obtain ⟨columns, rowCount⟩ := t
  simp only [ofColumns]
  generalize hrows : (cs.head?.map Column.length).getD 0 = rows
  have hiff : fault? rows [] cs = none ↔ _ := fault?_eq_none_iff List.nodup_nil
  constructor
  · intro h
    cases hfault : fault? rows [] cs with
    | some fault => rw [hfault] at h; cases h
    | none =>
      obtain ⟨hnodup, hlength⟩ := hiff.mp hfault
      rw [hfault] at h
      cases h
      exact ⟨⟨hnodup, hlength⟩, rfl, rfl⟩
  · rintro ⟨⟨hnodup, hlength⟩, rfl, rfl⟩
    rw [hiff.mpr ⟨hnodup, hlength⟩]

private theorem duplicate_of_fault? {before : List String} {fault : TableFault}
    (hlength : ∀ c ∈ cs, c.length = n) (h : fault? n before cs = some fault) :
    ∃ name, fault = .duplicate name ∧ 2 ≤ (before ++ cs.map Column.name).count name := by
  induction cs generalizing before with
  | nil => cases h
  | cons c cs ih =>
    obtain ⟨hc, hcs⟩ := List.forall_mem_cons.mp hlength
    rw [fault?, if_neg (not_not.mpr hc)] at h
    split at h
    · next hseen =>
      cases h
      refine ⟨c.name, rfl, ?_⟩
      have hpos : 0 < before.count c.name := List.count_pos_iff.mpr hseen
      rw [List.count_append, List.map_cons, List.count_cons_self]
      omega
    · obtain ⟨name, hname, hcount⟩ := ih hcs h
      exact ⟨name, hname, by simpa using hcount⟩

/-- Columns of one length fail to make a table for a name that occurs twice. -/
theorem ofColumns_eq_error {fault : TableFault} (hlength : ∀ c ∈ cs, c.length = n)
    (h : ofColumns cs = .error fault) :
    ∃ name, fault = .duplicate name ∧ 2 ≤ (cs.map Column.name).count name := by
  have hrows : ∀ c ∈ cs, c.length = (cs.head?.map Column.length).getD 0 := by
    cases cs with
    | nil => simp
    | cons d ds => exact fun c hc => (hlength c hc).trans (hlength d List.mem_cons_self).symm
  rw [ofColumns] at h
  split at h
  · next hfault =>
    cases h
    exact duplicate_of_fault? hrows hfault
  · cases h

theorem wellFormed_of_ofColumns (h : ofColumns cs = .ok t) : t.WellFormed :=
  (ofColumns_eq_ok.mp h).1

theorem mem_names_place :
    name ∈ (place c cs).map Column.name ↔ name = c.name ∨ name ∈ cs.map Column.name := by
  induction cs with
  | nil => simp [place]
  | cons d cs ih =>
    rw [place]
    split
    · next hname => simp [hname]
    · simp only [List.map_cons, List.mem_cons, ih]
      exact or_left_comm

private theorem nodup_place (h : (cs.map Column.name).Nodup) :
    ((place c cs).map Column.name).Nodup := by
  induction cs with
  | nil => simp [place]
  | cons d cs ih =>
    rw [List.map_cons, List.nodup_cons] at h
    rw [place]
    split
    · next hname => simpa [hname] using h
    · next hname =>
      rw [List.map_cons, List.nodup_cons, mem_names_place]
      exact ⟨fun hmem => hmem.elim hname h.1, ih h.2⟩

theorem mem_place (h : d ∈ place c cs) : d = c ∨ d ∈ cs := by
  induction cs with
  | nil => simpa [place] using h
  | cons e cs ih =>
    rw [place] at h
    split at h
    · rcases List.mem_cons.mp h with h | h
      · exact .inl h
      · exact .inr (List.mem_cons_of_mem _ h)
    · rcases List.mem_cons.mp h with rfl | h
      · exact .inr List.mem_cons_self
      · exact (ih h).imp_right (List.mem_cons_of_mem _)

/-- The one table that takes a column of any length has no columns whose lengths could differ. -/
theorem WellFormed.withColumn (ht : t.WellFormed) (h : t.withColumn c = .ok u) :
    u.WellFormed := by
  rw [Table.withColumn] at h
  split at h
  · cases h
  · next hlength =>
    cases h
    refine ⟨nodup_place ht.nodup, fun d hd => ?_⟩
    rcases mem_place hd with rfl | hd
    · rfl
    · have hcolumns : t.columns ≠ [] := List.ne_nil_of_mem hd
      have hrows : c.length = t.rowCount := by
        by_contra hne
        exact hlength ⟨hne, fun hempty => hcolumns hempty.1⟩
      rw [ht.length_eq d hd, hrows]

@[simp] theorem names_takeRows (t : Table) (rows : List Nat) :
    (t.takeRows rows).names = t.names := by
  simp [takeRows, names, Function.comp_def]

theorem WellFormed.takeRows (ht : t.WellFormed) (rows : List Nat) :
    (t.takeRows rows).WellFormed := by
  refine ⟨by rw [names_takeRows]; exact ht.nodup, fun c hc => ?_⟩
  obtain ⟨d, -, rfl⟩ := List.mem_map.mp hc
  exact Column.length_pick d rows

theorem WellFormed.filterMask (ht : t.WellFormed) (mask : List Bool) :
    (t.filterMask mask).WellFormed :=
  ht.takeRows _

theorem blank_wellFormed (n : Nat) : (blank n).WellFormed :=
  ⟨List.nodup_nil, fun _ hc => absurd hc List.not_mem_nil⟩

/-- Records make a well-formed table, with one row for each of them. -/
theorem wellFormed_of_ofRecords {records : List Json} (h : ofRecords records = .ok t) :
    t.WellFormed ∧ t.rowCount = records.length := by
  simp only [ofRecords, Outcome.bind_eq_ok, Outcome.pure_eq_ok] at h
  obtain ⟨rows, hrows, table, htable, rfl⟩ := h
  obtain ⟨hwell, hcolumns, -⟩ := ofColumns_eq_ok.mp htable
  have hlength : rows.length = records.length := by
    simpa using Outcome.length_eq_of_mapM hrows
  refine ⟨⟨hwell.nodup, fun c hc => ?_⟩, rfl⟩
  rw [hcolumns] at hc
  obtain ⟨name, -, rfl⟩ := List.mem_map.mp hc
  simpa [recordColumn] using hlength

/-- The rows of records that make a table are objects, whose names its columns have. -/
theorem exists_rows_of_ofRecords {records : List Json}
    (h : ofRecords records = .ok t) :
    ∃ rows, records = rows.map .obj ∧ t.columns = (recordNames rows).map (recordColumn rows) ∧
      t.rowCount = records.length := by
  simp only [ofRecords, Outcome.bind_eq_ok, Outcome.pure_eq_ok] at h
  obtain ⟨rows, hrows, table, htable, rfl⟩ := h
  obtain ⟨-, hcolumns, -⟩ := ofColumns_eq_ok.mp htable
  refine ⟨rows, ?_, hcolumns, rfl⟩
  have hall : List.Forall₂ (fun (x : Json × Nat) fields => x.1 = .obj fields) records.zipIdx
      rows := by
    refine (Outcome.mapM_eq_ok.mp hrows).imp fun x fields hx => ?_
    dsimp only at hx
    split at hx
    · next heq =>
      cases hx
      exact heq
    · cases hx
  rw [← List.zipIdx_map_fst 0 records, ← List.forall₂_eq_eq_eq, List.forall₂_map_left_iff,
    List.forall₂_map_right_iff]
  exact hall

end Table

def TableStore.WellFormed (s : TableStore) : Prop :=
  ∀ entry ∈ s.tables, entry.2.WellFormed

end RollCall
