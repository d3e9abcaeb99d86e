import RollCall.Operation.Execution
import RollCall.Proofs.Lists
import RollCall.Proofs.Rows
import RollCall.Proofs.WrittenConditions

/-!
# Filtering

A filter keeps the rows that satisfy a condition, in their order. As a row is kept or not by its own
cells, a filter of selected rows selects among them, filters one after the other are one filter, and
their order does not matter where none is refused.
-/
namespace RollCall

namespace Table

variable {t : Table}

theorem column?_takeRows (t : Table) (rows : List Nat) (name : String) :
    (t.takeRows rows).column? name =
      (t.column? name).map fun c => { c with cells := c.pick rows } := by
  rw [column?, takeRows, List.find?_map]
  rfl

theorem cellAt_takeRows (t : Table) (rows : List Nat) {j : Nat} (hj : j < rows.length)
    (name : String) : (t.takeRows rows).cellAt j name = t.cellAt rows[j] name := by
  rw [cellAt, cellAt, cell?, cell?, column?_takeRows]
  cases t.column? name with
  | none => rfl
  | some c => simp [Column.pick_eq, hj]

theorem cell?_takeRows (ht : t.WellFormed) {rows : List Nat} {j : Nat} (hj : j < rows.length)
    (hrows : ∀ row ∈ rows, row < t.rowCount) (name : String) :
    (t.takeRows rows).cell? j name = t.cell? (rows.getD j 0) name := by
  have hrow : rows[j] < t.rowCount := hrows _ (List.getElem_mem hj)
  rw [cell?, cell?, column?_takeRows]
  cases hc : t.column? name with
  | none => rfl
  | some c =>
    rw [← ht.length_of_column? hc] at hrow
    simp [Column.pick_eq, hj, hrow]

theorem setPositions_map_range (p : Nat → Bool) (n : Nat) :
    setPositions ((List.range n).map p) = (List.range n).filter p := by
  rw [setPositions, zipIdx_map_range, List.filter_map, List.map_map]
  simp [Function.comp_def]

/-- Rows selected among selected rows are rows selected once. -/
theorem takeRows_takeRows (t : Table) {rows positions : List Nat}
    (h : ∀ j ∈ positions, j < rows.length) :
    (t.takeRows rows).takeRows positions = t.takeRows (positions.map fun j => rows.getD j 0) := by
  rw [takeRows, takeRows, takeRows, List.map_map, List.length_map]
  refine congrArg (Table.mk · positions.length) (List.map_congr_left fun c _ => ?_)
  simp only [Function.comp_apply, Column.pick_eq, List.map_map, Column.mk.injEq, true_and]
  refine List.map_congr_left fun j hj => ?_
  simp [h j hj]

private theorem takeRows_filter (t : Table) (rows : List Nat) (p : Nat → Bool) :
    (t.takeRows rows).takeRows ((List.range rows.length).filter fun j => p (rows.getD j 0)) =
      t.takeRows (rows.filter p) := by
  have hfilter : rows.filter p =
      ((List.range rows.length).filter fun j => p (rows.getD j 0)).map fun j => rows.getD j 0 := by
    conv_lhs => rw [← map_getD_range rows 0, List.filter_map]
    rfl
  rw [hfilter]
  exact takeRows_takeRows t fun j hj => List.mem_range.mp (List.mem_filter.mp hj).1

theorem WellFormed.takeRows_range (ht : t.WellFormed) : t.takeRows (List.range t.rowCount) = t := by
  obtain ⟨columns, rowCount⟩ := t
  rw [Table.takeRows, List.length_range, Table.mk.injEq]
  refine ⟨?_, rfl⟩
  conv_rhs => rw [← List.map_id columns]
  refine List.map_congr_left fun c hc => ?_
  have hlength : c.length = rowCount := ht.length_eq c hc
  rw [← hlength, c.pick_range]
  rfl

end Table

variable {t : Table}

namespace Condition

private theorem ofJson_pair {first second : Json} {c d : Condition} (hc : ofJson first = .ok c)
    (hd : ofJson second = .ok d) : ofJson (.arr [first, second]) = .ok (all [c, d]) := by
  rw [ofJson, ofNodes, ofNodes, ofNodes, hc, hd]
  rfl

section

variable [Library]

def filter (t : Table) (c : Condition) : Except ConditionFault Table :=
  return t.filterMask (← c.mask t)

theorem mask_takeRows (ht : t.WellFormed) (c : Condition) (rows : List Nat) :
    c.mask (t.takeRows rows) =
      (c.check t.names).map fun _ => rows.map fun i => c.holds (t.cellAt i) := by
  have hmask := rowwise (ht.takeRows rows) c
  rw [Rowwise, Table.names_takeRows] at hmask
  have hrows : (List.range rows.length).map (fun j => c.holds ((t.takeRows rows).cellAt j)) =
      rows.map fun i => c.holds (t.cellAt i) := by
    refine List.ext_getElem (by simp) fun j hj hj' => ?_
    rw [List.length_map] at hj'
    simp only [List.getElem_map, List.getElem_range]
    exact congrArg c.holds (funext fun name => t.cellAt_takeRows rows hj' name)
  rw [hmask, ← hrows]
  rfl

/-- A filter of selected rows selects those among them that satisfy the condition. -/
theorem filter_takeRows (ht : t.WellFormed) (c : Condition) (rows : List Nat) :
    c.filter (t.takeRows rows) =
      (c.check t.names).map fun _ => t.takeRows (rows.filter fun i => c.holds (t.cellAt i)) := by
  have hmask : rows.map (fun i => c.holds (t.cellAt i)) =
      (List.range rows.length).map fun j => c.holds (t.cellAt (rows.getD j 0)) := by
    refine List.ext_getElem (by simp) fun j hj _ => ?_
    rw [List.length_map] at hj
    simp [hj]
  rw [filter, mask_takeRows ht, hmask]
  cases c.check t.names with
  | error fault => rfl
  | ok _ =>
    simp only [Except.map, bind, Except.bind, pure, Except.pure, Table.filterMask,
      Table.setPositions_map_range]
    rw [t.takeRows_filter rows fun i => c.holds (t.cellAt i)]

theorem filter_eq (ht : t.WellFormed) (c : Condition) :
    c.filter t = (c.check t.names).map fun _ =>
      t.takeRows ((List.range t.rowCount).filter fun i => c.holds (t.cellAt i)) := by
  conv_lhs => rw [← ht.takeRows_range]
  exact filter_takeRows ht c _

private theorem check_pair (names : List String) (c d : Condition) :
    (all [c, d]).check names = (c.check names).bind fun _ => d.check names := by
  simp [check, clauses, clausesOf, List.forM_append, bind]

/-- Filtering by one condition and then by another keeps the rows that satisfy both, and is refused
as the first that is refused. -/
theorem filter_bind_filter (ht : t.WellFormed) (c d : Condition) :
    ((c.filter t).bind fun u => d.filter u) =
      ((c.check t.names).bind fun _ => d.check t.names).map fun _ =>
        t.takeRows ((List.range t.rowCount).filter fun i =>
          c.holds (t.cellAt i) && d.holds (t.cellAt i)) := by
  rw [filter_eq ht]
  cases c.check t.names with
  | error fault => rfl
  | ok _ =>
    simp only [Except.map, Except.bind]
    rw [filter_takeRows ht, List.filter_filter]
    simp only [Bool.and_comm, Except.map]

private theorem filter_pair (ht : t.WellFormed) (c d : Condition) :
    (all [c, d]).filter t = (c.filter t).bind fun u => d.filter u := by
  rw [filter_bind_filter ht, filter_eq ht, check_pair]
  simp [holds, holdsEach]

private theorem filter_twice (ht : t.WellFormed) (c : Condition) :
    ((c.filter t).bind fun u => c.filter u) = c.filter t := by
  rw [filter_bind_filter ht, filter_eq ht]
  cases c.check t.names <;> simp [Except.map, Except.bind]

theorem check_of_mask (ht : t.WellFormed) {c : Condition} {mask : List Bool}
    (h : c.mask t = .ok mask) : c.check t.names = .ok () := by
  rw [rowwise ht c, Outcome.map_eq_ok] at h
  obtain ⟨_, hcheck, -⟩ := h
  exact hcheck

private theorem filter_comm (ht : t.WellFormed) {c d : Condition} (hc : c.check t.names = .ok ())
    (hd : d.check t.names = .ok ()) :
    ∃ u, ((c.filter t).bind fun u => d.filter u) = .ok u ∧
      ((d.filter t).bind fun u => c.filter u) = .ok u := by
  rw [filter_bind_filter ht, filter_bind_filter ht, hc, hd]
  refine ⟨_, rfl, ?_⟩
  simp only [Bool.and_comm]
  rfl

/-- The mask of selected rows is the mask of all rows at their positions. -/
theorem mask_takeRows_eq_map (ht : t.WellFormed) (c : Condition) {rows : List Nat}
    (hrows : ∀ i ∈ rows, i < t.rowCount) :
    c.mask (t.takeRows rows) =
      (c.mask t).map fun mask => rows.map fun i => mask[i]?.getD false := by
  rw [mask_takeRows ht, rowwise ht c]
  cases c.check t.names with
  | error fault => rfl
  | ok _ =>
    simp only [Except.map, Except.ok.injEq]
    exact List.map_congr_left fun i hi => by simp [hrows i hi]

private theorem mask_eq_error (ht : t.WellFormed) {c : Condition} {fault : ConditionFault} :
    c.mask t = .error fault ↔ c.check t.names = .error fault := by
  rw [rowwise ht c]
  cases c.check t.names <;> simp [Except.map]

/-- The operation filters its input by the condition that the document stands for. -/
theorem runFilter_eq {x : Context} {node : Json} {c : Condition} (hinput : x.inputs = [t])
    (hread : ofJson node = .ok c) :
    Operation.runFilter x node = (c.filter t).mapError .condition := by
  have hrun : Operation.runFilter x node =
      (c.mask t).mapError .condition >>= fun mask => .ok (t.filterMask mask) := by
    rw [Operation.runFilter, Context.input, hinput, hread]
    rfl
  rw [hrun, filter]
  cases c.mask t <;> rfl

/-- Conditions hold row by row, so filters are refused alike on any rows and fuse into one. -/
theorem filters_fuse (ht : t.WellFormed) :
    (∀ (c : Condition) (rows : List Nat), (∀ i ∈ rows, i < t.rowCount) →
      c.mask (t.takeRows rows) =
        (c.mask t).map fun mask => rows.map fun i => mask[i]?.getD false) ∧
    (∀ (c : Condition) (mask : List Bool), c.mask t = .ok mask → mask.length = t.rowCount) ∧
    (∀ (c : Condition) (fault : ConditionFault),
      c.mask t = .error fault ↔ c.check t.names = .error fault) ∧
    (∀ c d : Condition, ((c.filter t).bind fun u => d.filter u) = (all [c, d]).filter t) ∧
    (∀ c : Condition, ((c.filter t).bind fun u => c.filter u) = c.filter t) ∧
    (∀ (c d : Condition) (first second : List Bool), c.mask t = .ok first →
      d.mask t = .ok second → ∃ u, ((c.filter t).bind fun u => d.filter u) = .ok u ∧
        ((d.filter t).bind fun u => c.filter u) = .ok u) ∧
    ∀ (x : Context) (first second : Json) (c d : Condition), x.inputs = [t] →
      ofJson first = .ok c → ofJson second = .ok d →
        ((Operation.runFilter x first).bind fun u =>
            Operation.runFilter { x with inputs := [u] } second) =
          Operation.runFilter x (.arr [first, second]) := by
  refine ⟨fun c rows hrows => mask_takeRows_eq_map ht c hrows, fun c mask => length_mask ht c,
    fun c fault => mask_eq_error ht, fun c d => (filter_pair ht c d).symm, filter_twice ht,
    fun c d first second hc hd => filter_comm ht (check_of_mask ht hc) (check_of_mask ht hd), ?_⟩
  intro x first second c d hinput hc hd
  rw [runFilter_eq hinput hc, runFilter_eq hinput (ofJson_pair hc hd), filter_pair ht]
  cases c.filter t with
  | error fault => rfl
  | ok u => exact runFilter_eq rfl hd

end

def speeches : Table :=
  ⟨[⟨"party", .text, [.text "Lab", .text "Con", .null]⟩,
    ⟨"words", .numeric, [.int 120, .null, .int 75]⟩], 3⟩

def otherParty : Condition := .clause ⟨"party", .notEq, .str "Lab"⟩

def counted : Condition := .clause ⟨"words", .present, .null⟩

def otherPartyNode : Json :=
  .obj [("column", .str "party"), ("op", .str "!="), ("value", .str "Lab")]

def countedNode : Json := .obj [("column", .str "words"), ("op", .str "notnull")]

private theorem written_otherParty : Written otherParty otherPartyNode :=
  .flat (.given "value" (by decide))
    ⟨"op", by decide, "!=", by decide +kernel, .swap _ _ _⟩

private theorem written_counted : Written counted countedNode :=
  .flat (.omitted rfl (.inr rfl)) ⟨"op", by decide, "notnull", by decide +kernel, .swap _ _ _⟩

def countedElsewhere : Table := speeches.takeRows [2]

theorem filters_fuse_sample :
    speeches.WellFormed ∧
    otherParty.mask (speeches.takeRows [2, 0, 2]) = .ok [true, false, true] ∧
    ((otherParty.filter speeches).bind fun u => counted.filter u) = .ok countedElsewhere ∧
    ((counted.filter speeches).bind fun u => otherParty.filter u) = .ok countedElsewhere ∧
    ∀ store fetcher, Operation.runFilter ⟨"elsewhere", [speeches], store, fetcher⟩
      (.arr [otherPartyNode, countedNode]) = .ok countedElsewhere := by
  have ht : speeches.WellFormed := ⟨by decide, by decide⟩
  obtain ⟨hmask, -, -, -, -, hcomm, hrun⟩ := filters_fuse ht
  have hfirst : otherParty.mask speeches = .ok [false, true, true] := rfl
  have hsecond : counted.mask speeches = .ok [true, false, true] := rfl
  have hread : ofJson otherPartyNode = .ok otherParty :=
    ofJson_of_written (listsMembers_clause.mpr nofun) written_otherParty
  have hread' : ofJson countedNode = .ok counted :=
    ofJson_of_written (listsMembers_clause.mpr nofun) written_counted
  have hboth : ((otherParty.filter speeches).bind fun u => counted.filter u) =
      .ok countedElsewhere := rfl
  refine ⟨ht, ?_, hboth, ?_, fun store fetcher => ?_⟩
  · rw [hmask otherParty [2, 0, 2] (by decide), hfirst]
    rfl
  · obtain ⟨u, hu, hswapped⟩ := hcomm otherParty counted _ _ hfirst hsecond
    rw [hswapped, ← hu, hboth]
  · have hrest : ∀ u, Operation.runFilter ⟨"elsewhere", [u], store, fetcher⟩ countedNode =
        (counted.filter u).mapError .condition := fun u => runFilter_eq rfl hread'
    rw [← hrun _ _ _ otherParty counted rfl hread hread', runFilter_eq rfl hread]
    simp only [hrest]
    rfl

end Condition

end RollCall
