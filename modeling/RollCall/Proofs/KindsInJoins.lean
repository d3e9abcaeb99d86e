import RollCall.Proofs.ColumnKinds
import RollCall.Proofs.Strict.Join

/-!
# Kinds in joins

A join is the one operation that puts cells under the kind of other cells: a right row without a
left one gives its key cells to the key columns of the left table. So the columns of a join hold
what their kinds say exactly if these key cells fit.
-/
namespace RollCall

def Key.isNumber : Key → Bool
  | .int _ | .number _ => true
  | _ => false

def Key.isBool : Key → Bool
  | .bool _ => true
  | _ => false

/-- What kinds a cell fits is told by its key. -/
theorem ColumnKind.admits_eq {c : Cell} (hc : c.isMissing = false) (k : ColumnKind) :
    k.admits c =
      match k with
      | .numeric => c.key.isNumber
      | .boolean => c.key.isBool
      | _ => true := by
  cases c with
  | null => cases hc
  | float x =>
    have hnan : x.isNaN = false := hc
    have hkey : (Cell.keyOfFloat x).isNumber = true ∧ (Cell.keyOfFloat x).isBool = false := by
      rw [Cell.keyOfFloat, hnan]
      simp only [Bool.false_eq_true, if_false]
      split <;> exact ⟨rfl, rfl⟩
    cases k with
    | numeric => exact hkey.1.symm
    | boolean => exact hnan.trans hkey.2.symm
    | _ => rfl
  | _ => cases k <;> rfl

/-- Cells with one key fit the same kinds. -/
theorem ColumnKind.admits_eq_of_key_eq {a b : Cell} (ha : a.isMissing = false)
    (hb : b.isMissing = false) (h : a.key = b.key) (k : ColumnKind) : k.admits a = k.admits b := by
  rw [admits_eq ha, admits_eq hb, h]

namespace Join

/-! ### Pairs of rows -/

/-- What holds of a pair if one thing holds of left rows and another of right rows alone. -/
def PairHolds (onLeft onRight : Nat → Prop) : RowPair → Prop
  | (some l, _) => onLeft l
  | (none, some r) => onRight r
  | (none, none) => True

section Pairs

variable {n m : Nat} {matching : Nat → Nat → Bool} {onLeft onRight : Nat → Prop}

/-- If what is asked of rows that match is the same, a right join asks it of all right rows. -/
theorem forall_nestedLoop_right_iff
    (hmatch : ∀ l < n, ∀ r < m, matching l r → (onLeft l ↔ onRight r)) :
    (∀ p ∈ nestedLoop .right n m matching, PairHolds onLeft onRight p) ↔ ∀ r < m, onRight r := by
  constructor
  · intro h r hr
    by_cases hany : ∃ l < n, matching l r
    · obtain ⟨l, hl, hlr⟩ := hany
      exact (hmatch l hl r hr hlr).mp (h _ (some_mem_nestedLoop.mpr ⟨hl, hr, hlr⟩))
    · have halone : ∀ l < n, ¬matching l r := fun l hl hlr => hany ⟨l, hl, hlr⟩
      exact h _ (right_alone_mem_nestedLoop.mpr ⟨.inl rfl, hr, halone⟩)
  · intro h p hp
    obtain ⟨r, hr, (rfl | ⟨l, hl, hlr, rfl⟩)⟩ := snd_of_mem_rightLoop hp
    · exact h r hr
    · exact (hmatch l hl r hr hlr).mpr (h r hr)

/-- An outer join asks it of all rows. -/
theorem forall_nestedLoop_outer_iff
    (hmatch : ∀ l < n, ∀ r < m, matching l r → (onLeft l ↔ onRight r)) :
    (∀ p ∈ nestedLoop .outer n m matching, PairHolds onLeft onRight p) ↔
      (∀ l < n, onLeft l) ∧ ∀ r < m, onRight r := by
  constructor
  · intro h
    have hleft : ∀ l < n, onLeft l := by
      intro l hl
      by_cases hany : ∃ r < m, matching l r
      · obtain ⟨r, hr, hlr⟩ := hany
        exact h _ (some_mem_nestedLoop.mpr ⟨hl, hr, hlr⟩)
      · have halone : ∀ r < m, ¬matching l r := fun r hr hlr => hany ⟨r, hr, hlr⟩
        exact h _ (left_alone_mem_nestedLoop.mpr ⟨rfl, hl, halone⟩)
    refine ⟨hleft, fun r hr => ?_⟩
    by_cases hany : ∃ l < n, matching l r
    · obtain ⟨l, hl, hlr⟩ := hany
      exact (hmatch l hl r hr hlr).mp (hleft l hl)
    · have halone : ∀ l < n, ¬matching l r := fun l hl hlr => hany ⟨l, hl, hlr⟩
      exact h _ (right_alone_mem_nestedLoop.mpr ⟨.inr rfl, hr, halone⟩)
  · rintro ⟨hleft, hright⟩ p hp
    rcases cases_of_mem_nestedLoop hp with ⟨l, hl, rfl⟩ | ⟨r, hr, rfl⟩ | ⟨l, hl, r, hr, -, rfl⟩
    · exact hleft l hl
    · exact hright r hr
    · exact hleft l hl

/-- A join that keeps no lone right row asks it of left rows only. -/
theorem forall_nestedLoop_of_left {kind : JoinKind} (hkind : kind = .inner ∨ kind = .left)
    (h : ∀ l < n, onLeft l) : ∀ p ∈ nestedLoop kind n m matching, PairHolds onLeft onRight p := by
  intro p hp
  rcases cases_of_mem_nestedLoop hp with ⟨l, hl, rfl⟩ | ⟨r, -, rfl⟩ | ⟨l, hl, r, -, -, rfl⟩
  · exact h l hl
  · have hlone := (right_alone_mem_nestedLoop.mp hp).1
    rcases hkind with rfl | rfl <;> simp at hlone
  · exact h l hl

end Pairs

/-! ### Key columns -/

variable {left right t u : Table} {on : List String} {kind : JoinKind}
  {suffixes : String × String} {name : String} {c d : Column}

/-- The key cells of the right table fit the key columns of the left one. -/
def KeysFit (left right : Table) (on : List String) : Prop :=
  ∀ name ∈ on, ∀ c ∈ left.column? name, ∀ d ∈ right.column? name,
    ∀ cell ∈ d.cells, c.kind.admits cell

instance (left right : Table) (on : List String) : Decidable (KeysFit left right on) :=
  inferInstanceAs (Decidable (∀ name ∈ on, ∀ c ∈ left.column? name, ∀ d ∈ right.column? name,
    ∀ cell ∈ d.cells, c.kind.admits cell))

def KeysHold (t : Table) (on : List String) : Prop :=
  ∀ name ∈ on, ∀ c ∈ t.column? name, c.HoldsKind

def OthersHold (t : Table) (on : List String) : Prop :=
  ∀ c ∈ t.columns, c.name ∉ on → c.HoldsKind

theorem othersHold_of_holdsKinds (h : t.HoldsKinds) : OthersHold t on :=
  fun c hc _ => h c hc

private theorem holdsKinds_iff (ht : t.WellFormed) (hothers : OthersHold t on) :
    t.HoldsKinds ↔ KeysHold t on := by
  constructor
  · intro h name _ c hc
    exact h.of_column? hc
  · intro h c hc
    by_cases hon : c.name ∈ on
    · exact h c.name hon c (ht.column?_eq hc)
    · exact hothers c hc hon

theorem forall_mem_cells_iff (ht : t.WellFormed) (hc : t.column? name = some c)
    (P : Cell → Prop) :
    (∀ cell ∈ c.cells, P cell) ↔ ∀ i < t.rowCount, P ((t.cell? i name).getD .null) := by
  rw [List.forall_mem_iff_getElem, ← ht.length_of_column? hc]
  refine forall₂_congr fun i hi => ?_
  rw [Table.cell?, hc, Option.bind_some, List.getElem?_eq_getElem hi, Option.getD_some]

/-- Key cells of rows that match fit the same kinds. -/
theorem admits_of_rowsMatch {l r : Nat} (h : rowsMatch left right on l r) (hname : name ∈ on)
    (k : ColumnKind) :
    k.admits ((left.cell? l name).getD .null) = k.admits ((right.cell? r name).getD .null) := by
  have hcells := List.all_eq_true.mp h name hname
  cases hleft : left.cell? l name with
  | none => simp [hleft, cellsMatch] at hcells
  | some a =>
    cases hright : right.cell? r name with
    | none => simp [hright, cellsMatch] at hcells
    | some b =>
      simp only [hleft, hright, cellsMatch, Bool.and_eq_true, Bool.not_eq_true',
        decide_eq_true_eq] at hcells
      exact ColumnKind.admits_eq_of_key_eq hcells.1.1 hcells.1.2 hcells.2 k

private theorem admits_keyCell_iff (k : ColumnKind) (p : RowPair) :
    k.admits (keyCell left right name p) ↔
      PairHolds (fun l => k.admits ((left.cell? l name).getD .null))
        (fun r => k.admits ((right.cell? r name).getD .null)) p := by
  obtain ⟨_ | l, _ | r⟩ := p
  · simp [keyCell, PairHolds]
  all_goals rfl

theorem columns_of_joinPair (hl : left.WellFormed) (hr : right.WellFormed)
    (h : joinPair left right on kind suffixes = .ok t) :
    t.columns = joinedColumns left right on suffixes
      (nestedLoop kind left.rowCount right.rowCount (rowsMatch left right on)) := by
  obtain ⟨leftColumns, rightColumns, hleft, hright, htable⟩ := joinPair_eq_ok h
  rw [rowPairs_eq_nestedLoop hl hr hleft hright] at htable
  exact (Table.ofColumns_eq_ok.mp htable).2.1

theorem column?_isSome_of_joinPair (h : joinPair left right on kind suffixes = .ok t)
    (hname : name ∈ on) : (left.column? name).isSome ∧ (right.column? name).isSome := by
  obtain ⟨leftColumns, rightColumns, hleft, hright, -⟩ := joinPair_eq_ok h
  exact ⟨column?_isSome_of_keyColumns hleft name hname,
    column?_isSome_of_keyColumns hright name hname⟩

theorem rename_of_key (hname : name ∈ on) (suffix : String) :
    rename (sharedNames left right on) suffix name = name := by
  have hshared : name ∉ sharedNames left right on := by
    intro hshared
    have hnot := (List.mem_filter.mp hshared).2
    simp [hname] at hnot
  rw [rename, if_neg hshared]

/-- A key column of a join has the kind of the left one and the key cells of the pairs. -/
theorem column?_of_joinPair (hl : left.WellFormed) (hr : right.WellFormed)
    (h : joinPair left right on kind suffixes = .ok t) (hname : name ∈ on)
    (hc : left.column? name = some c) :
    t.column? name = some { c with
      cells := (nestedLoop kind left.rowCount right.rowCount (rowsMatch left right on)).map
        (keyCell left right name) } := by
  have hmem := Table.mem_of_column? hc
  obtain rfl := Table.name_of_column? hc
  have hcolumn : { c with
      cells := (nestedLoop kind left.rowCount right.rowCount (rowsMatch left right on)).map
        (keyCell left right c.name) } ∈ t.columns := by
    rw [columns_of_joinPair hl hr h, joinedColumns]
    refine List.mem_append_left _ (List.mem_map.mpr ⟨c, hmem, ?_⟩)
    rw [rename_of_key hname, if_pos hname, keyCells_eq hl hmem]
  obtain ⟨_, _, -, -, htable⟩ := joinPair_eq_ok h
  exact (Table.wellFormed_of_ofColumns htable).column?_eq hcolumn

private theorem othersHold_of_joinPair (hl : left.WellFormed) (hr : right.WellFormed)
    (hleft : OthersHold left on) (hright : OthersHold right on)
    (h : joinPair left right on kind suffixes = .ok t) : OthersHold t on := by
  intro c hc hon
  rw [columns_of_joinPair hl hr h] at hc
  rcases List.mem_append.mp hc with hc | hc
  · obtain ⟨d, hd, rfl⟩ := List.mem_map.mp hc
    by_cases hkey : d.name ∈ on
    · simp [rename_of_key hkey, hkey] at hon
    · simp only [hkey, if_false]
      exact (hleft d hd hkey).pick? _
  · obtain ⟨d, hd, rfl⟩ := List.mem_map.mp hc
    obtain ⟨hd, hkey⟩ := List.mem_filter.mp hd
    exact (hright d hd (of_decide_eq_true hkey)).pick? _

/-- What fits the left table fits the join. -/
theorem keysFit_joinPair_iff (hl : left.WellFormed) (hr : right.WellFormed)
    (h : joinPair left right on kind suffixes = .ok t) : KeysFit t u on ↔ KeysFit left u on := by
  refine forall₂_congr fun name hname => ?_
  obtain ⟨c, hc⟩ := Option.isSome_iff_exists.mp (column?_isSome_of_joinPair h hname).1
  simp [column?_of_joinPair hl hr h hname hc, hc]

/-- The key columns of a join hold what their kinds say exactly if the key cells of its pairs fit
those of the left table. -/
theorem keysHold_joinPair_iff (hl : left.WellFormed) (hr : right.WellFormed)
    (h : joinPair left right on kind suffixes = .ok t) :
    KeysHold t on ↔ ∀ name ∈ on, ∀ c ∈ left.column? name,
      ∀ p ∈ nestedLoop kind left.rowCount right.rowCount (rowsMatch left right on),
        PairHolds (fun l => c.kind.admits ((left.cell? l name).getD .null))
          (fun r => c.kind.admits ((right.cell? r name).getD .null)) p := by
  refine forall₂_congr fun name hname => ?_
  obtain ⟨c, hc⟩ := Option.isSome_iff_exists.mp (column?_isSome_of_joinPair h hname).1
  simp only [column?_of_joinPair hl hr h hname hc, hc, Option.mem_some_iff, forall_eq',
    Column.HoldsKind, List.forall_mem_map, admits_keyCell_iff]

private theorem keysHold_right_iff (hl : left.WellFormed) (hr : right.WellFormed)
    (h : joinPair left right on .right suffixes = .ok t) :
    KeysHold t on ↔ KeysFit left right on := by
  rw [keysHold_joinPair_iff hl hr h]
  refine forall₂_congr fun name hname => forall₂_congr fun c hc => ?_
  obtain ⟨d, hd⟩ := Option.isSome_iff_exists.mp (column?_isSome_of_joinPair h hname).2
  rw [forall_nestedLoop_right_iff fun l _ r _ hlr => by rw [admits_of_rowsMatch hlr hname]]
  simp only [hd, Option.mem_some_iff, forall_eq']
  exact (forall_mem_cells_iff hr hd fun cell => c.kind.admits cell).symm

private theorem keysHold_outer_iff (hl : left.WellFormed) (hr : right.WellFormed)
    (h : joinPair left right on .outer suffixes = .ok t) :
    KeysHold t on ↔ KeysHold left on ∧ KeysFit left right on := by
  rw [keysHold_joinPair_iff hl hr h, KeysHold, KeysFit, ← forall₂_and]
  refine forall₂_congr fun name hname => ?_
  rw [← forall₂_and]
  refine forall₂_congr fun c hc => ?_
  obtain ⟨d, hd⟩ := Option.isSome_iff_exists.mp (column?_isSome_of_joinPair h hname).2
  rw [forall_nestedLoop_outer_iff fun l _ r _ hlr => by rw [admits_of_rowsMatch hlr hname]]
  simp only [hd, Option.mem_some_iff, forall_eq']
  exact and_congr (forall_mem_cells_iff hl hc fun cell => c.kind.admits cell).symm
    (forall_mem_cells_iff hr hd fun cell => c.kind.admits cell).symm

private theorem KeysHold.joinPair (hl : left.WellFormed) (hr : right.WellFormed)
    (hkind : kind = .inner ∨ kind = .left) (hleft : KeysHold left on)
    (h : joinPair left right on kind suffixes = .ok t) : KeysHold t on := by
  rw [keysHold_joinPair_iff hl hr h]
  intro name hname c hc
  refine forall_nestedLoop_of_left hkind ?_
  exact (forall_mem_cells_iff hl hc fun cell => c.kind.admits cell).mp (hleft name hname c hc)

/-! ### Tables joined in turn -/

/-- The key cells that come to stand under the kinds of the first table fit them: those of the last
table in a right join, and those of all tables in an outer join. -/
def InputsFit (on : List String) (kind : JoinKind) : List Table → Prop
  | [] => True
  | first :: rest =>
    match kind with
    | .inner | .left => True
    | .right => ∀ u ∈ rest.getLast?, KeysFit first u on
    | .outer => ∀ u ∈ rest, KeysFit first u on

instance (on : List String) (kind : JoinKind) (inputs : List Table) :
    Decidable (InputsFit on kind inputs) :=
  match inputs, kind with
  | [], _ => .isTrue trivial
  | _ :: _, .inner | _ :: _, .left => .isTrue trivial
  | first :: rest, .right =>
    inferInstanceAs (Decidable (∀ u ∈ rest.getLast?, KeysFit first u on))
  | first :: rest, .outer => inferInstanceAs (Decidable (∀ u ∈ rest, KeysFit first u on))

theorem inputsFit_of_kind (hkind : kind = .inner ∨ kind = .left) (inputs : List Table) :
    InputsFit on kind inputs := by
  cases inputs with
  | nil => trivial
  | cons first rest => rcases hkind with rfl | rfl <;> trivial

section Merging

variable {rest : List Table}

private theorem wellFormed_foldlM (hl : left.WellFormed)
    (h : rest.foldlM (fun merged u => joinPair merged u on kind suffixes) left = .ok t) :
    t.WellFormed :=
  Outcome.foldlM_keeps (fun _ _ _ _ hpair _ => wellFormed_of_joinPair hpair) h hl

private theorem othersHold_foldlM (hl : left.WellFormed) (hleft : OthersHold left on)
    (hrest : ∀ u ∈ rest, u.WellFormed ∧ u.HoldsKinds)
    (h : rest.foldlM (fun merged u => joinPair merged u on kind suffixes) left = .ok t) :
    OthersHold t on := by
  refine (Outcome.foldlM_keeps (P := fun u => u.WellFormed ∧ OthersHold u on)
    (fun u hu merged merged' hpair hmerged => ⟨wellFormed_of_joinPair hpair, ?_⟩) h
    ⟨hl, hleft⟩).2
  obtain ⟨hwell, hkinds⟩ := hrest u hu
  exact othersHold_of_joinPair hmerged.1 hwell hmerged.2 (othersHold_of_holdsKinds hkinds) hpair

/-- In right joins one after another only the rows of the last table stay. -/
theorem keysHold_foldlM_right_iff (hl : left.WellFormed)
    (hrest : ∀ u ∈ rest, u.WellFormed) (hne : rest ≠ [])
    (h : rest.foldlM (fun merged u => joinPair merged u on .right suffixes) left = .ok t) :
    KeysHold t on ↔ ∀ u ∈ rest.getLast?, KeysFit left u on := by
  induction rest generalizing left with
  | nil => exact absurd rfl hne
  | cons u rest ih =>
    obtain ⟨hu, hrest⟩ := List.forall_mem_cons.mp hrest
    rw [List.foldlM_cons, Outcome.bind_eq_ok] at h
    obtain ⟨merged, hmerged, h⟩ := h
    cases rest with
    | nil =>
      rw [List.foldlM_nil, Outcome.pure_eq_ok] at h
      subst h
      simpa using keysHold_right_iff hl hu hmerged
    | cons v rest =>
      rw [ih (wellFormed_of_joinPair hmerged) hrest (List.cons_ne_nil v rest) h,
        List.getLast?_cons_cons]
      exact forall₂_congr fun w _ => keysFit_joinPair_iff hl hu hmerged

/-- In outer joins all rows stay. -/
theorem keysHold_foldlM_outer_iff (hl : left.WellFormed) (hrest : ∀ u ∈ rest, u.WellFormed)
    (h : rest.foldlM (fun merged u => joinPair merged u on .outer suffixes) left = .ok t) :
    KeysHold t on ↔ KeysHold left on ∧ ∀ u ∈ rest, KeysFit left u on := by
  induction rest generalizing left with
  | nil =>
    rw [List.foldlM_nil, Outcome.pure_eq_ok] at h
    subst h
    simp
  | cons u rest ih =>
    obtain ⟨hu, hrest⟩ := List.forall_mem_cons.mp hrest
    rw [List.foldlM_cons, Outcome.bind_eq_ok] at h
    obtain ⟨merged, hmerged, h⟩ := h
    have hfit : (∀ v ∈ rest, KeysFit merged v on) ↔ ∀ v ∈ rest, KeysFit left v on :=
      forall₂_congr fun v _ => keysFit_joinPair_iff hl hu hmerged
    rw [ih (wellFormed_of_joinPair hmerged) hrest h, keysHold_outer_iff hl hu hmerged, hfit,
      and_assoc, List.forall_mem_cons]

private theorem keysHold_foldlM (hkind : kind = .inner ∨ kind = .left) (hl : left.WellFormed)
    (hrest : ∀ u ∈ rest, u.WellFormed) (hleft : KeysHold left on)
    (h : rest.foldlM (fun merged u => joinPair merged u on kind suffixes) left = .ok t) :
    KeysHold t on :=
  (Outcome.foldlM_keeps (P := fun u => u.WellFormed ∧ KeysHold u on)
    (fun u hu _ _ hpair hmerged =>
      ⟨wellFormed_of_joinPair hpair, hmerged.2.joinPair hmerged.1 (hrest u hu) hkind hpair⟩)
    h ⟨hl, hleft⟩).2

end Merging

/-- The kinds of a join of tables fit exactly if the key cells that come under other kinds do. -/
theorem holdsKinds_joinAll_iff {inputs : List Table} (hinputs : ∀ u ∈ inputs, u.WellFormed)
    (hkinds : ∀ u ∈ inputs, u.HoldsKinds) (h : joinAll on kind suffixes inputs = .ok t) :
    t.HoldsKinds ↔ InputsFit on kind inputs := by
  unfold joinAll at h
  split at h
  · next first second rest =>
    split at h
    · cases h
    · obtain ⟨hfirst, hrest⟩ := List.forall_mem_cons.mp hinputs
      obtain ⟨hfirstKinds, hrestKinds⟩ := List.forall_mem_cons.mp hkinds
      have hothers : OthersHold t on :=
        othersHold_foldlM hfirst (othersHold_of_holdsKinds hfirstKinds)
          (fun u hu => ⟨hrest u hu, hrestKinds u hu⟩) h
      have hkeys : KeysHold first on :=
        (holdsKinds_iff hfirst (othersHold_of_holdsKinds hfirstKinds)).mp hfirstKinds
      rw [holdsKinds_iff (wellFormed_foldlM hfirst h) hothers]
      cases kind with
      | inner => exact iff_of_true (keysHold_foldlM (.inl rfl) hfirst hrest hkeys h) trivial
      | left => exact iff_of_true (keysHold_foldlM (.inr rfl) hfirst hrest hkeys h) trivial
      | right => exact keysHold_foldlM_right_iff hfirst hrest (List.cons_ne_nil second rest) h
      | outer => rw [keysHold_foldlM_outer_iff hfirst hrest h, and_iff_right hkeys, InputsFit]
  · split at h <;> cases h

end Join
end RollCall
