import RollCall.Proofs.NestedLoop
import RollCall.Proofs.Tables

/-!
# The rows of a join

A join has one row for each pair of the nested loop over the rows of both tables, in its order: the
cells of the left columns, then those of the right columns that are no keys.
-/
namespace RollCall

theorem Table.WellFormed.cell?_eq {t : Table} (ht : t.WellFormed) {c : Column}
    (hc : c ∈ t.columns) (row : Nat) : t.cell? row c.name = c.cells[row]? := by
  rw [Table.cell?, ht.column?_eq hc]
  rfl

namespace Join

/-- Two key cells match if neither is missing and their keys are equal. -/
def cellsMatch : Option Cell → Option Cell → Bool
  | some a, some b => !a.isMissing && !b.isMissing && a.key = b.key
  | _, _ => false

/-- Two rows match if their cells in every key column do. -/
def rowsMatch (left right : Table) (on : List String) (l r : Nat) : Bool :=
  on.all fun name => cellsMatch (left.cell? l name) (right.cell? r name)

def keyCell (left right : Table) (name : String) : RowPair → Cell
  | (some l, _) => (left.cell? l name).getD .null
  | (none, some r) => (right.cell? r name).getD .null
  | (none, none) => .null

def copiedCell (t : Table) (name : String) (row : Option Nat) : Cell :=
  (row.bind fun i => t.cell? i name).getD .null

def pairRow (left right : Table) (on : List String) (p : RowPair) : List Cell :=
  (left.columns.map fun c =>
      if c.name ∈ on then keyCell left right c.name p else copiedCell left c.name p.1) ++
    (right.columns.filter fun c => c.name ∉ on).map fun c => copiedCell right c.name p.2

variable {left right t : Table} {on : List String} {kind : JoinKind} {suffixes : String × String}

private theorem keysMatch_cons (c d : Column) (cs ds : List Column) (l r : Nat) :
    keysMatch (rowMatchKey (c :: cs) l) (rowMatchKey (d :: ds) r) =
      (cellsMatch (some (c.cells[l]?.getD .null)) (some (d.cells[r]?.getD .null)) &&
        keysMatch (rowMatchKey cs l) (rowMatchKey ds r)) := by
  simp only [rowMatchKey, rowKey, List.any_cons, List.map_cons, cellsMatch]
  generalize c.cells[l]?.getD .null = a
  generalize d.cells[r]?.getD .null = b
  cases a.isMissing <;> cases b.isMissing <;>
    cases cs.any (fun c => (c.cells[l]?.getD .null).isMissing) <;>
    cases ds.any (fun c => (c.cells[r]?.getD .null).isMissing) <;>
    simp [keysMatch]

theorem forall₂_keyColumns {side : Side} {columns : List Column}
    (h : keyColumns t on side = .ok columns) :
    List.Forall₂ (fun name c => t.column? name = some c) on columns := by
  refine (Outcome.mapM_eq_ok.mp h).imp fun name c hc => ?_
  split at hc
  · next d hd =>
    cases hc
    exact hd
  · cases hc

theorem mem_of_keyColumns {side : Side} {columns : List Column}
    (h : keyColumns t on side = .ok columns) : ∀ c ∈ columns, c ∈ t.columns := by
  intro c hc
  obtain ⟨name, -, hname⟩ := Outcome.exists_of_mem_mapM h hc
  split at hname
  · next d hd =>
    cases hname
    exact Table.mem_of_column? hd
  · cases hname

/-- The keys of two rows match exactly when the rows do. -/
theorem keysMatch_eq_rowsMatch (hl : left.WellFormed) (hr : right.WellFormed)
    {leftColumns rightColumns : List Column}
    (hleft : List.Forall₂ (fun name c => left.column? name = some c) on leftColumns)
    (hright : List.Forall₂ (fun name c => right.column? name = some c) on rightColumns)
    {l r : Nat} (hlrow : l < left.rowCount) (hrrow : r < right.rowCount) :
    keysMatch (rowMatchKey leftColumns l) (rowMatchKey rightColumns r) =
      rowsMatch left right on l r := by
  induction hleft generalizing rightColumns with
  | nil =>
    cases hright
    rfl
  | @cons name c on cs hc _ ih =>
    cases hright with
    | @cons _ d _ ds hd hright =>
      have hcell : left.cell? l name = some (c.cells[l]?.getD .null) := by
        rw [Table.cell?, hc, Option.bind_some,
          List.getElem?_eq_getElem (by rw [hl.length_of_column? hc]; exact hlrow)]
        rfl
      have dcell : right.cell? r name = some (d.cells[r]?.getD .null) := by
        rw [Table.cell?, hd, Option.bind_some,
          List.getElem?_eq_getElem (by rw [hr.length_of_column? hd]; exact hrrow)]
        rfl
      rw [keysMatch_cons, ih hright]
      simp only [rowsMatch, List.all_cons, hcell, dcell]

theorem nestedLoop_congr {n m : Nat} {matching matching' : Nat → Nat → Bool}
    (h : ∀ l < n, ∀ r < m, matching l r = matching' l r) :
    nestedLoop kind n m matching = nestedLoop kind n m matching' := by
  have hleft : ∀ keepsLeft, leftLoop keepsLeft n m matching = leftLoop keepsLeft n m matching' := by
    intro keepsLeft
    refine List.flatMap_congr fun l hl => ?_
    rw [List.filter_congr fun r hr => h l (List.mem_range.mp hl) r (List.mem_range.mp hr)]
  cases kind with
  | inner => exact hleft false
  | left => exact hleft true
  | right =>
    refine List.flatMap_congr fun r hr => ?_
    rw [List.filter_congr fun l hl => h l (List.mem_range.mp hl) r (List.mem_range.mp hr)]
  | outer =>
    rw [nestedLoop, nestedLoop, hleft true]
    congr 2
    refine List.filter_congr fun r hr => ?_
    congr 1
    rw [Bool.eq_iff_iff, List.any_eq_true, List.any_eq_true]
    refine exists_congr fun l => and_congr_right fun hl => ?_
    rw [h l (List.mem_range.mp hl) r (List.mem_range.mp hr)]

/-- The pairs that a join of two tables finds. -/
theorem rowPairs_eq_nestedLoop (hl : left.WellFormed) (hr : right.WellFormed)
    {leftColumns rightColumns : List Column} (hleft : keyColumns left on .left = .ok leftColumns)
    (hright : keyColumns right on .right = .ok rightColumns) :
    rowPairs kind (matchKeys left.rowCount leftColumns) (matchKeys right.rowCount rightColumns) =
      nestedLoop kind left.rowCount right.rowCount (rowsMatch left right on) := by
  rw [matchKeys_eq fun c hc => hl.length_eq c (mem_of_keyColumns hleft c hc),
    matchKeys_eq fun c hc => hr.length_eq c (mem_of_keyColumns hright c hc), rowPairs_eq]
  refine nestedLoop_congr fun l hlrow r hrrow => ?_
  exact keysMatch_eq_rowsMatch hl hr (forall₂_keyColumns hleft) (forall₂_keyColumns hright)
    hlrow hrrow

private theorem length_keyCells (c : Column) (d : Option Column) (pairs : List RowPair) :
    (keyCells c d pairs).length = pairs.length := by
  simp [keyCells]

theorem length_of_mem_joinedColumns {pairs : List RowPair} {c : Column}
    (h : c ∈ joinedColumns left right on suffixes pairs) : c.length = pairs.length := by
  rcases List.mem_append.mp h with h | h
  · obtain ⟨d, -, rfl⟩ := List.mem_map.mp h
    dsimp only [Column.length]
    split
    · exact length_keyCells d _ pairs
    · simp
  · obtain ⟨d, -, rfl⟩ := List.mem_map.mp h
    simp [Column.length]

private theorem pick?_getD (ht : t.WellFormed) {c : Column} (hc : c ∈ t.columns)
    {rows : List (Option Nat)} {i : Nat} (hi : i < rows.length) :
    (c.pick? rows)[i]?.getD .null = copiedCell t c.name rows[i] := by
  rw [Column.pick?_eq, List.getElem?_map, List.getElem?_eq_getElem hi]
  simp [copiedCell, ht.cell?_eq hc]

theorem keyCells_eq (hl : left.WellFormed) {c : Column} (hc : c ∈ left.columns)
    (pairs : List RowPair) :
    keyCells c (right.column? c.name) pairs = pairs.map (keyCell left right c.name) := by
  refine List.map_congr_left fun p _ => ?_
  rcases p with ⟨_ | l, _ | r⟩
  · rfl
  · simp only [keyCell, Table.cell?]
    cases right.column? c.name <;> simp
  · simp [keyCell, hl.cell?_eq hc]
  · simp [keyCell, hl.cell?_eq hc]

/-- What the columns of a join hold at a position is the output row of the pair there. -/
theorem joinedColumns_at (hl : left.WellFormed) (hr : right.WellFormed) {pairs : List RowPair}
    {i : Nat} (hi : i < pairs.length) :
    (joinedColumns left right on suffixes pairs).map (fun c => c.cells[i]?.getD .null) =
      pairRow left right on pairs[i] := by
  simp only [joinedColumns, pairRow, List.map_append, List.map_map, Function.comp_def]
  congr 1
  · refine List.map_congr_left fun c hc => ?_
    split
    · rw [keyCells_eq hl hc, List.getElem?_map, List.getElem?_eq_getElem hi]
      rfl
    · rw [pick?_getD hl hc (by simpa using hi), List.getElem_map]
  · refine List.map_congr_left fun c hc => ?_
    have hc := (List.mem_filter.mp hc).1
    rw [pick?_getD hr hc (by simpa using hi), List.getElem_map]

theorem joinPair_eq_ok (h : joinPair left right on kind suffixes = .ok t) :
    ∃ leftColumns rightColumns, keyColumns left on .left = .ok leftColumns ∧
      keyColumns right on .right = .ok rightColumns ∧
      Table.ofColumns (joinedColumns left right on suffixes
        (rowPairs kind (matchKeys left.rowCount leftColumns)
          (matchKeys right.rowCount rightColumns))) = .ok t := by
  simp only [joinPair, Outcome.bind_eq_ok] at h
  obtain ⟨leftColumns, hleft, rightColumns, hright, h⟩ := h
  refine ⟨leftColumns, rightColumns, hleft, hright, ?_⟩
  split at h
  · next u hu => rw [hu, Outcome.pure_eq_ok.mp h]
  · cases h

/-- Two tables without columns join to the one without rows: a table takes the number of its rows
from its first column. -/
theorem ofColumns_nil : Table.ofColumns [] = .ok (Table.blank 0) := rfl

theorem joinedColumns_eq_nil_iff {pairs : List RowPair}
    (hon : ∀ name ∈ on, (left.column? name).isSome) :
    joinedColumns left right on suffixes pairs = [] ↔ left.columns = [] ∧ right.columns = [] := by
  simp only [joinedColumns, List.append_eq_nil_iff, List.map_eq_nil_iff, List.filter_eq_nil_iff]
  refine and_congr_right fun hempty => ?_
  -- without left columns there is no key, so every right column is copied
  have hkeys : on = [] := by
    refine List.eq_nil_iff_forall_not_mem.mpr fun name hname => ?_
    simpa [Table.column?, hempty] using hon name hname
  simp [hkeys, List.eq_nil_iff_forall_not_mem]

theorem column?_isSome_of_keyColumns {side : Side} {columns : List Column}
    (h : keyColumns t on side = .ok columns) : ∀ name ∈ on, (t.column? name).isSome := by
  have hboth : List.Forall₂ (fun name c => (t.column? name).isSome ∧ t.column? name = some c)
      on columns := (forall₂_keyColumns h).imp fun name c hc => ⟨by rw [hc]; rfl, hc⟩
  exact ((List.forall₂_and_left on columns).mp hboth).1

/-- A table of joined columns has a row for each pair, provided that there is a column. -/
theorem rowCount_of_joinedColumns {pairs : List RowPair}
    (hkeys : ∀ name ∈ on, (left.column? name).isSome)
    (hany : left.columns ≠ [] ∨ right.columns ≠ [])
    (h : Table.ofColumns (joinedColumns left right on suffixes pairs) = .ok t) :
    t.rowCount = pairs.length := by
  obtain ⟨-, -, hcount⟩ := Table.ofColumns_eq_ok.mp h
  cases hjoined : joinedColumns left right on suffixes pairs with
  | nil =>
    obtain ⟨hlnil, hrnil⟩ := (joinedColumns_eq_nil_iff hkeys).mp hjoined
    exact absurd hany (by simp [hlnil, hrnil])
  | cons c cs =>
    rw [hcount, hjoined, List.head?_cons, Option.map_some, Option.getD_some]
    exact length_of_mem_joinedColumns (hjoined ▸ List.mem_cons_self)

/-- The rows of a join are those of the nested loop over the rows of both tables, each pair once.
They are counted by the columns, so a table must have one. -/
theorem joinPair_eq_nestedLoop (hl : left.WellFormed) (hr : right.WellFormed)
    (h : joinPair left right on kind suffixes = .ok t) :
    let pairs := nestedLoop kind left.rowCount right.rowCount (rowsMatch left right on)
    (left.columns ≠ [] ∨ right.columns ≠ [] →
      t.rowCount = pairs.length ∧ t.rows = pairs.map (pairRow left right on)) ∧
    (left.columns = [] → right.columns = [] → t = Table.blank 0) ∧
    (on ≠ [] → left.columns ≠ []) ∧
    pairs.Nodup ∧
    (∀ l r, (some l, some r) ∈ pairs ↔
      l < left.rowCount ∧ r < right.rowCount ∧ rowsMatch left right on l r) ∧
    (∀ l, (some l, none) ∈ pairs ↔
      kind.keepsLeft ∧ l < left.rowCount ∧ ∀ r < right.rowCount, ¬rowsMatch left right on l r) ∧
    (∀ r, (none, some r) ∈ pairs ↔
      (kind = .right ∨ kind = .outer) ∧ r < right.rowCount ∧
        ∀ l < left.rowCount, ¬rowsMatch left right on l r) := by
  intro pairs
  obtain ⟨leftColumns, rightColumns, hleft, hright, htable⟩ := joinPair_eq_ok h
  rw [rowPairs_eq_nestedLoop hl hr hleft hright] at htable
  obtain ⟨-, hcolumns, -⟩ := Table.ofColumns_eq_ok.mp htable
  have hkeys := column?_isSome_of_keyColumns hleft
  refine ⟨fun hany => ?_, fun hlnil hrnil => ?_, fun hon hnil => ?_, nodup_nestedLoop kind,
    fun l r => some_mem_nestedLoop, fun l => left_alone_mem_nestedLoop,
    fun r => right_alone_mem_nestedLoop⟩
  · have hrows : t.rowCount = pairs.length := rowCount_of_joinedColumns hkeys hany htable
    refine ⟨hrows, ?_⟩
    rw [Table.rows, hcolumns, hrows]
    refine List.ext_getElem (by simp) fun i hi hi' => ?_
    rw [List.getElem_map, List.getElem_map, List.getElem_range]
    exact joinedColumns_at hl hr (by simpa using hi)
  · rw [(joinedColumns_eq_nil_iff hkeys).mpr ⟨hlnil, hrnil⟩, ofColumns_nil] at htable
    exact (Except.ok.inj htable).symm
  · obtain ⟨name, hname⟩ := List.exists_mem_of_ne_nil on hon
    simpa [Table.column?, hnil] using hkeys name hname

/-- Votes by division, one of them without its division. -/
def sampleVotes : Table :=
  ⟨[⟨"division", .numeric, [.int 1, .int 2, .null, .int 1]⟩,
    ⟨"note", .text, [.text "a", .text "b", .text "c", .text "d"]⟩], 4⟩

def sampleNotes : Table :=
  ⟨[⟨"note", .text, [.text "x", .text "y", .text "z"]⟩,
    ⟨"division", .numeric, [.float 1, .float Binary64.nan, .float 1]⟩], 3⟩

def sampleJoin : Table :=
  ⟨[⟨"division", .numeric,
      [.int 1, .int 1, .int 2, .null, .int 1, .int 1, .float Binary64.nan]⟩,
    ⟨"note_x", .text,
      [.text "a", .text "a", .text "b", .text "c", .text "d", .text "d", .null]⟩,
    ⟨"note_y", .text,
      [.text "x", .text "z", .null, .null, .text "x", .text "z", .text "y"]⟩], 7⟩

theorem joinPair_eq_nestedLoop_sample :
    joinPair sampleVotes sampleNotes ["division"] .outer ("_x", "_y") = .ok sampleJoin ∧
      sampleJoin.rows =
        (nestedLoop .outer 4 3 (rowsMatch sampleVotes sampleNotes ["division"])).map
          (pairRow sampleVotes sampleNotes ["division"]) := by
  have hjoin : joinPair sampleVotes sampleNotes ["division"] .outer ("_x", "_y") =
      .ok sampleJoin := rfl
  have hvotes : sampleVotes.WellFormed := ⟨by decide, by decide⟩
  have hnotes : sampleNotes.WellFormed := ⟨by decide, by decide⟩
  exact ⟨hjoin, ((joinPair_eq_nestedLoop hvotes hnotes hjoin).1 (.inl (by decide))).2⟩

/-- Without columns there is nothing to count the six pairs of rows by. -/
theorem joinPair_blank_loses_pairs :
    (Table.blank 2).WellFormed ∧ (Table.blank 3).WellFormed ∧
      joinPair (Table.blank 2) (Table.blank 3) [] .inner ("_x", "_y") = .ok (Table.blank 0) ∧
      (Table.blank 0).rows = [] ∧
      (nestedLoop .inner 2 3 (rowsMatch (Table.blank 2) (Table.blank 3) [])).map
        (pairRow (Table.blank 2) (Table.blank 3) []) = [[], [], [], [], [], []] :=
  ⟨Table.blank_wellFormed 2, Table.blank_wellFormed 3, rfl, rfl, by decide⟩

end Join
end RollCall
