import RollCall.Proofs.JoinRows
import RollCall.Proofs.Strict.Basic

/-!
# Reading by position in joins

A join reads the key cells of every row up to the first that is missing, marks the right rows that
are in a pair of an outer join, and copies the cells of the rows of every pair.
-/
namespace RollCall

namespace Join

variable {left right t : Table} {on : List String} {kind : JoinKind} {suffixes : String × String}

/-- Both rows of a pair, where they are there, are rows of their tables. -/
def InRange (leftRows rightRows : Nat) (p : RowPair) : Prop :=
  (∀ l, p.1 = some l → l < leftRows) ∧ ∀ r, p.2 = some r → r < rightRows

private theorem inRange_of_mem_nestedLoop {n m : Nat} {matching : Nat → Nat → Bool} {p : RowPair}
    (h : p ∈ nestedLoop kind n m matching) : InRange n m p := by
  rcases cases_of_mem_nestedLoop h with ⟨l, hl, rfl⟩ | ⟨r, hr, rfl⟩ | ⟨l, hl, r, hr, -, rfl⟩
  · exact ⟨by simpa using hl, by simp⟩
  · exact ⟨by simp, by simpa using hr⟩
  · exact ⟨by simpa using hl, by simpa using hr⟩

theorem wellFormed_of_joinPair (h : joinPair left right on kind suffixes = .ok t) :
    t.WellFormed := by
  obtain ⟨_, _, -, -, htable⟩ := joinPair_eq_ok h
  exact Table.wellFormed_of_ofColumns htable

theorem wellFormed_of_joinAll {inputs : List Table} (hinputs : ∀ u ∈ inputs, u.WellFormed)
    (h : joinAll on kind suffixes inputs = .ok t) : t.WellFormed := by
  unfold joinAll at h
  split at h
  · next first second rest =>
    split at h
    · cases h
    · exact Outcome.foldlM_keeps (fun _ _ _ _ hpair _ => wellFormed_of_joinPair hpair) h
        (hinputs first List.mem_cons_self)
  · split at h <;> cases h

end Join

namespace Strict

open Join (RowPair InRange)

/-- The key of a row, whose cells are read up to the first that is missing. -/
def matchKey (row : Nat) : List Column → Option (Option (List Key))
  | [] => some (some [])
  | c :: columns => do
    let cell ← c.cells[row]?
    if cell.isMissing then return none
    else return (← matchKey row columns).map (cell.key :: ·)

def matchKeys (rows : Nat) (columns : List Column) : Option (List (Option (List Key))) :=
  (List.range rows).mapM fun row => matchKey row columns

def mark (marks : List Bool) (row : Nat) : Option (List Bool) :=
  if row < marks.length then some (marks.set row true) else none

/-- The marks of the right rows that are in a pair. -/
def matched (rows : Nat) (pairs : List RowPair) : Option (List Bool) :=
  (pairs.filterMap Prod.snd).foldlM mark (List.replicate rows false)

/-- The pairs of rows of a join. The right rows are marked even if the marks are not used. -/
def rowPairs (kind : JoinKind) (leftKeys rightKeys : List (Option (List Key))) :
    Option (List RowPair) :=
  match kind with
  | .right => some (Join.rightPairs leftKeys rightKeys)
  | kind => do
    let pairs := Join.leftPairs kind.keepsLeft leftKeys rightKeys
    let marks ← matched rightKeys.length pairs
    if kind = .outer then
      return pairs ++ (marks.zipIdx.filter fun entry => !entry.1).map fun entry =>
        (none, some entry.2)
    else return pairs

def keyCell (left : Column) (right : Option Column) : RowPair → Option Cell
  | (some l, _) => left.cells[l]?
  | (none, some r) =>
    match right with
    | some c => c.cells[r]?
    | none => some .null
  | (none, none) => some .null

def copiedCell (c : Column) : Option Nat → Option Cell
  | some row => c.cells[row]?
  | none => some .null

def leftColumn (right : Table) (on shared : List String) (suffix : String) (pairs : List RowPair)
    (c : Column) : Option Column := do
  let cells ←
    if c.name ∈ on then pairs.mapM (keyCell c (right.column? c.name))
    else (pairs.map Prod.fst).mapM (copiedCell c)
  return { c with name := Join.rename shared suffix c.name, cells }

def rightColumn (shared : List String) (suffix : String) (pairs : List RowPair) (c : Column) :
    Option Column := do
  return { c with
    name := Join.rename shared suffix c.name
    cells := ← (pairs.map Prod.snd).mapM (copiedCell c) }

def joinedColumns (left right : Table) (on : List String) (suffixes : String × String)
    (pairs : List RowPair) : Option (List Column) := do
  let shared := Join.sharedNames left right on
  let leftColumns ← left.columns.mapM (leftColumn right on shared suffixes.1 pairs)
  let rightColumns ←
    (right.columns.filter fun c => c.name ∉ on).mapM (rightColumn shared suffixes.2 pairs)
  return leftColumns ++ rightColumns

def joinPair (left right : Table) (on : List String) (kind : JoinKind)
    (suffixes : String × String) : Reading JoinFault Table := do
  let leftColumns ← plain (Join.keyColumns left on .left)
  let rightColumns ← plain (Join.keyColumns right on .right)
  let leftKeys ← found (matchKeys left.rowCount leftColumns)
  let rightKeys ← found (matchKeys right.rowCount rightColumns)
  let pairs ← found (rowPairs kind leftKeys rightKeys)
  let columns ← found (joinedColumns left right on suffixes pairs)
  plain <| match Table.ofColumns columns with
    | .ok t => return t
    | .error fault => .error (.table fault)

def joinAll (on : List String) (kind : JoinKind) (suffixes : String × String) :
    List Table → Reading JoinFault Table
  | first :: second :: rest =>
    if on.isEmpty then plain (.error .noKeys)
    else (second :: rest).foldlM (fun merged t => joinPair merged t on kind suffixes) first
  | _ => plain (if on.isEmpty then .error .noKeys else .error .tooFewTables)

variable {left right t : Table} {on : List String} {kind : JoinKind} {suffixes : String × String}

private theorem matchKey_eq {columns : List Column} {row : Nat}
    (h : ∀ c ∈ columns, row < c.cells.length) :
    matchKey row columns = some (rowMatchKey columns row) := by
  induction columns with
  | nil => rfl
  | cons c columns ih =>
    have hread := getElem?_eq_some_getD (h c List.mem_cons_self) Cell.null
    have hrest := ih fun d hd => h d (List.mem_cons_of_mem _ hd)
    rw [matchKey, hread, hrest]
    simp only [Option.bind_eq_bind, Option.bind_some, rowMatchKey, rowKey, List.any_cons,
      List.map_cons]
    generalize c.cells[row]?.getD Cell.null = cell
    cases cell.isMissing with
    | true => rfl
    | false => cases columns.any fun d => (d.cells[row]?.getD .null).isMissing <;> rfl

private theorem matchKeys_eq {columns : List Column} {rows : Nat}
    (h : ∀ c ∈ columns, c.length = rows) :
    matchKeys rows columns = some (RollCall.matchKeys rows columns) := by
  rw [RollCall.matchKeys_eq h]
  refine mapM_eq_some_map fun row hrow => matchKey_eq fun c hc => ?_
  have hlength : c.cells.length = rows := h c hc
  exact hlength ▸ List.mem_range.mp hrow

/-- Marks of rows that are there can be set, and then exactly these are. -/
theorem foldlM_mark {n : Nat} {f : Nat → Bool} {rows : List Nat} (h : ∀ r ∈ rows, r < n) :
    rows.foldlM mark ((List.range n).map f) =
      some ((List.range n).map fun r => f r || decide (r ∈ rows)) := by
  induction rows generalizing f with
  | nil => simp
  | cons row rows ih =>
    have hset : mark ((List.range n).map f) row =
        some ((List.range n).map fun r => f r || decide (r = row)) := by
      rw [mark, if_pos (by simpa using h row List.mem_cons_self)]
      refine congrArg some (List.ext_getElem (by simp) fun i hi hi' => ?_)
      rw [List.getElem_set]
      by_cases hrow : row = i <;> simp [hrow, eq_comm]
    rw [List.foldlM_cons, hset, Option.bind_eq_bind, Option.bind_some,
      ih fun r hr => h r (List.mem_cons_of_mem _ hr)]
    simp [Bool.or_assoc]

private theorem matched_eq {rows : Nat} {pairs : List RowPair}
    (h : ∀ p ∈ pairs, ∀ r, p.2 = some r → r < rows) :
    matched rows pairs =
      some ((List.range rows).map fun r => decide (r ∈ pairs.filterMap Prod.snd)) := by
  have hzero : List.replicate rows false = (List.range rows).map fun _ => false := by simp
  rw [matched, hzero, foldlM_mark fun r hr => ?_]
  · simp
  · obtain ⟨p, hp, hpr⟩ := List.mem_filterMap.mp hr
    exact h p hp r hpr

/-- The unmarked rows are those in no pair. -/
theorem rowPairs_eq {leftKeys rightKeys : List (Option (List Key))}
    (h : ∀ p ∈ Join.leftPairs kind.keepsLeft leftKeys rightKeys, ∀ r, p.2 = some r →
      r < rightKeys.length) :
    rowPairs kind leftKeys rightKeys = some (Join.rowPairs kind leftKeys rightKeys) := by
  cases kind with
  | right => rfl
  | inner | left =>
    simp only [rowPairs, matched_eq h]
    rfl
  | outer =>
    simp only [rowPairs, matched_eq h, Option.bind_eq_bind, Option.bind_some, zipIdx_map_range,
      List.filter_map, List.map_map]
    simp [Join.rowPairs, Join.unmatched, Function.comp_def, JoinKind.keepsLeft]
    rfl

private theorem keyCell_eq {n m : Nat} {c : Column} (hc : c.cells.length = n) {d : Option Column}
    (hd : ∀ e, d = some e → e.cells.length = m) {pairs : List RowPair}
    (h : ∀ p ∈ pairs, InRange n m p) :
    pairs.mapM (keyCell c d) = some (Join.keyCells c d pairs) := by
  refine mapM_eq_some_map fun p hp => ?_
  obtain ⟨hleft, hright⟩ := h p hp
  rcases p with ⟨_ | l, _ | r⟩
  · rfl
  · cases d with
    | none => rfl
    | some e =>
      simp only [List.getElem?_toArray, Option.map_some, Option.bind_some]
      exact getElem?_eq_some_getD ((hd e rfl).symm ▸ hright r rfl) Cell.null
  all_goals
    simp only [List.getElem?_toArray]
    exact getElem?_eq_some_getD (hc.symm ▸ hleft l rfl) Cell.null

private theorem copiedCell_eq {n : Nat} {c : Column} (hc : c.cells.length = n)
    {rows : List (Option Nat)} (h : ∀ row ∈ rows, ∀ i, row = some i → i < n) :
    rows.mapM (copiedCell c) = some (c.pick? rows) := by
  rw [Column.pick?_eq]
  refine mapM_eq_some_map fun row hrow => ?_
  cases row with
  | none => rfl
  | some i => exact getElem?_eq_some_getD (hc.symm ▸ h (some i) hrow i rfl) Cell.null

/-- Every row of a pair lies in the columns of its table. -/
theorem joinedColumns_eq (hl : left.WellFormed) (hr : right.WellFormed) {pairs : List RowPair}
    (h : ∀ p ∈ pairs, InRange left.rowCount right.rowCount p) :
    joinedColumns left right on suffixes pairs =
      some (Join.joinedColumns left right on suffixes pairs) := by
  have hfst : ∀ row ∈ pairs.map Prod.fst, ∀ l, row = some l → l < left.rowCount := by
    intro row hrow l hlrow
    obtain ⟨p, hp, rfl⟩ := List.mem_map.mp hrow
    exact (h p hp).1 l hlrow
  have hsnd : ∀ row ∈ pairs.map Prod.snd, ∀ r, row = some r → r < right.rowCount := by
    intro row hrow r hrrow
    obtain ⟨p, hp, rfl⟩ := List.mem_map.mp hrow
    exact (h p hp).2 r hrrow
  have hleft : ∀ c ∈ left.columns,
      leftColumn right on (Join.sharedNames left right on) suffixes.1 pairs c =
        some { c with
          name := Join.rename (Join.sharedNames left right on) suffixes.1 c.name
          cells :=
            if c.name ∈ on then Join.keyCells c (right.column? c.name) pairs
            else c.pick? (pairs.map Prod.fst) } := by
    intro c hc
    have hcells : c.cells.length = left.rowCount := hl.length_eq c hc
    rw [leftColumn]
    split
    · rw [keyCell_eq hcells (fun e he => hr.length_of_column? he) h]
      rfl
    · rw [copiedCell_eq hcells hfst]
      rfl
  have hright : ∀ c ∈ right.columns.filter fun c => c.name ∉ on,
      rightColumn (Join.sharedNames left right on) suffixes.2 pairs c =
        some { c with
          name := Join.rename (Join.sharedNames left right on) suffixes.2 c.name
          cells := c.pick? (pairs.map Prod.snd) } := by
    intro c hc
    have hcells : c.cells.length = right.rowCount := hr.length_eq c (List.mem_filter.mp hc).1
    rw [rightColumn, copiedCell_eq hcells hsnd]
    rfl
  rw [joinedColumns, mapM_eq_some_map hleft, mapM_eq_some_map hright]
  rfl

private theorem meets_joinPair (hl : left.WellFormed) (hr : right.WellFormed) :
    Meets (joinPair left right on kind suffixes) (Join.joinPair left right on kind suffixes) := by
  refine (Meets.plain _).bind fun leftColumns hleft => ?_
  refine (Meets.plain _).bind fun rightColumns hright => ?_
  have hlcolumns : ∀ c ∈ leftColumns, c.length = left.rowCount := fun c hc =>
    hl.length_eq c (Join.mem_of_keyColumns hleft c hc)
  have hrcolumns : ∀ c ∈ rightColumns, c.length = right.rowCount := fun c hc =>
    hr.length_eq c (Join.mem_of_keyColumns hright c hc)
  have hrange : ∀ kind, ∀ p ∈ Join.rowPairs kind (RollCall.matchKeys left.rowCount leftColumns)
      (RollCall.matchKeys right.rowCount rightColumns),
      InRange left.rowCount right.rowCount p := by
    intro kind p hp
    rw [Join.rowPairs_eq_nestedLoop hl hr hleft hright] at hp
    exact Join.inRange_of_mem_nestedLoop hp
  -- the pairs that are marked are those of an inner or a left join
  have hmarked : ∀ p ∈ Join.leftPairs kind.keepsLeft
      (RollCall.matchKeys left.rowCount leftColumns)
      (RollCall.matchKeys right.rowCount rightColumns), ∀ r, p.2 = some r →
      r < (RollCall.matchKeys right.rowCount rightColumns).length := by
    intro p hp
    rw [length_matchKeys hrcolumns]
    generalize kind.keepsLeft = keepsLeft at hp
    cases keepsLeft with
    | false => exact (hrange .inner p hp).2
    | true => exact (hrange .left p hp).2
  refine Meets.found_bind (matchKeys_eq hlcolumns) ?_
  refine Meets.found_bind (matchKeys_eq hrcolumns) ?_
  refine Meets.found_bind (rowPairs_eq hmarked) ?_
  exact Meets.found_bind (joinedColumns_eq hl hr (hrange kind)) (Meets.plain _)

theorem meets_joinAll {inputs : List Table} (h : ∀ u ∈ inputs, u.WellFormed) :
    Meets (joinAll on kind suffixes inputs) (Join.joinAll on kind suffixes inputs) := by
  rcases inputs with _ | ⟨first, _ | ⟨second, rest⟩⟩
  · exact Meets.plain _
  · exact Meets.plain _
  · simp only [joinAll, Join.joinAll]
    split
    · exact Meets.plain _
    · refine Meets.foldlM (fun u hu merged hmerged => ?_) (fun _ _ _ _ hpair _ => ?_)
        (h first List.mem_cons_self)
      · exact meets_joinPair hmerged (h u (List.mem_cons_of_mem _ hu))
      · exact Join.wellFormed_of_joinPair hpair

end Strict
end RollCall
