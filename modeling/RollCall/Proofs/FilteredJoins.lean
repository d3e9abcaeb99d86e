import RollCall.Proofs.KeyedConditions
import RollCall.Proofs.RuledJoins

/-!
# Filters below joins

A join that goes through the left rows gives every pair the cells of its left row. So a condition on
left columns holds of a pair as it holds of that row, and all pairs of a row are kept or none. The
rows of a filtered left table are found again in the full one by their positions.
-/
namespace RollCall

namespace Join

variable {left right t : Table} {on : List String} {kind : JoinKind} {suffixes : String × String}
  {n m : Nat} {matching : Nat → Nat → Bool} {keepsLeft : Bool}

/-! ### Pairs of selected left rows -/

theorem nestedLoop_eq_leftLoop (hkind : kind = .inner ∨ kind = .left) :
    nestedLoop kind n m matching = leftLoop kind.keepsLeft n m matching := by
  rcases hkind with rfl | rfl <;> rfl

def pairsOf (keepsLeft : Bool) (rightRows : Nat) (matching : Nat → Nat → Bool) (l : Nat) :
    List RowPair :=
  pairsOr (if keepsLeft then [(some l, none)] else []) (fun r => (some l, some r))
    ((List.range rightRows).filter fun r => matching l r)

private theorem fst_of_mem_pairsOf {l : Nat} {p : RowPair}
    (h : p ∈ pairsOf keepsLeft m matching l) :
    p.1 = some l := by
  rcases mem_pairsOr.mp h with ⟨-, hlonely⟩ | ⟨r, -, rfl⟩
  · cases keepsLeft <;> simp_all
  · rfl

/-- The pair with the position of its left row among some rows in place of the row. -/
def moved (rows : List Nat) (p : RowPair) : RowPair :=
  (p.1.map fun j => rows.getD j 0, p.2)

private theorem map_moved_pairsOf (rows : List Nat) (j : Nat) :
    (pairsOf keepsLeft m (fun j r => matching (rows.getD j 0) r) j).map (moved rows) =
      pairsOf keepsLeft m matching (rows.getD j 0) := by
  rw [pairsOf, pairsOf, pairsOr, pairsOr]
  split
  · cases keepsLeft <;> rfl
  · rw [List.map_map]
    rfl

/-- The pairs of the rows that pass a test are the pairs whose left row passes it. -/
theorem leftLoop_filter (q : Nat → Bool) :
    let kept := (List.range n).filter q
    (leftLoop keepsLeft kept.length m fun j r => matching (kept.getD j 0) r).map (moved kept) =
      (leftLoop keepsLeft n m matching).filter fun p => p.1.any q := by
  intro kept
  have hkept : (leftLoop keepsLeft kept.length m fun j r => matching (kept.getD j 0) r).map
      (moved kept) = kept.flatMap (pairsOf keepsLeft m matching) := by
    calc (leftLoop keepsLeft kept.length m fun j r => matching (kept.getD j 0) r).map (moved kept)
        = (List.range kept.length).flatMap fun j =>
            pairsOf keepsLeft m matching (kept.getD j 0) := by
          rw [leftLoop, List.map_flatMap]
          exact List.flatMap_congr fun j _ => map_moved_pairsOf kept j
      _ = kept.flatMap (pairsOf keepsLeft m matching) := by
          conv_rhs => rw [← map_getD_range kept 0, List.flatMap_map]
  have hpairs : ∀ l, (pairsOf keepsLeft m matching l).filter (fun p => p.1.any q) =
      if q l then pairsOf keepsLeft m matching l else [] := by
    intro l
    cases hq : q l with
    | true =>
      exact List.filter_eq_self.mpr fun p hp => by rw [fst_of_mem_pairsOf hp, Option.any_some, hq]
    | false =>
      exact List.filter_eq_nil_iff.mpr fun p hp => by simp [fst_of_mem_pairsOf hp, hq]
  have hloop : leftLoop keepsLeft n m matching =
      (List.range n).flatMap (pairsOf keepsLeft m matching) := rfl
  rw [hkept, hloop, List.filter_flatMap]
  simp only [hpairs, kept]
  induction List.range n with
  | nil => rfl
  | cons l rows ih =>
    cases hq : q l <;> simp [hq, ih]

/-! ### Selected rows of the left table -/

private theorem names_rules_takeRows (rows : List Nat) :
    (rules (left.takeRows rows) right on suffixes).map ColumnRule.name =
      (rules left right on suffixes).map ColumnRule.name := by
  simp [rules, sharedNames, Table.takeRows, Table.names, Function.comp_def]

/-- A join of selected left rows has the columns of the join of all, for the pairs moved to the rows
that were selected. -/
theorem tabulate_rules_takeRows (hl : left.WellFormed) {rows : List Nat}
    (hrows : ∀ row ∈ rows, row < left.rowCount) {pairs : List RowPair}
    (hpairs : ∀ p ∈ pairs, ∃ j < rows.length, p.1 = some j) :
    Table.tabulate (rules (left.takeRows rows) right on suffixes) pairs =
      Table.tabulate (rules left right on suffixes) (pairs.map (moved rows)) := by
  have hcell : ∀ name, ∀ p ∈ pairs,
      keyCell (left.takeRows rows) right name p = keyCell left right name (moved rows p) ∧
        copiedCell (left.takeRows rows) name p.1 = copiedCell left name (moved rows p).1 := by
    rintro name ⟨_, r⟩ hp
    obtain ⟨j, hj, rfl⟩ := hpairs _ hp
    have hsame := Table.cell?_takeRows hl hj hrows name
    simp [keyCell, copiedCell, moved, hsame]
  rw [Table.tabulate, Table.tabulate, List.length_map]
  refine congrArg (Table.mk · pairs.length) ?_
  simp only [rules, sharedNames, Table.names_takeRows, List.map_append, List.map_map]
  congr 1
  · have hcolumns : (left.takeRows rows).columns =
        left.columns.map fun c => { c with cells := c.pick rows } := rfl
    rw [hcolumns, List.map_map]
    refine List.map_congr_left fun c _ => ?_
    simp only [Function.comp_apply, ColumnRule.column, List.map_map, Column.mk.injEq, true_and]
    refine List.map_congr_left fun p hp => ?_
    obtain ⟨hkey, hcopied⟩ := hcell c.name p hp
    by_cases hon : c.name ∈ on
    · simpa [hon] using hkey
    · simpa [hon] using hcopied
  · refine List.map_congr_left fun c _ => ?_
    simp [ColumnRule.column, moved, Function.comp_def]

private theorem rowsMatch_takeRows (hl : left.WellFormed) {rows : List Nat}
    (hrows : ∀ row ∈ rows, row < left.rowCount) {j : Nat} (hj : j < rows.length) (r : Nat) :
    rowsMatch (left.takeRows rows) right on j r = rowsMatch left right on (rows.getD j 0) r := by
  simp only [rowsMatch, Table.cell?_takeRows hl hj hrows]

/-! ### Filtering -/

private theorem rename_mem_names_rules {name : String} (hname : name ∈ left.names) :
    rename (sharedNames left right on) suffixes.1 name ∈
      (rules left right on suffixes).map ColumnRule.name := by
  obtain ⟨c, hc, rfl⟩ := List.mem_map.mp hname
  rw [rules, List.map_append, List.map_map]
  exact List.mem_append_left _ (List.mem_map.mpr ⟨c, hc, rfl⟩)

/-- A column of the left table that keeps its name has in every pair the cell of the left row. -/
theorem cellAt_of_left (hnames : ((rules left right on suffixes).map ColumnRule.name).Nodup)
    {pairs : List RowPair} {i l : Nat} (hi : i < pairs.length) (hl : pairs[i].1 = some l)
    {name : String} (hname : name ∈ left.names)
    (hkept : rename (sharedNames left right on) suffixes.1 name = name) :
    (Table.tabulate (rules left right on suffixes) pairs).cellAt i name = left.cellAt l name := by
  obtain ⟨c, hc, rfl⟩ := List.mem_map.mp hname
  have hrule : (⟨c.name, c.kind, if c.name ∈ on then keyCell left right c.name
      else fun p => copiedCell left c.name p.1⟩ : ColumnRule RowPair) ∈
      rules left right on suffixes := by
    refine List.mem_append_left _ (List.mem_map.mpr ⟨c, hc, ?_⟩)
    rw [hkept]
  have hcell := Table.cellAt_tabulate hnames hrule hi
  rw [hcell]
  generalize pairs[i] = p at hl
  obtain ⟨_, r⟩ := p
  obtain rfl : _ = some l := hl
  split <;> rfl

/-- Selecting left rows and joining gives the pairs of the rows that were selected. -/
theorem joinPair_takeRows (hl : left.WellFormed) (hr : right.WellFormed)
    (hkind : kind = .inner ∨ kind = .left)
    (hkeys : ∀ name ∈ on, name ∈ left.names ∧ name ∈ right.names)
    (hnames : ((rules left right on suffixes).map ColumnRule.name).Nodup) (q : Nat → Bool) :
    joinPair (left.takeRows ((List.range left.rowCount).filter q)) right on kind suffixes =
      .ok (Table.tabulate (rules left right on suffixes)
        ((if rules left right on suffixes = [] then []
          else nestedLoop kind left.rowCount right.rowCount (rowsMatch left right on)).filter
            fun p => p.1.any q)) := by
  let kept := (List.range left.rowCount).filter q
  have hkept : ∀ row ∈ kept, row < left.rowCount := fun row hrow =>
    List.mem_range.mp (List.mem_filter.mp hrow).1
  have hrules : rules (left.takeRows kept) right on suffixes = [] ↔
      rules left right on suffixes = [] := by
    rw [← List.map_eq_nil_iff, names_rules_takeRows, List.map_eq_nil_iff]
  have hloop : nestedLoop kind kept.length right.rowCount
      (rowsMatch (left.takeRows kept) right on) =
      leftLoop kind.keepsLeft kept.length right.rowCount
        fun j r => rowsMatch left right on (kept.getD j 0) r := by
    rw [← nestedLoop_eq_leftLoop hkind]
    exact nestedLoop_congr fun j hj r _ => rowsMatch_takeRows hl hkept hj r
  refine (joinPair_eq_ok_iff (hl.takeRows kept) hr).mpr ⟨?_, ?_, ?_⟩
  · rwa [Table.names_takeRows]
  · rwa [names_rules_takeRows]
  · by_cases hempty : rules left right on suffixes = []
    · rw [if_pos hempty, if_pos (hrules.mpr hempty), hempty, hrules.mpr hempty]
      rfl
    · rw [if_neg hempty, if_neg (hrules.not.mpr hempty), nestedLoop_eq_leftLoop hkind,
        ← leftLoop_filter]
      refine (congrArg (Table.tabulate _) hloop).trans (tabulate_rules_takeRows hl hkept ?_) |>.symm
      intro p hp
      obtain ⟨j, hj, rfl | ⟨r, -, -, rfl⟩⟩ := fst_of_mem_leftLoop hp <;> exact ⟨j, hj, rfl⟩

/-- A filter on left columns that keep their names may come before an inner or a left join. -/
theorem filter_below_join [Library] (hl : left.WellFormed) (hr : right.WellFormed)
    (hkind : kind = .inner ∨ kind = .left)
    (h : joinPair left right on kind suffixes = .ok t) {c : Condition} {mask : List Bool}
    (hmask : c.mask left = .ok mask)
    (hkept : ∀ clause ∈ c.clauses,
      rename (sharedNames left right on) suffixes.1 clause.column = clause.column) :
    ∃ s u, c.filter left = .ok s ∧ joinPair s right on kind suffixes = .ok u ∧
      c.filter t = .ok u := by
  obtain ⟨hkeys, hnames, rfl⟩ := (joinPair_eq_ok_iff hl hr).mp h
  have hcheck := Condition.check_of_mask hl hmask
  have hcolumns := Condition.mem_names_of_check hcheck
  refine ⟨_, _, ?_, joinPair_takeRows hl hr hkind hkeys hnames fun l => c.holds (left.cellAt l), ?_⟩
  · rw [Condition.filter_eq hl, hcheck]
    rfl
  generalize hpairs : (if rules left right on suffixes = [] then [] else
    nestedLoop kind left.rowCount right.rowCount (rowsMatch left right on)) = pairs
  have hleft : ∀ p ∈ pairs, ∃ l, p.1 = some l := by
    intro p hp
    rw [← hpairs, nestedLoop_eq_leftLoop hkind] at hp
    split at hp
    · cases hp
    · obtain ⟨l, -, rfl | ⟨r, -, -, rfl⟩⟩ := fst_of_mem_leftLoop hp <;> exact ⟨l, rfl⟩
  have hcheck' : c.check (Table.tabulate (rules left right on suffixes) pairs).names = .ok () := by
    rw [← hcheck]
    refine Condition.check_eq_of_names fun clause hclause =>
      iff_of_true ?_ (hcolumns clause hclause)
    rw [Table.names_tabulate, ← hkept clause hclause]
    exact rename_mem_names_rules (hcolumns clause hclause)
  rw [Condition.filter_eq (Table.tabulate_wellFormed hnames pairs), hcheck']
  refine congrArg Except.ok (Table.takeRows_tabulate_filter _ pairs fun i hi => ?_)
  obtain ⟨l, hpair⟩ := hleft _ (List.getElem_mem hi)
  rw [hpair, Option.any_some]
  refine Condition.holds_eq_of_keys fun clause hclause => ?_
  rw [cellAt_of_left hnames hi hpair (hcolumns clause hclause) (hkept clause hclause)]

def votes : Table :=
  ⟨[⟨"member", .numeric, [.int 1, .float 2, .null, .int 3, .float 1]⟩,
    ⟨"party", .text, [.text "Lab", .text "Con", .text "Lab", .null, .text "SNP"]⟩,
    ⟨"vote", .text, [.text "aye", .text "no", .text "aye", .text "aye", .null]⟩], 5⟩

def offices : Table :=
  ⟨[⟨"member", .numeric, [.float 1, .int 2, .int 1, .null]⟩,
    ⟨"party", .text, [.text "Labour", .text "Tory", .null, .text "Labour"]⟩], 4⟩

def votesWithOffices : Table :=
  ⟨[⟨"member", .numeric, [.int 1, .int 1, .float 2, .null, .int 3, .float 1, .float 1]⟩,
    ⟨"party_vote", .text,
      [.text "Lab", .text "Lab", .text "Con", .text "Lab", .null, .text "SNP", .text "SNP"]⟩,
    ⟨"vote", .text, [.text "aye", .text "aye", .text "no", .text "aye", .text "aye", .null, .null]⟩,
    ⟨"party_office", .text,
      [.text "Labour", .null, .text "Tory", .null, .null, .text "Labour", .null]⟩], 7⟩

/-- The votes for a motion, and those of the members from the second on. -/
def ayeOrLater : Condition :=
  .any [.clause ⟨"vote", .eq, .str "aye"⟩, .clause ⟨"member", .ge, .int 2⟩]

theorem filter_below_join_sample :
    joinPair votes offices ["member"] .left ("_vote", "_office") = .ok votesWithOffices ∧
      ayeOrLater.filter votes = .ok (votes.takeRows [0, 1, 2, 3]) ∧
      ∃ u, joinPair (votes.takeRows [0, 1, 2, 3]) offices ["member"] .left ("_vote", "_office") =
          .ok u ∧
        ayeOrLater.filter votesWithOffices = .ok u ∧
        u = votesWithOffices.takeRows [0, 1, 2, 3, 4] := by
  have hjoin : joinPair votes offices ["member"] .left ("_vote", "_office") =
      .ok votesWithOffices := rfl
  have hmask : ayeOrLater.mask votes = .ok [true, true, true, true, false] := rfl
  have hbefore : ayeOrLater.filter votes = .ok (votes.takeRows [0, 1, 2, 3]) := rfl
  have hafter : ayeOrLater.filter votesWithOffices =
      .ok (votesWithOffices.takeRows [0, 1, 2, 3, 4]) := rfl
  obtain ⟨s, u, hs, hu, ht⟩ := filter_below_join ⟨by decide, by decide⟩ ⟨by decide, by decide⟩
    (.inr rfl) hjoin hmask (by decide)
  obtain rfl := Except.ok.inj (hbefore.symm.trans hs)
  exact ⟨hjoin, hbefore, u, hu, ht, Except.ok.inj (ht.symm.trans hafter)⟩

end Join
end RollCall
