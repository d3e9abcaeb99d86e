import Mathlib.Data.List.Nodup
import RollCall.Join
import RollCall.Proofs.Rows

/-!
# Nested loops

The reference for joins: for every row of one side, the matching rows of the other side in order.
An index holds for each key exactly the rows with that key in rising order, so the pairs that a join
finds through its index are those of the nested loop.
-/
namespace RollCall

namespace Index

private theorem rowsOf_add (index : Index) (key k : List Key) (row : Nat) :
    (add key row index).rowsOf k =
      if key = k then index.rowsOf k ++ [row] else index.rowsOf k := by
  induction index with
  | nil => by_cases h : key = k <;> simp [add, rowsOf, h]
  | cons entry index ih =>
    obtain ⟨j, rows⟩ := entry
    by_cases hjk : j = k
    · subst hjk
      by_cases hj : key = j <;> simp [add, rowsOf, hj, eq_comm]
    · have hskip : ∀ (rows : List Nat) (index : Index),
          rowsOf ((j, rows) :: index) k = index.rowsOf k := by
        intro rows index
        simp [rowsOf, hjk]
      by_cases hj : j = key
      · have hkey : key ≠ k := hj ▸ hjk
        rw [add, if_pos hj, hskip, hskip, if_neg hkey]
      · rw [add, if_neg hj, hskip, hskip, ih]

private theorem rowsOf_note (index : Index) (entry : Option (List Key) × Nat) (k : List Key) :
    (note index entry).rowsOf k =
      if entry.1 = some k then index.rowsOf k ++ [entry.2] else index.rowsOf k := by
  obtain ⟨key, row⟩ := entry
  cases key with
  | none => rfl
  | some key => simpa [note] using rowsOf_add index key k row

private theorem rowsOf_foldl_note (entries : List (Option (List Key) × Nat)) (index : Index)
    (k : List Key) :
    (entries.foldl note index).rowsOf k =
      index.rowsOf k ++ (entries.filter fun entry => entry.1 = some k).map Prod.snd := by
  induction entries generalizing index with
  | nil => simp
  | cons entry entries ih =>
    rw [List.foldl_cons, ih, rowsOf_note]
    by_cases h : entry.1 = some k <;> simp [h]

/-- The index holds exactly the rows of a key, in rising order. -/
theorem rowsOf_ofKeys (f : Nat → Option (List Key)) (n : Nat) (k : List Key) :
    (ofKeys ((List.range n).map f)).rowsOf k =
      (List.range n).filter fun row => f row = some k := by
  rw [ofKeys, rowsOf_foldl_note, zipIdx_map_range, List.filter_map, List.map_map]
  simp [rowsOf, Function.comp_def]

end Index

namespace Join

/-- Two keys match if both are there and equal. -/
def keysMatch : Option (List Key) → Option (List Key) → Bool
  | some a, some b => a = b
  | _, _ => false

/-- The pairs of a row with its partners, or `lonely` if it has none. -/
def pairsOr (lonely : List RowPair) (pair : Nat → RowPair) (partners : List Nat) : List RowPair :=
  if partners.isEmpty then lonely else partners.map pair

/-- The pairs of every left row in order with the matching right rows in order. A left row without
one stands alone, if such rows are kept. -/
def leftLoop (keepsLeft : Bool) (leftRows rightRows : Nat) (matching : Nat → Nat → Bool) :
    List RowPair :=
  (List.range leftRows).flatMap fun l =>
    pairsOr (if keepsLeft then [(some l, none)] else []) (fun r => (some l, some r))
      ((List.range rightRows).filter fun r => matching l r)

/-- The pairs of every right row in order with the matching left rows in order. A right row without
one stands alone. -/
def rightLoop (leftRows rightRows : Nat) (matching : Nat → Nat → Bool) : List RowPair :=
  (List.range rightRows).flatMap fun r =>
    pairsOr [(none, some r)] (fun l => (some l, some r))
      ((List.range leftRows).filter fun l => matching l r)

/-- The pairs of rows that a nested loop finds. An outer join adds the right rows that match no left
row. -/
def nestedLoop (kind : JoinKind) (leftRows rightRows : Nat) (matching : Nat → Nat → Bool) :
    List RowPair :=
  match kind with
  | .inner => leftLoop false leftRows rightRows matching
  | .left => leftLoop true leftRows rightRows matching
  | .right => rightLoop leftRows rightRows matching
  | .outer =>
    leftLoop true leftRows rightRows matching ++
      ((List.range rightRows).filter fun r => !(List.range leftRows).any (matching · r)).map
        fun r => (none, some r)

section Pairs

variable {n m : Nat} {f g : Nat → Option (List Key)} {matching : Nat → Nat → Bool}

theorem rowsFor_ofKeys (f : Nat → Option (List Key)) (n : Nat) (key : Option (List Key)) :
    rowsFor (Index.ofKeys ((List.range n).map f)) key =
      (List.range n).filter fun row => keysMatch key (f row) := by
  cases key with
  | none => simp [rowsFor, keysMatch]
  | some key =>
    simp only [rowsFor, Option.map_some, Option.getD_some, Index.rowsOf_ofKeys]
    apply List.filter_congr
    intro row _
    cases f row <;> simp [keysMatch, eq_comm]

private theorem keysMatch_comm (a b : Option (List Key)) : keysMatch a b = keysMatch b a := by
  cases a <;> cases b <;> simp [keysMatch, eq_comm]

private theorem leftPairs_eq (keepsLeft : Bool) :
    leftPairs keepsLeft ((List.range n).map f) ((List.range m).map g) =
      leftLoop keepsLeft n m fun l r => keysMatch (f l) (g r) := by
  simp only [leftPairs, leftLoop, zipIdx_map_range, List.flatMap_map, rowsFor_ofKeys]
  apply congrArg (List.flatMap · (List.range n))
  funext l
  cases (List.range m).filter fun r => keysMatch (f l) (g r) <;> rfl

private theorem rightPairs_eq :
    rightPairs ((List.range n).map f) ((List.range m).map g) =
      rightLoop n m fun l r => keysMatch (f l) (g r) := by
  simp only [rightPairs, rightLoop, zipIdx_map_range, List.flatMap_map, rowsFor_ofKeys]
  apply congrArg (List.flatMap · (List.range m))
  funext r
  simp only [keysMatch_comm (g r)]
  cases (List.range n).filter fun l => keysMatch (f l) (g r) <;> rfl

theorem mem_pairsOr {lonely : List RowPair} {pair : Nat → RowPair} {partners : List Nat}
    {p : RowPair} :
    p ∈ pairsOr lonely pair partners ↔
      (partners = [] ∧ p ∈ lonely) ∨ ∃ i ∈ partners, pair i = p := by
  cases partners <;> simp [pairsOr, eq_comm]

theorem some_mem_leftLoop {keepsLeft : Bool} {l r : Nat} :
    (some l, some r) ∈ leftLoop keepsLeft n m matching ↔ l < n ∧ r < m ∧ matching l r := by
  simp only [leftLoop, List.mem_flatMap, List.mem_range, mem_pairsOr]
  constructor
  · rintro ⟨l', hl', (⟨-, hlonely⟩ | ⟨r', hr', hpair⟩)⟩
    · cases keepsLeft <;> simp at hlonely
    · simp only [Prod.mk.injEq, Option.some.injEq] at hpair
      obtain ⟨rfl, rfl⟩ := hpair
      have hr := List.mem_filter.mp hr'
      exact ⟨hl', List.mem_range.mp hr.1, hr.2⟩
  · rintro ⟨hl, hr, hmatch⟩
    exact ⟨l, hl, .inr ⟨r, List.mem_filter.mpr ⟨List.mem_range.mpr hr, hmatch⟩, rfl⟩⟩

private theorem mem_filterMap_leftLoop {keepsLeft : Bool} {r : Nat} :
    r ∈ (leftLoop keepsLeft n m matching).filterMap Prod.snd ↔
      r < m ∧ ∃ l < n, matching l r = true := by
  rw [List.mem_filterMap]
  constructor
  · rintro ⟨⟨l, _⟩, hmem, rfl⟩
    cases l with
    | some l =>
      obtain ⟨hl, hr, hmatch⟩ := some_mem_leftLoop.mp hmem
      exact ⟨hr, l, hl, hmatch⟩
    | none =>
      simp only [leftLoop, List.mem_flatMap, mem_pairsOr] at hmem
      obtain ⟨l, -, (⟨-, hlonely⟩ | ⟨_, -, hpair⟩)⟩ := hmem
      · cases keepsLeft <;> simp at hlonely
      · cases hpair
  · rintro ⟨hr, l, hl, hmatch⟩
    exact ⟨(some l, some r), some_mem_leftLoop.mpr ⟨hl, hr, hmatch⟩, rfl⟩

/-- The pairs of a join are those of the nested loop over the keys of both sides. -/
theorem rowPairs_eq (kind : JoinKind) :
    rowPairs kind ((List.range n).map f) ((List.range m).map g) =
      nestedLoop kind n m fun l r => keysMatch (f l) (g r) := by
  cases kind with
  | inner => exact leftPairs_eq false
  | left => exact leftPairs_eq true
  | right => exact rightPairs_eq
  | outer =>
    simp only [rowPairs, nestedLoop, leftPairs_eq, List.length_map, List.length_range, unmatched]
    congr 2
    apply List.filter_congr
    intro r hr
    have hr := List.mem_range.mp hr
    simp only [mem_filterMap_leftLoop, hr, true_and]
    rw [Bool.eq_iff_iff]
    simp

theorem fst_of_mem_leftLoop {keepsLeft : Bool} {p : RowPair}
    (h : p ∈ leftLoop keepsLeft n m matching) :
    ∃ l < n, p = (some l, none) ∨ ∃ r < m, matching l r = true ∧ p = (some l, some r) := by
  simp only [leftLoop, List.mem_flatMap, List.mem_range, mem_pairsOr] at h
  obtain ⟨l, hl, (⟨-, hlonely⟩ | ⟨r, hr, rfl⟩)⟩ := h
  · refine ⟨l, hl, .inl ?_⟩
    cases keepsLeft <;> simp_all
  · have hr := List.mem_filter.mp hr
    exact ⟨l, hl, .inr ⟨r, List.mem_range.mp hr.1, hr.2, rfl⟩⟩

theorem snd_of_mem_rightLoop {p : RowPair} (h : p ∈ rightLoop n m matching) :
    ∃ r < m, p = (none, some r) ∨ ∃ l < n, matching l r = true ∧ p = (some l, some r) := by
  simp only [rightLoop, List.mem_flatMap, List.mem_range, mem_pairsOr, List.mem_singleton] at h
  obtain ⟨r, hr, (⟨-, rfl⟩ | ⟨l, hl, rfl⟩)⟩ := h
  · exact ⟨r, hr, .inl rfl⟩
  · have hl := List.mem_filter.mp hl
    exact ⟨r, hr, .inr ⟨l, List.mem_range.mp hl.1, hl.2, rfl⟩⟩

/-- A pair is a left row alone, a right row alone, or two rows that match. -/
theorem cases_of_mem_nestedLoop {kind : JoinKind} {p : RowPair}
    (h : p ∈ nestedLoop kind n m matching) :
    (∃ l < n, p = (some l, none)) ∨ (∃ r < m, p = (none, some r)) ∨
      ∃ l < n, ∃ r < m, matching l r = true ∧ p = (some l, some r) := by
  have hleft : ∀ keepsLeft, p ∈ leftLoop keepsLeft n m matching →
      (∃ l < n, p = (some l, none)) ∨ (∃ r < m, p = (none, some r)) ∨
        ∃ l < n, ∃ r < m, matching l r = true ∧ p = (some l, some r) := by
    intro keepsLeft hp
    obtain ⟨l, hl, (hlonely | ⟨r, hr, hpair⟩)⟩ := fst_of_mem_leftLoop hp
    · exact .inl ⟨l, hl, hlonely⟩
    · exact .inr (.inr ⟨l, hl, r, hr, hpair⟩)
  cases kind with
  | inner => exact hleft false h
  | left => exact hleft true h
  | right =>
    obtain ⟨r, hr, (hlonely | ⟨l, hl, hpair⟩)⟩ := snd_of_mem_rightLoop h
    · exact .inr (.inl ⟨r, hr, hlonely⟩)
    · exact .inr (.inr ⟨l, hl, r, hr, hpair⟩)
  | outer =>
    rcases List.mem_append.mp h with h | h
    · exact hleft true h
    · obtain ⟨r, hr, rfl⟩ := List.mem_map.mp h
      exact .inr (.inl ⟨r, List.mem_range.mp (List.mem_filter.mp hr).1, rfl⟩)

/-- No matching pair is lost, and every pair of two rows matches. -/
theorem some_mem_nestedLoop {kind : JoinKind} {l r : Nat} :
    (some l, some r) ∈ nestedLoop kind n m matching ↔ l < n ∧ r < m ∧ matching l r := by
  cases kind with
  | inner => exact some_mem_leftLoop
  | left => exact some_mem_leftLoop
  | right =>
    constructor
    · intro h
      obtain ⟨r', hr, (hlonely | ⟨l', hl, hmatch, hpair⟩)⟩ := snd_of_mem_rightLoop h
      · cases hlonely
      · cases hpair
        exact ⟨hl, hr, hmatch⟩
    · rintro ⟨hl, hr, hmatch⟩
      refine List.mem_flatMap.mpr ⟨r, List.mem_range.mpr hr, mem_pairsOr.mpr (.inr ⟨l, ?_, rfl⟩)⟩
      exact List.mem_filter.mpr ⟨List.mem_range.mpr hl, hmatch⟩
  | outer => simp [nestedLoop, some_mem_leftLoop]

/-- A left row stands alone exactly when it is kept and matches no right row. -/
theorem left_alone_mem_nestedLoop {kind : JoinKind} {l : Nat} :
    (some l, none) ∈ nestedLoop kind n m matching ↔
      kind.keepsLeft ∧ l < n ∧ ∀ r < m, ¬matching l r := by
  have hleft : ∀ keepsLeft, (some l, none) ∈ leftLoop keepsLeft n m matching ↔
      keepsLeft ∧ l < n ∧ ∀ r < m, ¬matching l r := by
    intro keepsLeft
    simp only [leftLoop, List.mem_flatMap, List.mem_range, mem_pairsOr, List.filter_eq_nil_iff]
    constructor
    · rintro ⟨l', hl, (⟨hnone, hlonely⟩ | ⟨_, -, hpair⟩)⟩
      · cases keepsLeft with
        | false => simp at hlonely
        | true =>
          simp only [if_true, List.mem_singleton, Prod.mk.injEq, Option.some.injEq] at hlonely
          obtain ⟨rfl, -⟩ := hlonely
          exact ⟨rfl, hl, hnone⟩
      · cases hpair
    · rintro ⟨rfl, hl, hnone⟩
      exact ⟨l, hl, .inl ⟨hnone, by simp⟩⟩
  cases kind with
  | inner => exact hleft false
  | left => exact hleft true
  | right =>
    simp only [JoinKind.keepsLeft, Bool.false_eq_true, false_and, iff_false]
    intro h
    obtain ⟨r, -, (hpair | ⟨_, -, -, hpair⟩)⟩ := snd_of_mem_rightLoop h <;> cases hpair
  | outer =>
    rw [nestedLoop, List.mem_append, hleft true]
    simp [JoinKind.keepsLeft]

/-- A right row stands alone exactly when it is kept and matches no left row. -/
theorem right_alone_mem_nestedLoop {kind : JoinKind} {r : Nat} :
    (none, some r) ∈ nestedLoop kind n m matching ↔
      (kind = .right ∨ kind = .outer) ∧ r < m ∧ ∀ l < n, ¬matching l r := by
  have hleft : ∀ keepsLeft, (none, some r) ∉ leftLoop keepsLeft n m matching := by
    intro keepsLeft h
    obtain ⟨l, -, (hpair | ⟨_, -, -, hpair⟩)⟩ := fst_of_mem_leftLoop h <;> cases hpair
  cases kind with
  | inner => simp [nestedLoop, hleft false]
  | left => simp [nestedLoop, hleft true]
  | right =>
    simp only [nestedLoop, rightLoop, List.mem_flatMap, List.mem_range, mem_pairsOr,
      List.filter_eq_nil_iff, List.mem_singleton, true_or, true_and]
    constructor
    · rintro ⟨r', hr, (⟨hnone, hlonely⟩ | ⟨_, -, hpair⟩)⟩
      · simp only [Prod.mk.injEq, Option.some.injEq, true_and] at hlonely
        subst hlonely
        exact ⟨hr, hnone⟩
      · cases hpair
    · rintro ⟨hr, hnone⟩
      exact ⟨r, hr, .inl ⟨hnone, rfl⟩⟩
  | outer => simp [nestedLoop, hleft true]

theorem nodup_pairsOr {lonely : List RowPair} {pair : Nat → RowPair} {partners : List Nat}
    (hlonely : lonely.Nodup) (hpair : Function.Injective pair) (h : partners.Nodup) :
    (pairsOr lonely pair partners).Nodup := by
  rw [pairsOr]
  split
  · exact hlonely
  · exact h.map hpair

private theorem nodup_leftLoop (keepsLeft : Bool) : (leftLoop keepsLeft n m matching).Nodup := by
  refine List.nodup_flatMap.mpr ⟨fun l _ => ?_, ?_⟩
  · refine nodup_pairsOr (by split <;> simp) (fun a b h => ?_) (List.nodup_range.filter _)
    simpa using h
  · refine List.nodup_range.imp fun {a b} hab p ha hb => hab ?_
    have hfst : ∀ {l}, p ∈ pairsOr (if keepsLeft then [(some l, none)] else [])
        (fun r => (some l, some r)) ((List.range m).filter fun r => matching l r) →
        p.1 = some l := by
      intro l hp
      rcases mem_pairsOr.mp hp with ⟨-, hlonely⟩ | ⟨r, -, rfl⟩
      · cases keepsLeft <;> simp_all
      · rfl
    exact Option.some.inj ((hfst ha).symm.trans (hfst hb))

private theorem nodup_rightLoop : (rightLoop n m matching).Nodup := by
  refine List.nodup_flatMap.mpr ⟨fun r _ => ?_, ?_⟩
  · refine nodup_pairsOr (by simp) (fun a b h => ?_) (List.nodup_range.filter _)
    simpa using h
  · refine List.nodup_range.imp fun {a b} hab p ha hb => hab ?_
    have hsnd : ∀ {r}, p ∈ pairsOr [(none, some r)] (fun l => (some l, some r))
        ((List.range n).filter fun l => matching l r) → p.2 = some r := by
      intro r hp
      rcases mem_pairsOr.mp hp with ⟨-, hlonely⟩ | ⟨l, -, rfl⟩
      · simp_all
      · rfl
    exact Option.some.inj ((hsnd ha).symm.trans (hsnd hb))

/-- No pair is found twice. -/
theorem nodup_nestedLoop (kind : JoinKind) : (nestedLoop kind n m matching).Nodup := by
  cases kind with
  | inner => exact nodup_leftLoop false
  | left => exact nodup_leftLoop true
  | right => exact nodup_rightLoop
  | outer =>
    refine (nodup_leftLoop true).append ?_ fun p hp hlonely => ?_
    · refine (List.nodup_range.filter _).map fun a b h => ?_
      simpa using h
    · obtain ⟨l, -, hpair⟩ := fst_of_mem_leftLoop hp
      obtain ⟨r, -, rfl⟩ := List.mem_map.mp hlonely
      rcases hpair with hpair | ⟨_, -, -, hpair⟩ <;> cases hpair

end Pairs
end Join
end RollCall
