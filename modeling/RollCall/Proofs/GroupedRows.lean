import RollCall.Aggregation.Basic
import RollCall.Proofs.KeyOrder
import RollCall.Proofs.Rows

/-!
# The rows of a group

A grouping is built row by row. At every moment its keys rise strictly, they are the keys of the
rows so far, and beside each of them stand the rows of that key in their order. Every fact about
groups follows from these three.
-/
namespace RollCall

namespace Grouping

variable {key k : List Key} {row n : Nat} {groups : Grouping} {keyOf : Nat → List Key}

def keys (groups : Grouping) : List (List Key) :=
  groups.map Prod.fst

def Rising (keys : List (List Key)) : Prop :=
  keys.Pairwise fun k l => Key.compareList k l = .lt

theorem ne_of_compareList (h : Key.compareList k key = .lt) : k ≠ key := by
  rintro rfl
  have hself : Key.compareList k k = .eq := Std.ReflCmp.compare_self
  rw [hself] at h
  cases h

/-- Keys that rise are in the only order they can be in. -/
theorem Rising.ext {ks ls : List (List Key)} (hks : Rising ks) (hls : Rising ls)
    (h : ∀ k, k ∈ ks ↔ k ∈ ls) : ks = ls := by
  have hperm : ks.Perm ls :=
    (List.perm_ext_iff_of_nodup (hks.imp ne_of_compareList) (hls.imp ne_of_compareList)).mpr h
  refine hperm.eq_of_pairwise (fun k l _ _ hlt hgt => ?_) hks hls
  have hswap : Key.compareList l k = (Key.compareList k l).swap := Std.OrientedCmp.eq_swap
  rw [hswap, hlt] at hgt
  cases hgt

theorem mem_keys_add : k ∈ (add key row groups).keys ↔ k = key ∨ k ∈ groups.keys := by
  induction groups with
  | nil => simp [add, keys]
  | cons first groups ih =>
    obtain ⟨l, rows⟩ := first
    rw [add]
    split
    · simp [keys]
    · next heq =>
      have hkey : key = l := Std.LawfulEqCmp.eq_of_compare heq
      simp [keys, hkey]
    · simp only [keys, List.map_cons, List.mem_cons] at ih ⊢
      rw [ih]
      exact or_left_comm

private theorem rising_add (h : Rising groups.keys) : Rising (add key row groups).keys := by
  induction groups with
  | nil => exact List.pairwise_singleton _ _
  | cons first groups ih =>
    obtain ⟨l, rows⟩ := first
    obtain ⟨hfirst, hrest⟩ := List.pairwise_cons.mp h
    rw [add]
    split
    · next hlt =>
      refine List.pairwise_cons.mpr ⟨fun k hk => ?_, h⟩
      rcases List.mem_cons.mp hk with rfl | hk
      · exact hlt
      · exact Std.TransCmp.lt_trans hlt (hfirst k hk)
    · exact h
    · next hgt =>
      refine List.pairwise_cons.mpr ⟨fun k hk => ?_, ih hrest⟩
      rcases mem_keys_add.mp hk with rfl | hk
      · exact Std.OrientedCmp.lt_of_gt hgt
      · exact hfirst k hk

/-- After a row is added a group is one of another key as it was, or the group of that key, which
may be new. -/
theorem cases_of_mem_add (h : Rising groups.keys) {g : List Key × List Nat}
    (hg : g ∈ add key row groups) :
    (g ∈ groups ∧ g.1 ≠ key) ∨ (∃ rows, (key, rows) ∈ groups ∧ g = (key, rows ++ [row])) ∨
      (key ∉ groups.keys ∧ g = (key, [row])) := by
  induction groups with
  | nil =>
    rw [add, List.mem_singleton] at hg
    exact .inr (.inr ⟨List.not_mem_nil, hg⟩)
  | cons first groups ih =>
    obtain ⟨l, rows⟩ := first
    obtain ⟨hfirst, hrest⟩ := List.pairwise_cons.mp h
    rw [add] at hg
    split at hg
    · next hlt =>
      -- The key is below the first one and so below all of them.
      have hbelow : ∀ k ∈ Grouping.keys ((l, rows) :: groups), key ≠ k := by
        intro k hk
        rcases List.mem_cons.mp hk with rfl | hk
        · exact ne_of_compareList hlt
        · exact ne_of_compareList (Std.TransCmp.lt_trans hlt (hfirst k hk))
      rcases List.mem_cons.mp hg with rfl | hg
      · exact .inr (.inr ⟨fun hmem => hbelow key hmem rfl, rfl⟩)
      · exact .inl ⟨hg, (hbelow g.1 (List.mem_map_of_mem hg)).symm⟩
    · next heq =>
      have hkey : key = l := Std.LawfulEqCmp.eq_of_compare heq
      subst hkey
      rcases List.mem_cons.mp hg with rfl | hg
      · exact .inr (.inl ⟨rows, List.mem_cons_self, rfl⟩)
      · exact .inl ⟨List.mem_cons_of_mem _ hg,
          (ne_of_compareList (hfirst g.1 (List.mem_map_of_mem hg))).symm⟩
    · next hgt =>
      have hne : l ≠ key := ne_of_compareList (Std.OrientedCmp.lt_of_gt hgt)
      rcases List.mem_cons.mp hg with rfl | hg
      · exact .inl ⟨List.mem_cons_self, hne⟩
      · rcases ih hrest hg with ⟨hold, hother⟩ | ⟨old, hold, rfl⟩ | ⟨hnew, rfl⟩
        · exact .inl ⟨List.mem_cons_of_mem _ hold, hother⟩
        · exact .inr (.inl ⟨old, List.mem_cons_of_mem _ hold, rfl⟩)
        · refine .inr (.inr ⟨fun hmem => ?_, rfl⟩)
          rcases List.mem_cons.mp hmem with heq | hmem
          · exact hne heq.symm
          · exact hnew hmem

/-- A grouping of the first `n` rows by their keys. -/
structure Collects (keyOf : Nat → List Key) (n : Nat) (groups : Grouping) : Prop where
  rising : Rising groups.keys
  mem_keys_iff : ∀ k, k ∈ groups.keys ↔ ∃ row < n, keyOf row = k
  rows_eq : ∀ g ∈ groups, g.2 = (List.range n).filter fun row => keyOf row = g.1

theorem Collects.eq_map (h : Collects keyOf n groups) :
    groups = groups.keys.map fun k => (k, (List.range n).filter fun row => keyOf row = k) := by
  rw [keys, List.map_map]
  conv_lhs => rw [← List.map_id groups]
  exact List.map_congr_left fun g hg => Prod.ext rfl (h.rows_eq g hg)

theorem Collects.ne_nil (h : Collects keyOf n groups) {g : List Key × List Nat} (hg : g ∈ groups) :
    g.2 ≠ [] := by
  obtain ⟨row, hrow, hkey⟩ := (h.mem_keys_iff g.1).mp (List.mem_map_of_mem hg)
  rw [h.rows_eq g hg]
  exact List.ne_nil_of_mem (List.mem_filter.mpr ⟨List.mem_range.mpr hrow, decide_eq_true hkey⟩)

private theorem collects_nil (keyOf : Nat → List Key) : Collects keyOf 0 [] where
  rising := List.Pairwise.nil
  mem_keys_iff k := by simp [keys]
  rows_eq g hg := absurd hg List.not_mem_nil

private theorem Collects.add (h : Collects keyOf n groups) :
    Collects keyOf (n + 1) (add (keyOf n) n groups) where
  rising := rising_add h.rising
  mem_keys_iff k := by
    rw [mem_keys_add, h.mem_keys_iff, Nat.exists_lt_succ_right, or_comm, eq_comm (a := k)]
  rows_eq g hg := by
    -- The row `n` comes last, so it goes to the end of its own group and leaves the others alone.
    rw [List.range_succ, List.filter_append]
    rcases cases_of_mem_add h.rising hg with ⟨hold, hother⟩ | ⟨rows, hold, rfl⟩ | ⟨hnew, rfl⟩
    · rw [h.rows_eq g hold, List.filter_singleton, decide_eq_false hother.symm]
      exact (List.append_nil _).symm
    · have hrows : rows = (List.range n).filter fun row => keyOf row = keyOf n :=
        h.rows_eq _ hold
      rw [List.filter_singleton, decide_eq_true rfl]
      exact congrArg (· ++ [n]) hrows
    · have hnone : (List.range n).filter (fun row => keyOf row = keyOf n) = [] := by
        rw [List.filter_eq_nil_iff]
        intro row hrow heq
        exact hnew ((h.mem_keys_iff _).mpr ⟨row, List.mem_range.mp hrow, of_decide_eq_true heq⟩)
      rw [hnone, List.filter_singleton, decide_eq_true rfl]
      rfl

theorem ofKeys_map_range_succ (keyOf : Nat → List Key) (n : Nat) :
    ofKeys ((List.range (n + 1)).map keyOf) =
      add (keyOf n) n (ofKeys ((List.range n).map keyOf)) := by
  simp only [ofKeys, zipIdx_map_range, List.foldl_map]
  rw [List.range_succ, List.foldl_append]
  rfl

theorem collects_ofKeys (keyOf : Nat → List Key) (n : Nat) :
    Collects keyOf n (ofKeys ((List.range n).map keyOf)) := by
  induction n with
  | zero => exact collects_nil keyOf
  | succ n ih =>
    rw [ofKeys_map_range_succ]
    exact ih.add

end Grouping

namespace Aggregation

open Grouping (Collects Rising)

variable {t : Table} {columns : List Column}

/-- The groups collect the rows, apart from the one group of no rows. -/
theorem groups_cases (hcolumns : ∀ c ∈ columns, c.length = t.rowCount) :
    (columns = [] ∧ t.rowCount = 0 ∧ groups t columns = [([], [])]) ∨
      (columns = [] → t.rowCount ≠ 0) ∧
        Collects (rowKey columns) t.rowCount (groups t columns) := by
  have hcollects := Grouping.collects_ofKeys (rowKey columns) t.rowCount
  rw [← groupKeys_eq hcolumns] at hcollects
  unfold groups
  split
  · next hnone =>
    rw [hnone] at hcollects
    refine .inl ⟨rfl, Nat.eq_zero_of_not_pos fun hpos => ?_, rfl⟩
    have hmem := (hcollects.mem_keys_iff []).mpr ⟨0, hpos, rfl⟩
    cases hmem
  · next hsome =>
    refine .inr ⟨?_, hcollects⟩
    rintro rfl hzero
    exact hsome rfl (by rw [hzero]; rfl)

theorem mem_keys_groups (hcolumns : ∀ c ∈ columns, c.length = t.rowCount) (k : List Key) :
    k ∈ (groups t columns).keys ↔
      (∃ row < t.rowCount, rowKey columns row = k) ∨ columns = [] ∧ k = [] := by
  rcases groups_cases hcolumns with ⟨hnone, hzero, hgroups⟩ | ⟨hsome, hcollects⟩
  · rw [hgroups, hzero, hnone]
    simp [Grouping.keys]
  · rw [hcollects.mem_keys_iff]
    constructor
    · exact .inl
    · rintro (hrow | ⟨rfl, rfl⟩)
      · exact hrow
      · exact ⟨0, Nat.pos_of_ne_zero (hsome rfl), rfl⟩

theorem rising_groups (hcolumns : ∀ c ∈ columns, c.length = t.rowCount) :
    Rising (groups t columns).keys := by
  rcases groups_cases hcolumns with ⟨-, -, hgroups⟩ | ⟨-, hcollects⟩
  · rw [hgroups]
    exact List.pairwise_singleton _ _
  · exact hcollects.rising

theorem rows_of_mem_groups (hcolumns : ∀ c ∈ columns, c.length = t.rowCount)
    {g : List Key × List Nat} (hg : g ∈ groups t columns) :
    g.2 = (List.range t.rowCount).filter fun row => rowKey columns row = g.1 := by
  rcases groups_cases hcolumns with ⟨-, hzero, hgroups⟩ | ⟨-, hcollects⟩
  · rw [hgroups, List.mem_singleton] at hg
    rw [hg, hzero]
    rfl
  · exact hcollects.rows_eq g hg

end Aggregation
end RollCall
