import Mathlib.Algebra.GroupWithZero.Nat
import Mathlib.Data.List.Nodup
import Mathlib.Data.List.Perm.Subperm

/-!
# Lists

A list is read back by its positions, is as long as its parts by value together, keeps what passes a
test when only other members go, and loses just its repeats when these are erased.
-/
namespace RollCall

variable {α β : Type}

theorem map_getD_range (xs : List α) (d : α) :
    (List.range xs.length).map (fun j => xs.getD j d) = xs := by
  refine List.ext_getElem (by simp) fun j hj _ => ?_
  rw [List.length_map, List.length_range] at hj
  simp [hj]

/-- A list is as long as its parts of each value together. -/
theorem sum_length_filter [DecidableEq β] (f : α → β) {ks : List β} (hks : ks.Nodup)
    {xs : List α} (h : ∀ x ∈ xs, f x ∈ ks) :
    (ks.map fun k => (xs.filter fun x => f x = k).length).sum = xs.length := by
  induction ks generalizing xs with
  | nil =>
    obtain rfl := List.eq_nil_iff_forall_not_mem.mpr fun x hx => List.not_mem_nil (h x hx)
    rfl
  | cons k ks ih =>
    obtain ⟨hk, hks⟩ := List.nodup_cons.mp hks
    have hrest : ∀ x ∈ xs.filter fun x => !decide (f x = k), f x ∈ ks := by
      intro x hx
      obtain ⟨hx, hne⟩ := List.mem_filter.mp hx
      exact (List.mem_cons.mp (h x hx)).resolve_left (by simpa using hne)
    have hparts : ∀ l ∈ ks, ((xs.filter fun x => !decide (f x = k)).filter fun x => f x = l) =
        xs.filter fun x => f x = l := by
      intro l hl
      rw [List.filter_filter]
      refine List.filter_congr fun x _ => ?_
      by_cases hx : f x = l
      · have hne : l ≠ k := fun heq => hk (heq ▸ hl)
        simp [hx, hne]
      · simp [hx]
    have hsplit : xs.length = (xs.filter fun x => decide (f x = k)).length +
        (xs.filter fun x => !decide (f x = k)).length := List.length_eq_length_filter_add _
    rw [List.map_cons, List.sum_cons, hsplit, ← ih hks hrest]
    exact congrArg (_ + List.sum ·) (List.map_congr_left fun l hl => by rw [hparts l hl])

/-- A part of a list that has all its members of a kind has them as often and in the same order. -/
theorem filter_of_sublist {xs ys : List α} {p : α → Bool} (hxs : xs.Sublist ys) (hys : ys.Nodup)
    (h : ∀ y ∈ ys, p y → y ∈ xs) : xs.filter p = ys.filter p := by
  refine (hxs.filter p).eq_of_length_le (List.Subperm.length_le ?_)
  refine (hys.filter p).subperm fun y hy => ?_
  obtain ⟨hy, hp⟩ := List.mem_filter.mp hy
  exact List.mem_filter.mpr ⟨h y hy hp, hp⟩

/-- Erasing repeats leaves a part of the list, without repeats. -/
theorem eraseDups_sublist_and_nodup [BEq α] [LawfulBEq α] (xs : List α) :
    xs.eraseDups.Sublist xs ∧ xs.eraseDups.Nodup := by
  induction hn : xs.length using Nat.strongRecOn generalizing xs with
  | ind n ih =>
    cases xs with
    | nil => simp
    | cons x xs =>
      have hlt : (xs.filter fun y => !y == x).length < n :=
        hn ▸ Nat.lt_succ_of_le (List.length_filter_le _ _)
      obtain ⟨hsub, hnodup⟩ := ih _ hlt _ rfl
      rw [List.eraseDups_cons]
      exact ⟨(hsub.trans List.filter_sublist).cons_cons x, List.nodup_cons.mpr ⟨by simp, hnodup⟩⟩

theorem length_eq_eraseDups [DecidableEq α] {xs ys : List α} (hxs : xs.Nodup)
    (h : ∀ x, x ∈ xs ↔ x ∈ ys) : xs.length = ys.eraseDups.length := by
  refine List.Perm.length_eq ((List.perm_ext_iff_of_nodup hxs ?_).mpr fun x => ?_)
  · exact (eraseDups_sublist_and_nodup ys).2
  · rw [List.mem_eraseDups, h]

end RollCall
