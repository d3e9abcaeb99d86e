import Mathlib.Data.List.Nodup
import Mathlib.Data.List.Perm.Basic
import RollCall.Votes.Cache

/-!
# Entries by key

What is looked up by its key is an entry of the list. A list of entries in which no division occurs
twice is as good in any order: the entry of a division is found wherever it stands, and dropping it
leaves the others. So it is with the fields of an object.
-/
namespace RollCall

/-- What is looked up by its key is an entry. -/
theorem mem_of_lookup {κ β : Type} [DecidableEq κ] {k : κ} {v : β} {xs : List (κ × β)}
    (h : (xs.find? fun entry => entry.1 = k).map Prod.snd = some v) : (k, v) ∈ xs := by
  obtain ⟨entry, hentry, rfl⟩ := Option.map_eq_some_iff.mp h
  have hk : entry.1 = k := by simpa using List.find?_some hentry
  exact hk ▸ List.mem_of_find?_eq_some hentry

namespace Cache

variable {β : Type} {d : Division} {v : β} {xs ys : List (Division × β)}

theorem map_fst_drop (d : Division) (xs : List (Division × β)) :
    (drop d xs).map Prod.fst = (xs.map Prod.fst).filter (· ≠ d) := by
  rw [drop, List.filter_map]
  rfl

theorem drop_eq_self (h : d ∉ xs.map Prod.fst) : drop d xs = xs := by
  refine List.filter_eq_self.mpr fun entry hentry => decide_eq_true ?_
  rintro rfl
  exact h (List.mem_map_of_mem hentry)

theorem drop_append_singleton (h : ((xs ++ [(d, v)]).map Prod.fst).Nodup) :
    drop d (xs ++ [(d, v)]) = xs := by
  have hlast : d ∉ xs.map Prod.fst := by
    rw [List.map_append, List.nodup_append] at h
    exact fun hmem => h.2.2 d hmem d (by simp) rfl
  have hself : drop d [(d, v)] = [] := by simp [drop]
  calc drop d (xs ++ [(d, v)]) = drop d xs ++ drop d [(d, v)] := List.filter_append _ _
    _ = xs := by rw [drop_eq_self hlast, hself, List.append_nil]

theorem find?_eq_none_iff : find? d xs = none ↔ d ∉ xs.map Prod.fst := by
  simp only [find?, Option.map_eq_none_iff, List.find?_eq_none, List.mem_map, decide_eq_true_eq,
    not_exists, not_and]

theorem mem_of_find? (h : find? d xs = some v) : (d, v) ∈ xs :=
  mem_of_lookup h

private theorem find?_eq_some_iff (hnodup : (xs.map Prod.fst).Nodup) :
    find? d xs = some v ↔ (d, v) ∈ xs := by
  refine ⟨mem_of_find?, fun h => ?_⟩
  cases hfind : find? d xs with
  | none => exact absurd (List.mem_map_of_mem h) (find?_eq_none_iff.mp hfind)
  | some w =>
    have heq := List.inj_on_of_nodup_map hnodup (mem_of_find? hfind) h rfl
    rw [(Prod.mk.inj heq).2]

theorem find?_perm (h : xs.Perm ys) (hnodup : (ys.map Prod.fst).Nodup) :
    find? d xs = find? d ys := by
  have hnodup' : (xs.map Prod.fst).Nodup := (h.map Prod.fst).nodup_iff.mpr hnodup
  apply Option.ext
  intro v
  rw [find?_eq_some_iff hnodup, find?_eq_some_iff hnodup', h.mem_iff]

theorem perm_cons_drop (hnodup : (xs.map Prod.fst).Nodup) (h : (d, v) ∈ xs) :
    xs.Perm ((d, v) :: drop d xs) := by
  induction xs with
  | nil => cases h
  | cons x xs ih =>
    obtain ⟨hx, hxs⟩ := List.nodup_cons.mp hnodup
    rcases List.mem_cons.mp h with rfl | h
    · have hdrop : drop d ((d, v) :: xs) = xs := by
        rw [drop, List.filter_cons_of_neg (by simp)]
        exact drop_eq_self hx
      rw [hdrop]
    · have hne : x.1 ≠ d := fun heq => hx (heq ▸ List.mem_map_of_mem h)
      have hdrop : drop d (x :: xs) = x :: drop d xs :=
        List.filter_cons_of_pos (decide_eq_true hne)
      rw [hdrop]
      exact ((ih hxs h).cons x).trans (.swap _ _ _)

end Cache

theorem Json.lookup_eq_none {key : String} {fields : List (String × Json)}
    (h : key ∉ fields.map Prod.fst) : lookup key fields = none := by
  induction fields with
  | nil => rfl
  | cons field fields ih =>
    obtain ⟨hfield, hfields⟩ := not_or.mp (mt List.mem_cons.mpr h)
    rw [lookup, if_neg (Ne.symm hfield), ih hfields]

/-- The fields of an object may stand in any order if no key is repeated. -/
theorem Json.lookup_perm {xs ys : List (String × Json)} (h : xs.Perm ys)
    (hnodup : (ys.map Prod.fst).Nodup) (key : String) : lookup key xs = lookup key ys := by
  induction h with
  | nil => rfl
  | cons field h ih => rw [lookup, lookup, ih (List.nodup_cons.mp hnodup).2]
  | swap field other fields =>
    have hne : field.1 ≠ other.1 := fun heq => by simp [heq] at hnodup
    simp only [lookup]
    split
    · next hother =>
      rw [if_neg (fun hfield => hne (hfield.trans hother.symm))]
    · rfl
  | trans h h' ih ih' => rw [ih ((h'.map Prod.fst).nodup_iff.mpr hnodup), ih' hnodup]

end RollCall
