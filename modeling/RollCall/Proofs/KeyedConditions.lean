import RollCall.Proofs.LooseComparison
import RollCall.Proofs.RowwiseConditions

/-!
# Conditions tell no cells of one key apart

An integer and the double of the same value have one key, and so have both zeros, and all missing
cells. No comparison of a clause tells such cells apart, so rows that have the same keys in the
columns of a condition satisfy it together.
-/
namespace RollCall

namespace Cell

variable {a b c : Cell} {v : Binary64.Extended}

theorem isMissing_eq_of_key (h : a.key = b.key) : a.isMissing = b.isMissing := by
  rw [Bool.eq_iff_iff, ← key_eq_null_iff, ← key_eq_null_iff, h]

/-- The text of a cell is that of its key. -/
theorem toText?_eq_some_iff {s : String} : c.toText? = some s ↔ c.key = .text s := by
  cases c with
  | float x => simp [toText?, key, (keyOfFloat_ne x).2 s]
  | _ => simp [toText?, key]

private theorem toText?_eq_of_key (h : a.key = b.key) : a.toText? = b.toText? := by
  apply Option.ext
  intro s
  rw [toText?_eq_some_iff, toText?_eq_some_iff, h]

/-- Of two cells with one key one stands for a number if the other does, and for the same one after
both are rounded. -/
theorem cases_of_key_eq (h : a.key = b.key) :
    (a.isMissing ∧ b.isMissing) ∨
      (∃ v, a.rounded.value? = some v ∧ b.rounded.value? = some v) ∨
      (a.isMissing = false ∧ b.isMissing = false ∧ a.toFloat? = none ∧ b.toFloat? = none) := by
  cases ha : a.isMissing with
  | true => exact .inl ⟨rfl, (isMissing_eq_of_key h).symm.trans ha⟩
  | false =>
    have hb : b.isMissing = false := (isMissing_eq_of_key h).symm.trans ha
    refine .inr ?_
    rcases exists_value?_or ha with ⟨v, v', hv, hv'⟩ | ⟨hnone, -⟩ <;>
      rcases exists_value?_or hb with ⟨w, w', hw, hw'⟩ | ⟨hnone', -⟩
    · obtain rfl := (key_eq_iff_of_value hv hw).mp h
      have heq : v' = w' :=
        le_antisymm (le_of_rounded hv hw hv' hw' le_rfl) (le_of_rounded hw hv hw' hv' le_rfl)
      exact .inl ⟨v', hv', heq ▸ hw'⟩
    · rcases key_of_value hv with ⟨n, hn, -⟩ | ⟨x, hx, -⟩ <;> cases b <;> simp_all [toFloat?, key]
    · rcases key_of_value hw with ⟨n, hn, -⟩ | ⟨x, hx, -⟩ <;> cases a <;> simp_all [toFloat?, key]
    · exact .inr ⟨rfl, hb, hnone, hnone'⟩

private theorem looseEq_of_isMissing (h : a.isMissing ∨ b.isMissing) : a.looseEq b = false := by
  rcases h with h | h <;> simp [looseEq, h]

private theorem looseCompare_of_isMissing (h : a.isMissing ∨ b.isMissing) :
    a.looseCompare b = none := by
  rcases h with h | h <;> simp [looseCompare.eq_def, h]

/-- A number has no place among what is none. -/
theorem looseCompare_of_toFloat?_none (ha : a.rounded.value? = some v) (hb : b.toFloat? = none) :
    a.looseCompare b = none := by
  obtain ⟨x, hx, -, -⟩ := exists_toFloat? ha
  cases a <;> cases hx <;> cases b <;> cases hb <;> simp [looseCompare.eq_def, toFloat?]

private theorem looseEq_eq_of_key (h : a.key = b.key) (c : Cell) : a.looseEq c = b.looseEq c := by
  cases hc : c.isMissing with
  | true => rw [looseEq_of_isMissing (.inr hc), looseEq_of_isMissing (.inr hc)]
  | false =>
    rcases cases_of_key_eq h with ⟨ha, hb⟩ | ⟨v, hv, hw⟩ | ⟨ha, hb, hanone, hbnone⟩
    · rw [looseEq_of_isMissing (.inl ha), looseEq_of_isMissing (.inl hb)]
    · rw [Bool.eq_iff_iff]
      rcases exists_value?_or hc with ⟨-, u, -, hu⟩ | ⟨hnone, -⟩
      · rw [looseEq_of_value hv hu, looseEq_of_value hw hu]
      · obtain ⟨-, -, -, ha⟩ := exists_toFloat? hv
        obtain ⟨-, -, -, hb⟩ := exists_toFloat? hw
        rw [(comparesAs_of_none ha hc (.inr hnone)).looseEq,
          (comparesAs_of_none hb hc (.inr hnone)).looseEq, h]
    · rw [Bool.eq_iff_iff, (comparesAs_of_none ha hc (.inl hanone)).looseEq,
        (comparesAs_of_none hb hc (.inl hbnone)).looseEq, h]

private theorem looseCompare_eq_of_key (h : a.key = b.key) (c : Cell) :
    a.looseCompare c = b.looseCompare c := by
  cases hc : c.isMissing with
  | true => rw [looseCompare_of_isMissing (.inr hc), looseCompare_of_isMissing (.inr hc)]
  | false =>
    rcases cases_of_key_eq h with ⟨ha, hb⟩ | ⟨v, hv, hw⟩ | ⟨ha, hb, hanone, hbnone⟩
    · rw [looseCompare_of_isMissing (.inl ha), looseCompare_of_isMissing (.inl hb)]
    · rcases exists_value?_or hc with ⟨-, u, -, hu⟩ | ⟨hnone, -⟩
      · rw [looseCompare_of_value hv hu, looseCompare_of_value hw hu]
      · rw [looseCompare_of_toFloat?_none hv hnone, looseCompare_of_toFloat?_none hw hnone]
    · -- What is no number and not missing is its key.
      have heq : a = b := by
        cases a <;> cases b <;> simp_all [toFloat?, key, isMissing]
      rw [heq]

end Cell

/-- No clause tells cells of one key apart. -/
theorem Clause.holds_eq_of_key [Library] (c : Clause) {a b : Cell} (h : a.key = b.key) :
    c.holds a = c.holds b := by
  have hmissing := Cell.isMissing_eq_of_key h
  have htext := Cell.toText?_eq_of_key h
  have heq : a.looseEq = b.looseEq := funext (Cell.looseEq_eq_of_key h)
  have hcompare : a.looseCompare = b.looseCompare := funext (Cell.looseCompare_eq_of_key h)
  unfold holds test?
  cases c.comparison
  case matching =>
    cases Library.compile (needle c.literal) with
    | error reason => rfl
    | ok occurs => simp only [textual, htext]
  all_goals simp only [textual, htext, heq, hcompare, hmissing]

namespace Condition

variable {row row' : String → Cell}

theorem holdsEach_eq_map [Library] (row : String → Cell) (cs : List Condition) :
    holdsEach row cs = cs.map (holds row) := by
  induction cs with
  | nil => rfl
  | cons c cs ih => rw [holdsEach, ih, List.map_cons]

/-- Rows with the same keys in the columns of a condition satisfy it together. -/
theorem holds_eq_of_keys [Library] {c : Condition}
    (h : ∀ clause ∈ c.clauses, (row clause.column).key = (row' clause.column).key) :
    c.holds row = c.holds row' := by
  induction c using inductionOn with
  | all cs ih =>
    rw [holds, holds, holdsEach_eq_map, holdsEach_eq_map]
    rw [List.map_congr_left fun c hc => ih c hc fun clause hclause =>
      h clause (mem_clausesOf.mpr ⟨c, hc, hclause⟩)]
  | any cs ih =>
    rw [holds, holds, holdsEach_eq_map, holdsEach_eq_map]
    rw [List.map_congr_left fun c hc => ih c hc fun clause hclause =>
      h clause (mem_clausesOf.mpr ⟨c, hc, hclause⟩)]
  | not c ih => rw [holds, holds, ih h]
  | clause c => exact c.holds_eq_of_key (h c List.mem_cons_self)

/-- Whether a condition is refused depends on which of its columns are there. -/
theorem check_eq_of_names [Library] {names names' : List String} {c : Condition}
    (h : ∀ clause ∈ c.clauses, clause.column ∈ names ↔ clause.column ∈ names') :
    c.check names = c.check names' := by
  rw [check, check]
  revert h
  generalize c.clauses = clauses
  intro h
  induction clauses with
  | nil => rfl
  | cons clause clauses ih =>
    have hfirst : clause.check names = clause.check names' := by
      simp only [Clause.check, h clause List.mem_cons_self]
    rw [List.forM_cons, List.forM_cons, hfirst,
      ih fun other hother => h other (List.mem_cons_of_mem _ hother)]

/-- A condition that is not refused mentions columns that are there. -/
theorem mem_names_of_check [Library] {names : List String} {c : Condition}
    (h : c.check names = .ok ()) :
    ∀ clause ∈ c.clauses, clause.column ∈ names := by
  rw [check] at h
  revert h
  generalize c.clauses = clauses
  intro h
  induction clauses with
  | nil => simp
  | cons clause clauses ih =>
    rw [List.forM_cons, Outcome.bind_eq_ok] at h
    obtain ⟨_, hfirst, hrest⟩ := h
    intro other hother
    rcases List.mem_cons.mp hother with rfl | hother
    · rw [Clause.check] at hfirst
      split at hfirst
      · cases hfirst
      · next hmem => exact not_not.mp hmem
    · exact ih hrest other hother

end Condition
end RollCall
