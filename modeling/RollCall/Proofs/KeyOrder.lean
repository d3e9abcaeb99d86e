import RollCall.Cell.Basic
import RollCall.Proofs.RawKeys

/-!
# The order of keys

Keys are compared as the raw keys with the bit patterns of their numbers. So keys are linearly
ordered, and so are lists of keys.
-/
namespace RollCall.Key

/-- The key with the bit pattern of its number. -/
def raw : Key → RawKey
  | .bool b => .bool b
  | .int n => .int n
  | .number x => .number x.toBits
  | .text s => .text s
  | .null => .null

theorem compare_eq_raw (a b : Key) : Key.compare a b = RawKey.compare a.raw b.raw := by
  cases a <;> cases b <;> rfl

private theorem toBits_injective {x y : Float} (h : x.toBits = y.toBits) : x = y := by
  obtain ⟨⟨bits, _⟩⟩ := x
  obtain ⟨⟨bits', _⟩⟩ := y
  have heq : bits = bits' := h
  subst heq
  rfl

theorem raw_injective {a b : Key} (h : a.raw = b.raw) : a = b := by
  cases a <;> cases b
  case number.number x y => rw [toBits_injective (RawKey.number.inj h)]
  all_goals cases h <;> rfl

instance : Std.TransCmp Key.compare where
  eq_swap {a b} := by
    rw [compare_eq_raw, compare_eq_raw]
    exact Std.OrientedCmp.eq_swap
  isLE_trans {a b c} hab hbc := by
    rw [compare_eq_raw] at *
    exact Std.TransCmp.isLE_trans hab hbc

instance : Std.LawfulEqCmp Key.compare where
  compare_self {a} := by
    rw [compare_eq_raw]
    exact Std.ReflCmp.compare_self
  eq_of_compare {a b} h := by
    rw [compare_eq_raw] at h
    exact raw_injective (Std.LawfulEqCmp.eq_of_compare h)

theorem compareList_eq : compareList = List.compareLex Key.compare := by
  funext as bs
  induction as generalizing bs with
  | nil => cases bs <;> rfl
  | cons a as ih =>
    cases bs with
    | nil => rfl
    | cons b bs => rw [compareList, List.compareLex_cons_cons, ih]

instance : Std.TransCmp compareList := by
  rw [compareList_eq]
  infer_instance

instance : Std.LawfulEqCmp compareList := by
  rw [compareList_eq]
  infer_instance

/-- The key of a missing cell comes after every other. -/
theorem compare_null {k : Key} (h : k ≠ .null) : Key.compare k .null = .lt := by
  cases k with
  | null => exact absurd rfl h
  | _ => rfl

end RollCall.Key
