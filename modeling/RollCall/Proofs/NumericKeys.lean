import RollCall.Proofs.FloatComparison
import RollCall.Proofs.KeyOrder
import RollCall.Proofs.NearestDoubles

/-!
# The keys of numbers

The key of a cell that stands for a number is its integer where it is one of 64 bits, and else the
double itself. So keys of numbers are in the order of the exact values, although an integer is
rounded before it is compared with a double.
-/
namespace RollCall

open Binary64

def Cell.value? : Cell → Option Extended
  | .int n => some (.ofRat n.toInt)
  | .float x => Binary64.value? x
  | _ => none

def Binary64.Extended.NotInt64 (v : Extended) : Prop :=
  ∀ j : Int, -2 ^ 63 ≤ j → j < 2 ^ 63 → v ≠ .ofRat j

namespace Cell

variable {a b c : Cell} {v w : Extended}

/-- The key of a number is the integer that it is, or a double that is no 64-bit integer. -/
theorem key_of_value (h : c.value? = some v) :
    (∃ n : Int64, c.key = .int n ∧ .ofRat n.toInt = v) ∨
      ∃ x, c.key = .number x ∧ Binary64.value? x = some v ∧ v.NotInt64 := by
  cases c with
  | int n => exact .inl ⟨n, rfl, Option.some.inj h⟩
  | float x =>
    have hnumber : x.isNaN ≠ true := by
      have hvalue : Binary64.value? x = some v := h
      rw [Ne, isNaN_iff, hvalue]
      exact Option.some_ne_none v
    simp only [key, keyOfFloat, if_neg hnumber]
    split
    · next n hn =>
      obtain ⟨j, hj, hfits⟩ := Option.bind_eq_some_iff.mp hn
      refine .inl ⟨n, rfl, ?_⟩
      rw [Checked.toInt_of_ofInt? hfits]
      exact Option.some.inj ((integer?_eq_some.mp hj).symm.trans h)
    · next hn =>
      refine .inr ⟨x, rfl, h, fun j hlower hupper hv => ?_⟩
      have hinteger : integer? x = some j := integer?_eq_some.mpr (h.trans (congrArg some hv))
      rw [hinteger, Option.bind_some, Checked.ofInt?_eq_none_iff] at hn
      omega
  | _ => cases h

/-- The order of the keys of numbers is the order of the exact values. -/
theorem compare_key_of_value (ha : a.value? = some v) (hb : b.value? = some w) :
    Key.compare a.key b.key = cmp v w := by
  -- The double of a key that is a number is no 64-bit integer, so an integer falls together with it
  -- only by being rounded.
  have hmixed : ∀ {n : Int64} {x : Float} {u : Extended}, Binary64.value? x = some u → u.NotInt64 →
      Key.compare (.int n) (.number x) = cmp (.ofRat n.toInt) u :=
    fun {n x u} hx hu => compare_ofInt ⟨n.le_toInt, n.toInt_lt⟩ hx hu
  rcases key_of_value ha with ⟨n, hn, rfl⟩ | ⟨x, hx, hvalue, hv⟩ <;>
    rcases key_of_value hb with ⟨m, hm, rfl⟩ | ⟨y, hy, hvalue', hw⟩
  · rw [hn, hm, ofRat_strictMono.cmp_map_eq, Int.cast_strictMono.cmp_map_eq, cmp_eq_compare]
    rfl
  · rw [hn, hy]
    exact hmixed hvalue' hw
  · have hswap : Key.compare (.number x) (.int m) = (Key.compare (.int m) (.number x)).swap :=
      Std.OrientedCmp.eq_swap
    rw [hx, hm, hswap, hmixed hvalue hv, cmp_swap]
  · have hzero := numberRank_ne_zero hvalue (hv 0 (by omega) (by omega))
    rw [hx, hy, cmp_value hvalue hvalue']
    exact totalCompare_eq (.inl hzero)

theorem key_eq_iff_of_value (ha : a.value? = some v) (hb : b.value? = some w) :
    a.key = b.key ↔ v = w := by
  have heq : Key.compare a.key b.key = .eq ↔ a.key = b.key := Std.LawfulEqCmp.compare_eq_iff_eq
  rw [← heq, compare_key_of_value ha hb, cmp_eq_eq_iff]

end Cell

/-- A comparison by which exactly one of two different members comes before the other. -/
structure IsLinear {α : Type} (compare : α → α → Ordering) : Prop where
  swap : ∀ a b, compare b a = (compare a b).swap
  eq_iff : ∀ a b, compare a b = .eq ↔ a = b
  trichotomy : ∀ a b, (compare a b = .lt ∧ a ≠ b ∧ compare b a ≠ .lt) ∨
    (compare a b ≠ .lt ∧ a = b ∧ compare b a ≠ .lt) ∨
    (compare a b ≠ .lt ∧ a ≠ b ∧ compare b a = .lt)
  lt_trans : ∀ a b c, compare a b = .lt → compare b c = .lt → compare a c = .lt
  le_trans : ∀ a b c, (compare a b).isLE → (compare b c).isLE → (compare a c).isLE

private theorem isLinear_of_lawful {α : Type} (compare : α → α → Ordering) [Std.TransCmp compare]
    [Std.LawfulEqCmp compare] : IsLinear compare where
  swap a b := Std.OrientedCmp.eq_swap
  eq_iff a b := Std.LawfulEqCmp.compare_eq_iff_eq
  trichotomy a b := by
    have hswap : compare b a = (compare a b).swap := Std.OrientedCmp.eq_swap
    have heq : compare a b = .eq ↔ a = b := Std.LawfulEqCmp.compare_eq_iff_eq
    simp only [hswap, ne_eq, ← heq]
    generalize compare a b = order
    cases order <;> decide
  lt_trans a b c := Std.TransCmp.lt_trans
  le_trans a b c := Std.TransCmp.isLE_trans

/-- Keys are linearly ordered, whatever the bit patterns of their numbers, and equal keys write the
same to a hasher. The order of the keys of two numbers is that of the exact values. -/
theorem Key.linear_and_exact :
    IsLinear RawKey.compare ∧ (∀ a b, RawKey.compare a b = .eq → a.hashed = b.hashed) ∧
      IsLinear Key.compare ∧ (∀ a b : Key, Key.compare a b = RawKey.compare a.raw b.raw) ∧
      (∀ a b : Key, a.raw = b.raw → a = b) ∧
      ∀ (a b : Cell) (v w : Extended), a.value? = some v → b.value? = some w →
        Key.compare a.key b.key = cmp v w := by
  refine ⟨isLinear_of_lawful RawKey.compare, fun a b h => ?_, isLinear_of_lawful Key.compare,
    compare_eq_raw, fun a b => raw_injective, fun a b v w => Cell.compare_key_of_value⟩
  rw [Std.LawfulEqCmp.eq_of_compare h]

/-- An integer that is rounded down to a number comes after it, one that is rounded up to `2^63`
before it, and a key of no number may come before all numbers or after them. -/
theorem Key.linear_and_exact_sample :
    Key.compare (Cell.key (.int 9007199254740993)) (Cell.key (.float 9007199254740992)) = .gt ∧
      Key.compare (Cell.key (.int 9223372036854775807))
        (Cell.key (.float 9223372036854775808)) = .lt ∧
      RawKey.compare (.number 0xFFF8000000000001) (.number 0x7FF8000000000001) = .lt := by
  obtain ⟨hraw, -, -, -, -, hexact⟩ := Key.linear_and_exact
  have hdown : Cell.value? (.float 9007199254740992) = some (.ofRat (9007199254740992 : Int)) :=
    integer?_eq_some.mp (by decide)
  have hup : Cell.value? (.float 9223372036854775808) = some (.ofRat (9223372036854775808 : Int)) :=
    integer?_eq_some.mp (by decide)
  refine ⟨?_, ?_, hraw.lt_trans _ (.int 5) _ (by decide) (by decide)⟩
  · rw [hexact _ _ _ _ rfl hdown, cmp_eq_gt_iff, ofRat_strictMono.lt_iff_lt]
    decide
  · rw [hexact _ _ _ _ rfl hup, cmp_eq_lt_iff, ofRat_strictMono.lt_iff_lt]
    decide

end RollCall
