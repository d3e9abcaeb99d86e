import RollCall.Proofs.ExactValues

/-!
# Comparisons of doubles

Comparisons of doubles take them apart into sign, mantissa and exponent. They compare the values:
the place in the order of numbers is the exponent and the mantissa written one after the other, so
that it is ordered as they are.
-/
namespace RollCall.Binary64

open Float.Model Float.Model.UnpackedFloat

/-- The place in the order of numbers of a double that is taken apart. -/
def unpackedRank : UnpackedFloat → Int
  | .notANumber => infinityPattern + 1
  | .infinity s => s.apply infinityPattern
  | .zero _ => 0
  | .finite s m e _ => s.apply ((e + 1074) * 2 ^ 52 + m)

theorem unpackedRank_infinity (s : Sign) :
    unpackedRank (.infinity s) = s.apply infinityPattern := rfl

private theorem unpackedRank_zero (s : Sign) : unpackedRank (.zero s) = 0 := rfl

private theorem unpackedRank_finite (s : Sign) (m : Nat) (e : Int) (h : 0 < m) :
    unpackedRank (.finite s m e h) = s.apply ((e + 1074) * 2 ^ 52 + m) := rfl

/-- The double is taken apart in the one way in which mantissas below `2^52` have the least
exponent. -/
def Canonical : UnpackedFloat → Prop
  | .finite _ m e _ => -1074 ≤ e ∧ e < 972 ∧ m < 2 ^ 53 ∧ (e = -1074 ∨ 2 ^ 52 ≤ m)
  | _ => True

private theorem compare_magnitudes {m m' : Nat} {e e' : Int} {h : 0 < m} {h' : 0 < m'} {s s' : Sign}
    (hc : Canonical (.finite s m e h)) (hc' : Canonical (.finite s' m' e' h')) :
    (compare e e').then (compare m m') =
      compare ((e + 1074) * 2 ^ 52 + (m : Int)) ((e' + 1074) * 2 ^ 52 + m') := by
  obtain ⟨hleast, -, hm, he⟩ := hc
  obtain ⟨hleast', -, hm', he'⟩ := hc'
  rcases lt_trichotomy e e' with hlt | rfl | hgt
  · rw [Int.compare_eq_lt.mpr hlt, eq_comm]
    exact Int.compare_eq_lt.mpr (by omega)
  · rw [Int.compare_eq_eq.mpr rfl]
    rcases lt_trichotomy m m' with hlt | rfl | hgt
    · rw [Nat.compare_eq_lt.mpr hlt, eq_comm]
      exact Int.compare_eq_lt.mpr (by omega)
    · rw [Nat.compare_eq_eq.mpr rfl, eq_comm]
      exact Int.compare_eq_eq.mpr rfl
    · rw [Nat.compare_eq_gt.mpr hgt, eq_comm]
      exact Int.compare_eq_gt.mpr (by omega)
  · rw [Int.compare_eq_gt.mpr hgt, eq_comm]
    exact Int.compare_eq_gt.mpr (by omega)

private theorem compare_neg (i j : Int) : compare (-i) (-j) = (compare i j).swap := by
  rcases lt_trichotomy i j with h | rfl | h
  · rw [Int.compare_eq_lt.mpr h, Int.compare_eq_gt.mpr (by omega)]
    rfl
  · rw [Int.compare_eq_eq.mpr rfl, Int.compare_eq_eq.mpr rfl]
    rfl
  · rw [Int.compare_eq_gt.mpr h, Int.compare_eq_lt.mpr (by omega)]
    rfl

private theorem unpackedRank_finite_mem {m : Nat} {e : Int} {h : 0 < m} {s : Sign}
    (hc : Canonical (.finite s m e h)) :
    0 < (e + 1074) * 2 ^ 52 + (m : Int) ∧ (e + 1074) * 2 ^ 52 + (m : Int) < infinityPattern := by
  obtain ⟨hleast, he, hm, -⟩ := hc
  unfold infinityPattern
  omega

/-- Doubles that are taken apart are compared by their places. -/
theorem compare_unpacked {u v : UnpackedFloat} (hu : Canonical u) (hv : Canonical v)
    (hu' : u ≠ .notANumber) (hv' : v ≠ .notANumber) :
    UnpackedFloat.compare u v = some (compare (unpackedRank u) (unpackedRank v)) := by
  have hlt : ∀ {i j : Int}, i < j → some Ordering.lt = some (compare i j) :=
    fun h => congrArg some (Int.compare_eq_lt.mpr h).symm
  have hgt : ∀ {i j : Int}, j < i → some Ordering.gt = some (compare i j) :=
    fun h => congrArg some (Int.compare_eq_gt.mpr h).symm
  have hinfinity : (0 : Int) < infinityPattern := by decide
  cases u with
  | notANumber => exact absurd rfl hu'
  | infinity s =>
    cases v with
    | notANumber => exact absurd rfl hv'
    | infinity s' => cases s <;> cases s' <;> rfl
    | zero s' =>
      cases s <;> dsimp only [UnpackedFloat.compare, unpackedRank, Sign.apply]
      · exact hlt (by omega)
      · exact hgt hinfinity
    | finite s' m e h =>
      have hrank := unpackedRank_finite_mem hv
      cases s <;> cases s' <;> dsimp only [UnpackedFloat.compare, unpackedRank, Sign.apply] <;>
        first | exact hlt (by omega) | exact hgt (by omega)
  | zero s =>
    cases v with
    | notANumber => exact absurd rfl hv'
    | infinity s' =>
      cases s' <;> dsimp only [UnpackedFloat.compare, unpackedRank, Sign.apply]
      · exact hgt (by omega)
      · exact hlt hinfinity
    | zero s' => rfl
    | finite s' m e h =>
      have hrank := unpackedRank_finite_mem hv
      cases s' <;> dsimp only [UnpackedFloat.compare, unpackedRank, Sign.apply]
      · exact hgt (by omega)
      · exact hlt (by omega)
  | finite s m e h =>
    have hrank := unpackedRank_finite_mem hu
    cases v with
    | notANumber => exact absurd rfl hv'
    | infinity s' =>
      cases s <;> cases s' <;> dsimp only [UnpackedFloat.compare, unpackedRank, Sign.apply] <;>
        first | exact hlt (by omega) | exact hgt (by omega)
    | zero s' =>
      cases s <;> dsimp only [UnpackedFloat.compare, unpackedRank, Sign.apply]
      · exact hlt (by omega)
      · exact hgt (by omega)
    | finite s' m' e' h' =>
      have hrank' := unpackedRank_finite_mem hv
      cases s <;> cases s' <;> dsimp only [UnpackedFloat.compare, unpackedRank, Sign.apply]
      · rw [compare_neg, compare_magnitudes hu hv]
      · exact hlt (by omega)
      · exact hgt (by omega)
      · rw [compare_magnitudes hu hv]

theorem toNat_unpackMantissa (b : BitVec Format.binary64.numBits) :
    (unpackMantissa b).toNat = b.toNat % 2 ^ 52 := by
  rw [unpackMantissa, BitVec.toNat_cast, BitVec.extractLsb_toNat]
  rfl

theorem toNat_unpackExponent (b : BitVec Format.binary64.numBits) :
    (unpackExponent b).toNat = b.toNat / 2 ^ 52 % 2 ^ 11 := by
  rw [unpackExponent, BitVec.toNat_cast, BitVec.extractLsb_toNat, Nat.shiftRight_eq_div_pow]
  rfl

private theorem toNat_unpackSign (b : BitVec Format.binary64.numBits) :
    (unpackSign b).toNat = b.toNat / 2 ^ 63 % 2 := by
  unfold unpackSign
  rw [BitVec.toNat_cast, BitVec.extractLsb_toNat, Nat.shiftRight_eq_div_pow]
  rfl

private theorem apply_unpackSign (b : BitVec Format.binary64.numBits) (i : Int) :
    (Sign.ofBitVec (unpackSign b)).apply i = if 2 ^ 63 ≤ b.toNat then -i else i := by
  have hsign := toNat_unpackSign b
  have hlt : b.toNat < 2 ^ 64 := b.isLt
  rw [Sign.ofBitVec]
  split
  · next hzero =>
    rw [hzero] at hsign
    rw [if_neg (by simp at hsign; omega)]
    rfl
  · next hone =>
    rw [← BitVec.toNat_inj, hsign] at hone
    rw [if_pos (by simp at hone; omega)]
    rfl

variable {b : BitVec Format.binary64.numBits}

private theorem unpackExponent_eq_neg_one :
    unpackExponent b = -1#_ ↔ b.toNat / 2 ^ 52 % 2 ^ 11 = 2047 := by
  rw [← BitVec.toNat_inj, toNat_unpackExponent]
  rfl

private theorem unpackExponent_eq_zero :
    unpackExponent b = 0#_ ↔ b.toNat / 2 ^ 52 % 2 ^ 11 = 0 := by
  rw [← BitVec.toNat_inj, toNat_unpackExponent]
  rfl

private theorem unpackMantissa_eq_zero : unpackMantissa b = 0#_ ↔ b.toNat % 2 ^ 52 = 0 := by
  rw [← BitVec.toNat_inj, toNat_unpackMantissa]
  rfl

/-- A double is taken apart into the parts of its pattern. -/
theorem unpack_mem (b : BitVec Format.binary64.numBits) :
    (unpack Format.binary64 b = .notANumber ∧ infinityPattern < b.toNat % 2 ^ 63) ∨
      (unpack Format.binary64 b ≠ .notANumber ∧ Canonical (unpack Format.binary64 b) ∧
        b.toNat % 2 ^ 63 ≤ infinityPattern ∧
        unpackedRank (unpack Format.binary64 b) =
          if 2 ^ 63 ≤ b.toNat then -((b.toNat % 2 ^ 63 : Nat) : Int)
          else (b.toNat % 2 ^ 63 : Nat)) := by
  have hbits : b.toNat < 2 ^ 64 := b.isLt
  have hmantissa := toNat_unpackMantissa b
  have hexponent := toNat_unpackExponent b
  have hbias : (Format.binary64.exponentBias : Int) = 1023 := rfl
  have hwidth : (Format.binary64.mantissaBitsWithoutImplicit : Int) = 52 := rfl
  unfold UnpackedFloat.unpack
  dsimp only
  by_cases hmax : unpackExponent b = -1#_
  · rw [if_pos hmax]
    replace hmax := unpackExponent_eq_neg_one.mp hmax
    by_cases hzero : unpackMantissa b = 0#_
    · rw [if_pos hzero]
      replace hzero := unpackMantissa_eq_zero.mp hzero
      have hpattern : b.toNat % 2 ^ 63 = infinityPattern := by
        unfold infinityPattern
        omega
      refine .inr ⟨nofun, trivial, hpattern.le, ?_⟩
      rw [unpackedRank_infinity, apply_unpackSign, hpattern]
    · rw [if_neg hzero]
      rw [unpackMantissa_eq_zero] at hzero
      refine .inl ⟨rfl, ?_⟩
      unfold infinityPattern
      omega
  · rw [if_neg hmax]
    rw [unpackExponent_eq_neg_one] at hmax
    have hfinite : b.toNat % 2 ^ 63 ≤ infinityPattern := by
      unfold infinityPattern
      omega
    by_cases hleast : unpackExponent b = 0#_
    · rw [if_pos hleast]
      replace hleast := unpackExponent_eq_zero.mp hleast
      by_cases hzero : unpackMantissa b = 0#_
      · rw [dif_pos hzero]
        replace hzero := unpackMantissa_eq_zero.mp hzero
        refine .inr ⟨nofun, trivial, hfinite, ?_⟩
        rw [unpackedRank_zero]
        split <;> omega
      · rw [dif_neg hzero]
        rw [unpackMantissa_eq_zero] at hzero
        refine .inr ⟨nofun, ⟨by omega, by omega, by omega, .inl (by omega)⟩, hfinite, ?_⟩
        rw [unpackedRank_finite, apply_unpackSign]
        split <;> omega
    · rw [if_neg hleast]
      rw [unpackExponent_eq_zero] at hleast
      have hnormal : (1#1 ++ unpackMantissa b).toNat = 2 ^ 52 + b.toNat % 2 ^ 52 := by
        rw [BitVec.toNat_append, ← Nat.shiftLeft_add_eq_or_of_lt (BitVec.isLt _), hmantissa]
        simp [Nat.shiftLeft_eq]
      refine .inr ⟨nofun, ⟨by omega, by omega, by omega, .inr (by omega)⟩, hfinite, ?_⟩
      rw [unpackedRank_finite, apply_unpackSign]
      split <;> omega

variable {x y : Float} {v w : Extended}

theorem unpack_eq (x : Float) :
    x.toModel.unpack = UnpackedFloat.unpack Format.binary64 x.toBits.toBitVec :=
  rfl

theorem isNaN_eq (x : Float) : x.isNaN = x.toModel.unpack.isNaN :=
  rfl

/-- A double is no number exactly when it has no value. -/
theorem isNaN_iff : x.isNaN = true ↔ value? x = none := by
  have hrank := numberRank_eq x
  have hbits : x.toBits.toBitVec.toNat = x.toBits.toNat := rfl
  rw [isNaN_eq, value?_eq, unpack_eq]
  rcases unpack_mem x.toBits.toBitVec with ⟨hunpack, hlt⟩ | ⟨hunpack, -, hle, -⟩
  · rw [hunpack, if_neg (by split at hrank <;> omega)]
    exact ⟨fun _ => rfl, fun _ => rfl⟩
  · rw [if_pos (by split at hrank <;> omega)]
    cases hcase : UnpackedFloat.unpack Format.binary64 x.toBits.toBitVec with
    | notANumber => exact absurd hcase hunpack
    | _ => exact ⟨nofun, nofun⟩

theorem unpackedRank_of_value (hx : value? x = some v) :
    x.toModel.unpack ≠ .notANumber ∧ Canonical x.toModel.unpack ∧
      unpackedRank x.toModel.unpack = numberRank x := by
  have hrank := numberRank_eq x
  have hbits : x.toBits.toBitVec.toNat = x.toBits.toNat := rfl
  obtain ⟨hle, -⟩ := value?_eq_some.mp hx
  rw [unpack_eq]
  rcases unpack_mem x.toBits.toBitVec with ⟨-, hlt⟩ | ⟨hunpack, hcanonical, -, heq⟩
  · split at hrank <;> omega
  · exact ⟨hunpack, hcanonical, heq.trans hrank.symm⟩

/-- The IEEE order of two doubles is the order of their values. -/
theorem compare_unpack (hx : value? x = some v) (hy : value? y = some w) :
    x.toModel.unpack.compare y.toModel.unpack = some (cmp v w) := by
  obtain ⟨hxnumber, hxcanonical, hxrank⟩ := unpackedRank_of_value hx
  obtain ⟨hynumber, hycanonical, hyrank⟩ := unpackedRank_of_value hy
  rw [compare_unpacked hxcanonical hycanonical hxnumber hynumber, hxrank, hyrank, cmp_value hx hy]

theorem lt_iff_compare : x < y ↔ x.toModel.unpack.compare y.toModel.unpack = some .lt := by
  have hlt : x < y ↔ (x.toModel.unpack.compare y.toModel.unpack == some .lt) = true :=
    decide_eq_true_iff
  rw [hlt, beq_iff_eq]

theorem lt_iff (hx : value? x = some v) (hy : value? y = some w) : x < y ↔ v < w := by
  rw [lt_iff_compare, compare_unpack hx hy, Option.some_inj, cmp_eq_lt_iff]

private theorem eq_notANumber {u : UnpackedFloat} (h : u.isNaN = true) : u = .notANumber := by
  cases u with
  | notANumber => rfl
  | _ => cases h

/-- A NaN is not less than any double, and no double is less than it. -/
theorem not_lt_of_isNaN (h : x.isNaN = true ∨ y.isNaN = true) : ¬x < y := by
  rw [lt_iff_compare]
  rw [isNaN_eq, isNaN_eq] at h
  rcases h with h | h
  · rw [eq_notANumber h]
    exact nofun
  · rw [eq_notANumber h]
    cases x.toModel.unpack <;> exact nofun

theorem beq_iff (hx : value? x = some v) (hy : value? y = some w) : (x == y) = true ↔ v = w := by
  have heq : (x == y) = (x.toModel.unpack.compare y.toModel.unpack == some .eq) := rfl
  rw [heq, compare_unpack hx hy, beq_iff_eq, Option.some_inj, cmp_eq_eq_iff]

theorem compare?_eq (hx : value? x = some v) (hy : value? y = some w) :
    compare? x y = some (cmp v w) := by
  unfold compare?
  rcases lt_trichotomy v w with h | h | h
  · rw [if_pos ((lt_iff hx hy).mpr h), (cmp_eq_lt_iff v w).mpr h]
  · rw [if_neg (mt (lt_iff hx hy).mp h.not_lt), if_neg (mt (lt_iff hy hx).mp h.not_gt),
      if_pos ((beq_iff hx hy).mpr h), (cmp_eq_eq_iff v w).mpr h]
  · rw [if_neg (mt (lt_iff hx hy).mp h.not_gt), if_pos ((lt_iff hy hx).mpr h),
      (cmp_eq_gt_iff v w).mpr h]

end RollCall.Binary64
