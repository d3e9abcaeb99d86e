import RollCall.Proofs.ExactValues

/-!
# The double nearest to an integer

An integer with at most 53 significant bits is rounded to a double of that very value, and any other
to one whose value is an integer as well. So an integer and a double are in the same order before
and after the integer is rounded, unless they fall together.
-/
namespace RollCall.Binary64

open Float.Model.UnpackedFloat

variable {n k : Nat}

private theorem shiftRight_mul_two_pow (q d : Nat) :
    (⟨q * 2 ^ d, false, false⟩ : ExtendedMantissa) >>> d = ⟨q, false, false⟩ := by
  induction d generalizing q with
  | zero => simp only [Nat.pow_zero, Nat.mul_one]; rfl
  | succ d ih =>
    rw [Nat.pow_succ', ← Nat.mul_assoc]
    change ((⟨q * 2 * 2 ^ d, false, false⟩ : ExtendedMantissa) >>> d).shiftRightOne = _
    rw [ih]
    simp [ExtendedMantissa.shiftRightOne]

theorem units_magnitude (hn : 0 < n) :
    units (magnitude n) = significand n * 2 ^ (n.log2 + 1022) := by
  obtain ⟨hlower, hupper⟩ := significand_mem hn
  rw [magnitude, if_neg hn.ne', units_eq hupper (.inr hlower)]

/-- An integer of at most 53 significant bits is not rounded. -/
theorem units_magnitude_of_exact {m : Nat} (hm : m < 2 ^ 53) (p : Nat) :
    units (magnitude (m * 2 ^ p)) = m * 2 ^ p * scale := by
  rcases Nat.eq_zero_or_pos m with rfl | hpos
  · simp [magnitude, units]
  · have hlog : (m * 2 ^ p).log2 = m.log2 + p := log2_mul_two_pow hpos.ne' p
    have hm52 : m.log2 < 53 := (Nat.log2_lt hpos.ne').mpr hm
    rw [units_magnitude (Nat.mul_pos hpos (Nat.two_pow_pos p))]
    generalize hL : (m * 2 ^ p).log2 = L at *
    -- The mantissa keeps all bits: those that are shifted out are zeros.
    have hbits : m * 2 ^ p * 2 ^ (52 - L) = m * 2 ^ (p + (52 - L) - (L - 52)) * 2 ^ (L - 52) := by
      rw [Nat.mul_assoc, Nat.mul_assoc, ← Nat.pow_add, ← Nat.pow_add]
      congr 2
      omega
    have hsignificand : significand (m * 2 ^ p) = m * 2 ^ (p + (52 - L) - (L - 52)) := by
      rw [significand, hL, hbits, shiftRight_mul_two_pow]
      simp [ExtendedMantissa.roundedMantissa, ExtendedMantissa.accuracy,
        Accuracy.roundToNearestEven]
    have hexponent : p + (52 - L) - (L - 52) + (L + 1022) = p + 1074 := by omega
    rw [hsignificand, Nat.mul_assoc, ← Nat.pow_add, hexponent, two_pow_eq (Nat.le_add_left _ _),
      Nat.add_sub_cancel, Nat.mul_assoc]

/-- A pattern is that of an integer, or of a double below `2^52`. -/
theorem exists_magnitude (k : Nat) :
    (∃ j, units k = j * scale ∧ magnitude j = k) ∨ units k < 2 ^ 52 * scale := by
  obtain ⟨e, m, rfl, hm, he⟩ := exists_scaled k
  rw [units_eq hm.le he]
  rcases Nat.lt_or_ge e 1074 with hlt | hge
  · right
    have hpower : 2 ^ (e + 1) ≤ scale := by
      rw [scale]
      gcongr
      · exact one_le_two
      · omega
    rw [Nat.pow_succ] at hpower
    have hmantissa := Nat.mul_lt_mul_of_pos_right hm (Nat.two_pow_pos e)
    omega
  · left
    have hunits : m * 2 ^ e = m * 2 ^ (e - 1074) * scale := by
      rw [two_pow_eq hge, Nat.mul_assoc]
    refine ⟨m * 2 ^ (e - 1074), hunits, units_strictMono.injective ?_⟩
    rw [units_magnitude_of_exact hm, units_eq hm.le he, hunits]

theorem units_magnitude_of_lt (hn : n < 2 ^ 53) : units (magnitude n) = n * scale := by
  have hexact := units_magnitude_of_exact hn 0
  rwa [Nat.pow_zero, Nat.mul_one] at hexact

/-- Rounding an integer does not take it past a double. -/
theorem magnitude_le_of_le (h : n * scale ≤ units k) : magnitude n ≤ k := by
  rcases exists_magnitude k with ⟨j, hj, rfl⟩ | hsmall
  · rw [hj] at h
    exact magnitude_le (Nat.le_of_mul_le_mul_right h scale_pos)
  · have hn : n < 2 ^ 52 := Nat.lt_of_mul_lt_mul_right (h.trans_lt hsmall)
    rw [← units_strictMono.le_iff_le, units_magnitude_of_lt (by omega)]
    exact h

private theorem le_magnitude_of_le (h : units k ≤ n * scale) : k ≤ magnitude n := by
  rcases exists_magnitude k with ⟨j, hj, rfl⟩ | hsmall
  · rw [hj] at h
    exact magnitude_le (Nat.le_of_mul_le_mul_right h scale_pos)
  · rcases Nat.lt_or_ge n (2 ^ 52) with hn | hn
    · rw [← units_strictMono.le_iff_le, units_magnitude_of_lt (by omega)]
      exact h
    · refine le_trans (units_strictMono.le_iff_le.mp ?_) (magnitude_le hn)
      rw [units_magnitude_of_lt (by omega)]
      exact hsmall.le

/-- An integer is rounded to an integer. -/
theorem exists_units_magnitude (n : Nat) : ∃ j, units (magnitude n) = j * scale := by
  rcases Nat.lt_or_ge n (2 ^ 53) with hn | hn
  · exact ⟨n, units_magnitude_of_lt hn⟩
  · have hlog : 53 ≤ n.log2 := (Nat.le_log2 (by omega)).mpr hn
    exact ⟨significand n * 2 ^ (n.log2 + 1022 - 1074), by
      rw [units_magnitude (by omega), two_pow_eq (by omega), Nat.mul_assoc]⟩

/-! ## Signed integers -/

/-- The place of the double nearest to an integer. -/
def roundedRank (n : Int) : Int :=
  if n < 0 then -(magnitude n.natAbs : Int) else magnitude n.natAbs

variable {n i : Int}

theorem numberRank_ofInt (hn : n.natAbs < 2 ^ 64) : numberRank (ofInt n) = roundedRank n := by
  unfold numberRank roundedRank
  rw [orderRank_ofInt hn]
  split <;> split <;> omega

theorem roundedRank_natCast (a : Nat) : roundedRank a = magnitude a := by
  rw [roundedRank, if_neg (by omega), Int.natAbs_natCast]

theorem roundedRank_neg (n : Int) : roundedRank (-n) = -roundedRank n := by
  rcases lt_trichotomy n 0 with h | rfl | h
  · rw [roundedRank, roundedRank, if_neg (by omega), if_pos h, Int.natAbs_neg, neg_neg]
  · rfl
  · rw [roundedRank, roundedRank, if_pos (by omega), if_neg (by omega), Int.natAbs_neg]

/-- Rounding an integer does not take it past a double above. -/
theorem roundedRank_le (h : n * scale ≤ signedUnits i) : roundedRank n ≤ i := by
  obtain ⟨a, rfl | rfl⟩ := n.eq_nat_or_neg <;> obtain ⟨b, rfl | rfl⟩ := i.eq_nat_or_neg <;>
    simp only [signedUnits_neg, signedUnits_natCast, roundedRank_neg, roundedRank_natCast,
      neg_mul, neg_le_neg_iff] at h ⊢
  · exact_mod_cast magnitude_le_of_le (by exact_mod_cast h)
  · -- Nothing but zero is neither above nor below zero.
    have hnonneg : 0 ≤ (a : Int) * scale := by positivity
    have hzero : units 0 = 0 := rfl
    obtain rfl : b = 0 := units_strictMono.injective (by omega)
    have hle : magnitude a ≤ 0 := magnitude_le_of_le (by omega)
    omega
  · omega
  · exact_mod_cast le_magnitude_of_le (by exact_mod_cast h)

theorem le_roundedRank (h : signedUnits i ≤ n * scale) : i ≤ roundedRank n := by
  have hneg : -n * scale ≤ signedUnits (-i) := by
    rw [signedUnits_neg, neg_mul]
    exact neg_le_neg h
  have hle := roundedRank_le hneg
  rw [roundedRank_neg] at hle
  omega

def IsExact (n : Int) : Prop :=
  signedUnits (roundedRank n) = n * scale

private theorem IsExact.neg (h : IsExact n) : IsExact (-n) := by
  rw [IsExact, roundedRank_neg, signedUnits_neg, h, neg_mul]

private theorem isExact_of_lt {m : Nat} (hm : m < 2 ^ 53) (p : Nat) :
    IsExact (m * 2 ^ p : Nat) := by
  rw [IsExact, roundedRank_natCast, signedUnits_natCast, units_magnitude_of_exact hm]
  push_cast
  rfl

/-- An integer is rounded to an integer, on the same side of every exact one. -/
theorem exists_signedUnits (n : Int) :
    ∃ j : Int, signedUnits (roundedRank n) = j * scale ∧ ∀ c, IsExact c → c ≤ n → c ≤ j := by
  have hinteger : ∃ j : Int, signedUnits (roundedRank n) = j * scale := by
    obtain ⟨a, rfl | rfl⟩ := n.eq_nat_or_neg <;> obtain ⟨j, hj⟩ := exists_units_magnitude a
    · exact ⟨j, by rw [roundedRank_natCast, signedUnits_natCast, hj]; push_cast; rfl⟩
    · refine ⟨-j, ?_⟩
      rw [roundedRank_neg, roundedRank_natCast, signedUnits_neg, signedUnits_natCast, hj]
      push_cast
      rw [neg_mul]
  obtain ⟨j, hj⟩ := hinteger
  have hscale : (0 : Int) < scale := by exact_mod_cast scale_pos
  refine ⟨j, hj, fun c hc hcn => ?_⟩
  have hrank : roundedRank c ≤ roundedRank n := le_roundedRank (by
    rw [hc]
    exact mul_le_mul_of_nonneg_right hcn hscale.le)
  rw [← signedUnits_strictMono.le_iff_le, hc, hj] at hrank
  exact le_of_mul_le_mul_right hrank hscale

theorem roundedRank_mono {n n' : Int} (hn : n.natAbs < 2 ^ 64) (hn' : n'.natAbs < 2 ^ 64)
    (h : n ≤ n') : roundedRank n ≤ roundedRank n' := by
  rw [← numberRank_ofInt hn, ← numberRank_ofInt hn']
  exact numberRank_mono (orderRank_ofInt_le hn hn' h)

theorem natAbs_roundedRank_lt (hn : n.natAbs < 2 ^ 64) :
    (roundedRank n).natAbs < infinityPattern := by
  have hmagnitude : (roundedRank n).natAbs = magnitude n.natAbs := by
    rw [roundedRank]
    split <;> omega
  rw [hmagnitude, magnitude, infinityPattern]
  split
  · omega
  · next hzero =>
    have hlog := (Nat.log2_lt hzero).mpr hn
    obtain ⟨-, hle⟩ := significand_mem (Nat.pos_of_ne_zero hzero)
    omega

theorem isFinite_ofInt (hn : n.natAbs < 2 ^ 64) : isFinite (ofInt n) = true := by
  have hlt := natAbs_roundedRank_lt hn
  rw [← numberRank_ofInt hn] at hlt
  obtain ⟨m, e, hparts, -⟩ | ⟨-, hrank⟩ | ⟨-, hrank⟩ := parts_cases (ofInt n)
  · rw [isFinite, hparts]
  · omega
  · omega

/-- An integer and the value of a double are in the order of their multiples of the least double. -/
theorem cmp_ofRat_extended (hn : n.natAbs < 2 ^ 64) :
    cmp (.ofRat n) (extended i) = compare (n * scale) (signedUnits i) := by
  have hbound := natAbs_roundedRank_lt hn
  rw [extended]
  by_cases hbottom : i = -infinityPattern
  · have hlt : signedUnits i < n * scale := by
      by_contra hle
      have := roundedRank_le (not_lt.mp hle)
      omega
    rw [if_pos hbottom, (cmp_eq_gt_iff _ _).mpr (bot_lt_ofRat _), Int.compare_eq_gt.mpr hlt]
  · rw [if_neg hbottom]
    by_cases htop : i = infinityPattern
    · have hlt : n * scale < signedUnits i := by
        by_contra hle
        have := le_roundedRank (not_lt.mp hle)
        omega
      rw [if_pos htop, (cmp_eq_lt_iff _ _).mpr (ofRat_lt_top _), Int.compare_eq_lt.mpr hlt]
    · rw [if_neg htop, ← ofUnits_mul_scale, ofUnits_strictMono.cmp_map_eq, cmp_eq_compare]

theorem ofRat_le_extended (hn : n.natAbs < 2 ^ 64) :
    .ofRat n ≤ extended i ↔ n * scale ≤ signedUnits i :=
  le_iff_le_of_cmp_eq_cmp ((cmp_ofRat_extended hn).trans (cmp_eq_compare _ _).symm)

theorem extended_le_ofRat (hn : n.natAbs < 2 ^ 64) :
    extended i ≤ .ofRat n ↔ signedUnits i ≤ n * scale :=
  le_iff_le_of_cmp_eq_cmp
    (cmp_eq_cmp_symm.mp ((cmp_ofRat_extended hn).trans (cmp_eq_compare _ _).symm))

private theorem extended_eq_ofRat (hn : n.natAbs < 2 ^ 64) (h : signedUnits i = n * scale) :
    extended i = .ofRat n := by
  have hcmp := cmp_ofRat_extended (i := i) hn
  rw [h, Int.compare_eq_eq.mpr rfl, cmp_eq_eq_iff] at hcmp
  exact hcmp.symm

/-- An integer and a double that is no 64-bit integer are in the order of their values: they are in
that order after the integer is rounded, and fall together only where the double is above. -/
theorem compare_ofInt {y : Float} {v : Extended} (hn : -2 ^ 63 ≤ n ∧ n < 2 ^ 63)
    (hy : value? y = some v) (hv : ∀ j : Int, -2 ^ 63 ≤ j → j < 2 ^ 63 → v ≠ .ofRat j) :
    (totalCompare (ofInt n) y).then .lt = cmp (.ofRat n) v := by
  have hzero : numberRank y ≠ 0 := numberRank_ne_zero hy (hv 0 (by omega) (by omega))
  obtain ⟨hi, rfl⟩ := value?_eq_some.mp hy
  generalize hrank : numberRank y = i at *
  have hbound : n.natAbs < 2 ^ 64 := by omega
  have hne : ∀ j : Int, -2 ^ 63 ≤ j → j < 2 ^ 63 → signedUnits i ≠ j * scale :=
    fun j hlower hupper h => hv j hlower hupper (extended_eq_ofRat (by omega) h)
  rw [totalCompare_eq (.inr (hrank ▸ hzero)), numberRank_ofInt hbound, hrank,
    cmp_ofRat_extended hbound]
  rcases lt_trichotomy (n * scale) (signedUnits i) with h | h | h
  · rw [Int.compare_eq_lt.mpr h]
    rcases (roundedRank_le h.le).lt_or_eq with hlt | heq
    · rw [Int.compare_eq_lt.mpr hlt]
      rfl
    · rw [heq, Int.compare_eq_eq.mpr rfl]
      rfl
  · exact absurd h.symm (hne n hn.1 hn.2)
  · -- A double below the integer to which it is rounded would be a 64-bit integer.
    rw [Int.compare_eq_gt.mpr h]
    rcases (le_roundedRank h.le).lt_or_eq with hlt | heq
    · rw [Int.compare_eq_gt.mpr hlt]
      rfl
    · obtain ⟨j, hj, hexact⟩ := exists_signedUnits n
      rw [← heq] at hj
      have hlower : -2 ^ 63 ≤ j := hexact _ (isExact_of_lt (m := 1) (by omega) 63).neg hn.1
      have hupper : j < n := by
        rw [hj] at h
        exact lt_of_mul_lt_mul_right h (Int.natCast_nonneg scale)
      exact absurd hj (hne j hlower (hupper.trans hn.2))

end RollCall.Binary64
