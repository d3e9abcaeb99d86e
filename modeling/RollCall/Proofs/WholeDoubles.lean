import RollCall.Proofs.RoundedIntegers

/-!
# Whole doubles

Every integer below `2^53` in magnitude is a double. Where sums, differences, products, quotients
and square roots of such integers are such integers again, the doubles come out exact: all that the
shift of a mantissa to 53 bits loses is zeros.
-/
namespace RollCall.Binary64

open Float.Model Float.Model.UnpackedFloat

/-- An integer taken apart, with a mantissa of 53 bits. -/
def whole (s : Sign) (n : Nat) (hn : 0 < n) : UnpackedFloat :=
  .finite s (n * 2 ^ (52 - n.log2)) (-((52 - n.log2 : Nat) : Int))
    (Nat.mul_pos hn (Nat.two_pow_pos _))

private theorem log2_lt {n : Nat} (hn : 0 < n) (hlt : n < 2 ^ 53) : n.log2 < 53 :=
  (Nat.log2_lt (Nat.ne_of_gt hn)).mpr hlt

private theorem shiftRight_zeros (m k : Nat) :
    (⟨m * 2 ^ k, false, false⟩ : ExtendedMantissa) >>> k = ⟨m, false, false⟩ := by
  induction k generalizing m with
  | zero =>
    rw [Nat.pow_zero, Nat.mul_one]
    rfl
  | succ k ih =>
    change ((⟨m * 2 ^ (k + 1), false, false⟩ : ExtendedMantissa) >>> k).shiftRightOne = _
    rw [Nat.pow_succ', ← Nat.mul_assoc, ih]
    simp [ExtendedMantissa.shiftRightOne]

/-- However many zeros stand after an integer, they are gone once it is rounded. -/
private theorem roundWithAccuracy_whole {n k : Nat} (hn : 0 < n) (hlt : n < 2 ^ 53)
    (hk : 52 ≤ n.log2 + k) (hk' : k ≤ 1074) (s : Sign) :
    roundWithAccuracy Format.binary64 s (n * 2 ^ k) (-(k : Int)) .exact = whole s n hn := by
  have hlog := log2_lt hn hlt
  obtain ⟨j, rfl⟩ : ∃ j, k = 52 - n.log2 + j := ⟨k - (52 - n.log2), by omega⟩
  have hlog52 : (n * 2 ^ (52 - n.log2)).log2 = 52 := by
    rw [log2_mul_two_pow (Nat.ne_of_gt hn)]
    omega
  have hpos : 0 < n * 2 ^ (52 - n.log2) := Nat.mul_pos hn (Nat.two_pow_pos _)
  have hexp : -((52 - n.log2 + j : Nat) : Int) + j = -((52 - n.log2 : Nat) : Int) := by omega
  have hfirst := shiftToTargetExponent_eq (m := n * 2 ^ (52 - n.log2 + j))
    (e := -((52 - n.log2 + j : Nat) : Int)) j (by omega)
    (by rw [log2_mul_two_pow (Nat.ne_of_gt hn)]; omega)
  rw [hexp, Nat.pow_add, ← Nat.mul_assoc, shiftRight_zeros] at hfirst
  have hsecond := shiftToTargetExponent_eq (m := n * 2 ^ (52 - n.log2))
    (e := -((52 - n.log2 : Nat) : Int)) 0 (by omega) hlog52
  rw [Int.natCast_zero, Int.add_zero] at hsecond
  rw [Nat.pow_add, ← Nat.mul_assoc]
  exact roundWithAccuracy_eq hfirst hsecond hpos s

private theorem round_whole {n k : Nat} (hn : 0 < n) (hlt : n < 2 ^ 53) (hk : k ≤ 52) (s : Sign) :
    UnpackedFloat.round Format.binary64 s (n * 2 ^ k) (-(k : Int)) = whole s n hn := by
  have hlog := log2_lt hn hlt
  have htarget : (-(k : Int) -
      Format.binary64.targetExponent (totalExponent (n * 2 ^ k) (-(k : Int)))).toNat =
        52 - n.log2 - k := by
    simp only [Format.targetExponent, totalExponent, mantissaBits_binary64, Format.minExponent,
      log2_mul_two_pow (Nat.ne_of_gt hn)]
    omega
  have hexp : -(k : Int) - (52 - n.log2 - k : Nat) = -((k + (52 - n.log2 - k) : Nat) : Int) := by
    omega
  rw [UnpackedFloat.round, decreaseExponent, htarget, Nat.shiftLeft_eq, Nat.mul_assoc,
    ← Nat.pow_add, hexp]
  exact roundWithAccuracy_whole hn hlt (by omega) (by omega) s

def signOf (n : Int) : Sign :=
  if n < 0 then .negative else .positive

private theorem signOf_of_nonneg {n : Int} (h : 0 ≤ n) : signOf n = .positive :=
  if_neg (Int.not_lt.mpr h)

private theorem signOf_of_neg {n : Int} (h : n < 0) : signOf n = .negative :=
  if_pos h

private theorem signOf_mul {a b : Int} (h : 0 ≤ a ↔ 0 ≤ b) :
    signOf a * signOf b = signOf (a * b) := by
  rcases Int.lt_or_le a 0 with ha | ha
  · have hb : b < 0 := by omega
    rw [signOf_of_neg ha, signOf_of_neg hb,
      signOf_of_nonneg (Int.mul_nonneg_of_nonpos_of_nonpos ha.le hb.le)]
    rfl
  · rw [signOf_of_nonneg ha, signOf_of_nonneg (h.mp ha),
      signOf_of_nonneg (Int.mul_nonneg ha (h.mp ha))]
    rfl

private theorem apply_signOf (n : Int) (m : Nat) :
    (signOf n).apply ((n.natAbs * m : Nat) : Int) = n * m := by
  rw [Int.natCast_mul, signOf]
  split
  · next h =>
    rw [Int.ofNat_natAbs_of_nonpos h.le, Int.neg_mul]
    exact Int.neg_neg _
  · next h =>
    rw [Int.natAbs_of_nonneg (Int.not_lt.mp h)]
    rfl

private theorem normalize_of_ne_zero {n : Int} {k : Nat} (hn : 0 < n.natAbs)
    (hlt : n.natAbs < 2 ^ 53) (hk : k ≤ 52) :
    UnpackedFloat.normalize Format.binary64 (n * (2 ^ k : Nat)) (-(k : Int)) .positive =
      whole (signOf n) n.natAbs hn := by
  have hpos : (0 : Int) < (2 ^ k : Nat) := Int.natCast_pos.mpr (Nat.two_pow_pos k)
  unfold UnpackedFloat.normalize signOf
  rcases Int.lt_or_gt_of_ne (Int.natAbs_pos.mp hn) with hneg | hgt
  · have hnat : (-(n * (2 ^ k : Nat))).toNat = n.natAbs * 2 ^ k := by
      rw [← Int.neg_mul, ← Int.ofNat_natAbs_of_nonpos hneg.le, ← Int.natCast_mul, Int.toNat_natCast]
    rw [Int.compare_eq_lt.mpr (Int.mul_neg_of_neg_of_pos hneg hpos), if_pos hneg]
    dsimp only
    rw [hnat]
    exact round_whole hn hlt hk .negative
  · have hnat : (n * (2 ^ k : Nat)).toNat = n.natAbs * 2 ^ k := by
      rw [← Int.natAbs_of_nonneg hgt.le, ← Int.natCast_mul, Int.toNat_natCast, Int.natAbs_natCast]
    rw [Int.compare_eq_gt.mpr (Int.mul_pos hgt hpos), if_neg (Int.not_lt.mpr hgt.le)]
    dsimp only
    rw [hnat]
    exact round_whole hn hlt hk .positive

private theorem unpackedOfInt_eq {n : Int} (hn : 0 < n.natAbs) (hlt : n.natAbs < 2 ^ 53) :
    UnpackedFloat.ofInt Format.binary64 n = whole (signOf n) n.natAbs hn := by
  have h := normalize_of_ne_zero hn hlt (Nat.zero_le 52)
  rwa [Nat.pow_zero, Int.natCast_one, Int.mul_one] at h

private theorem unpackedOfInt_cases {n : Int} (hlt : n.natAbs < 2 ^ 53) :
    (n = 0 ∧ UnpackedFloat.ofInt Format.binary64 n = .zero .positive) ∨
      ∃ hn : 0 < n.natAbs,
        UnpackedFloat.ofInt Format.binary64 n = whole (signOf n) n.natAbs hn := by
  rcases Nat.eq_zero_or_pos n.natAbs with hzero | hn
  · obtain rfl := Int.natAbs_eq_zero.mp hzero
    exact .inl ⟨rfl, rfl⟩
  · exact .inr ⟨hn, unpackedOfInt_eq hn hlt⟩

private theorem normalize_eq_ofInt {n : Int} {k : Nat} (hlt : n.natAbs < 2 ^ 53) (hk : k ≤ 52) :
    UnpackedFloat.normalize Format.binary64 (n * (2 ^ k : Nat)) (-(k : Int)) .positive =
      UnpackedFloat.ofInt Format.binary64 n := by
  rcases Nat.eq_zero_or_pos n.natAbs with hzero | hn
  · rw [Int.natAbs_eq_zero.mp hzero, Int.zero_mul]
    rfl
  · rw [normalize_of_ne_zero hn hlt hk, unpackedOfInt_eq hn hlt]

private theorem unpack_pack_whole {n : Nat} (hn : 0 < n) (hlt : n < 2 ^ 53) (s : Sign) :
    UnpackedFloat.unpack Format.binary64 (UnpackedFloat.pack Format.binary64 (whole s n hn)) =
      whole s n hn := by
  have hlog := log2_lt hn hlt
  refine unpack_pack_finite _ ?_ (by omega) (by omega) s
  rw [log2_mul_two_pow (Nat.ne_of_gt hn)]
  omega

private theorem ofInt_eq {n : Int} (hlt : n.natAbs < 2 ^ 53) :
    ofInt n = .ofModel (.pack (UnpackedFloat.ofInt Format.binary64 n)) := by
  have htoNat : n.natAbs.toUInt64.toNat = n.natAbs := Nat.mod_eq_of_lt (by omega)
  have hfloat : n.natAbs.toUInt64.toFloat =
      .ofModel (.pack (UnpackedFloat.ofInt Format.binary64 n.natAbs.toUInt64.toNat)) := rfl
  rw [htoNat] at hfloat
  rw [ofInt]
  split
  · next hneg =>
    have hn : 0 < n.natAbs := by omega
    have hmagnitude := unpackedOfInt_eq (n := n.natAbs) hn hlt
    rw [signOf_of_nonneg (Int.natCast_nonneg _)] at hmagnitude
    rw [hfloat, hmagnitude, unpackedOfInt_eq hn hlt, signOf_of_neg hneg]
    change Float.ofModel (.pack (UnpackedFloat.unpack Format.binary64
      (UnpackedFloat.pack Format.binary64 (whole .positive n.natAbs hn))).neg) = _
    rw [unpack_pack_whole hn hlt]
    rfl
  · next hge => rw [hfloat, Int.natAbs_of_nonneg (Int.not_lt.mp hge)]

theorem unpack_ofInt {n : Int} (hlt : n.natAbs < 2 ^ 53) :
    (ofInt n).toModel.unpack = UnpackedFloat.ofInt Format.binary64 n := by
  rw [ofInt_eq hlt]
  rcases Nat.eq_zero_or_pos n.natAbs with hzero | hn
  · rw [Int.natAbs_eq_zero.mp hzero]
    rfl
  · rw [unpackedOfInt_eq hn hlt]
    exact unpack_pack_whole hn hlt _

variable {a b : Int}

private theorem decreaseExponent_whole {n : Nat} {e : Int} (hn : 0 < n) (hlt : n < 2 ^ 53)
    (he : e ≤ -((52 - n.log2 : Nat) : Int)) :
    decreaseExponent (n * 2 ^ (52 - n.log2)) (-((52 - n.log2 : Nat) : Int)) e =
      (n * 2 ^ (-e).toNat, e) := by
  have hlog := log2_lt hn hlt
  have hshift : 52 - n.log2 + (-((52 - n.log2 : Nat) : Int) - e).toNat = (-e).toNat := by omega
  have hexp : -((52 - n.log2 : Nat) : Int) - (-((52 - n.log2 : Nat) : Int) - e).toNat = e := by
    omega
  rw [decreaseExponent, Nat.shiftLeft_eq, Nat.mul_assoc, ← Nat.pow_add, hshift, hexp]

/-- Two integers meet at the smaller of their exponents. -/
private theorem exists_aligned {m n : Nat} (hm : 0 < m) (hmlt : m < 2 ^ 53) (hn : 0 < n)
    (hnlt : n < 2 ^ 53) :
    ∃ k : Nat, k ≤ 52 ∧
      min (-((52 - m.log2 : Nat) : Int)) (-((52 - n.log2 : Nat) : Int)) = -(k : Int) ∧
      decreaseExponent (m * 2 ^ (52 - m.log2)) (-((52 - m.log2 : Nat) : Int)) (-(k : Int)) =
        (m * 2 ^ k, -(k : Int)) ∧
      decreaseExponent (n * 2 ^ (52 - n.log2)) (-((52 - n.log2 : Nat) : Int)) (-(k : Int)) =
        (n * 2 ^ k, -(k : Int)) := by
  refine ⟨max (52 - m.log2) (52 - n.log2), by omega, by omega, ?_, ?_⟩
  · rw [decreaseExponent_whole hm hmlt (by omega), Int.neg_neg, Int.toNat_natCast]
  · rw [decreaseExponent_whole hn hnlt (by omega), Int.neg_neg, Int.toNat_natCast]

private theorem whole_congr {m n : Nat} {s : Sign} {hm : 0 < m} (h : m = n) :
    whole s m hm = whole s n (h ▸ hm) := by
  subst h
  rfl

private theorem neg_signOf (hb : 0 < b.natAbs) : -signOf b = signOf (-b) := by
  unfold signOf
  split
  · rw [if_neg (by omega)]
    rfl
  · rw [if_pos (by omega)]
    rfl

theorem ofInt_add (ha : a.natAbs < 2 ^ 53) (hb : b.natAbs < 2 ^ 53)
    (hab : (a + b).natAbs < 2 ^ 53) : ofInt a + ofInt b = ofInt (a + b) := by
  have hadd : ofInt a + ofInt b = .ofModel (.pack
      (UnpackedFloat.add Format.binary64 (ofInt a).toModel.unpack (ofInt b).toModel.unpack)) := rfl
  rw [hadd, unpack_ofInt ha, unpack_ofInt hb, ofInt_eq hab]
  congr 2
  rcases unpackedOfInt_cases ha with ⟨rfl, ha'⟩ | ⟨hapos, ha'⟩ <;>
    rcases unpackedOfInt_cases hb with ⟨rfl, hb'⟩ | ⟨hbpos, hb'⟩
  · rfl
  · rw [Int.zero_add, ha', hb']
    rfl
  · rw [Int.add_zero, ha', hb']
    rfl
  · obtain ⟨k, hk, hmin, hshift, hshift'⟩ := exists_aligned hapos ha hbpos hb
    rw [ha', hb']
    dsimp only [whole, UnpackedFloat.add]
    rw [hmin, hshift, hshift']
    dsimp only
    rw [apply_signOf, apply_signOf, ← Int.add_mul, normalize_eq_ofInt hab hk]

theorem ofInt_sub (ha : a.natAbs < 2 ^ 53) (hb : b.natAbs < 2 ^ 53)
    (hab : (a - b).natAbs < 2 ^ 53) : ofInt a - ofInt b = ofInt (a - b) := by
  have hsub : ofInt a - ofInt b = .ofModel (.pack
      (UnpackedFloat.sub Format.binary64 (ofInt a).toModel.unpack (ofInt b).toModel.unpack)) := rfl
  rw [hsub, unpack_ofInt ha, unpack_ofInt hb, ofInt_eq hab]
  congr 2
  rcases unpackedOfInt_cases ha with ⟨rfl, ha'⟩ | ⟨hapos, ha'⟩ <;>
    rcases unpackedOfInt_cases hb with ⟨rfl, hb'⟩ | ⟨hbpos, hb'⟩
  · rfl
  · rw [Int.zero_sub] at hab ⊢
    have hpos : 0 < (-b).natAbs := by omega
    rw [ha', hb', unpackedOfInt_eq hpos hab, ← neg_signOf hbpos, whole_congr (Int.natAbs_neg b)]
    rfl
  · rw [Int.sub_zero, ha', hb']
    rfl
  · obtain ⟨k, hk, hmin, hshift, hshift'⟩ := exists_aligned hapos ha hbpos hb
    rw [ha', hb']
    dsimp only [whole, UnpackedFloat.sub]
    rw [hmin, hshift, hshift']
    dsimp only
    rw [apply_signOf, apply_signOf, ← Int.sub_mul, normalize_eq_ofInt hab hk]

private theorem log2_add_le {m n : Nat} (hm : 0 < m) (hn : 0 < n) :
    m.log2 + n.log2 ≤ (m * n).log2 := by
  have hmn := Nat.ne_of_gt (Nat.mul_pos hm hn)
  rw [Nat.le_log2 hmn, Nat.pow_add]
  exact Nat.mul_le_mul (Nat.log2_self_le (Nat.ne_of_gt hm)) (Nat.log2_self_le (Nat.ne_of_gt hn))

private theorem log2_le_add {m n : Nat} (hm : 0 < m) (hn : 0 < n) :
    (m * n).log2 ≤ m.log2 + n.log2 + 1 := by
  have hmn := Nat.ne_of_gt (Nat.mul_pos hm hn)
  have hexp : m.log2 + n.log2 + 1 + 1 = m.log2 + 1 + (n.log2 + 1) := by omega
  rw [← Nat.lt_succ_iff, Nat.log2_lt hmn, Nat.succ_eq_add_one, hexp, Nat.pow_add]
  exact Nat.mul_lt_mul'' Nat.lt_log2_self Nat.lt_log2_self

/-- Factors of one sign, for zero times a negative integer is `-0.0`. -/
theorem ofInt_mul (hsign : 0 ≤ a ↔ 0 ≤ b) (ha : a.natAbs < 2 ^ 53) (hb : b.natAbs < 2 ^ 53)
    (hab : (a * b).natAbs < 2 ^ 53) : ofInt a * ofInt b = ofInt (a * b) := by
  have hmul : ofInt a * ofInt b = .ofModel (.pack
      (UnpackedFloat.mul Format.binary64 (ofInt a).toModel.unpack (ofInt b).toModel.unpack)) := rfl
  rw [hmul, unpack_ofInt ha, unpack_ofInt hb, ofInt_eq hab]
  congr 2
  rcases unpackedOfInt_cases ha with ⟨rfl, ha'⟩ | ⟨hapos, ha'⟩ <;>
    rcases unpackedOfInt_cases hb with ⟨rfl, hb'⟩ | ⟨hbpos, hb'⟩
  · rfl
  · rw [Int.zero_mul, ha', hb', signOf_of_nonneg (hsign.mp le_rfl)]
    rfl
  · rw [Int.mul_zero, ha', hb', signOf_of_nonneg (hsign.mpr le_rfl)]
    rfl
  · have habpos : 0 < (a * b).natAbs := Int.natAbs_mul a b ▸ Nat.mul_pos hapos hbpos
    have hexp : -((52 - a.natAbs.log2 : Nat) : Int) + -((52 - b.natAbs.log2 : Nat) : Int) =
        -((52 - a.natAbs.log2 + (52 - b.natAbs.log2) : Nat) : Int) := by omega
    have hlog := log2_add_le hapos hbpos
    rw [← Int.natAbs_mul] at hlog
    rw [ha', hb']
    dsimp only [whole, UnpackedFloat.mul]
    rw [hexp, Nat.mul_mul_mul_comm, ← Nat.pow_add, ← Int.natAbs_mul, unpackedOfInt_eq habpos hab,
      signOf_mul hsign, roundWithAccuracy_whole habpos hab (by omega) (by omega)]

private theorem divCore_whole {m n : Nat} (hm : 0 < m) (hn : 0 < n) (hlt : m * n < 2 ^ 53) :
    ∃ k, 52 ≤ m.log2 + k ∧ k ≤ 1074 ∧
      divCore Format.binary64 (m * n * 2 ^ (52 - (m * n).log2))
        (-((52 - (m * n).log2 : Nat) : Int)) (n * 2 ^ (52 - n.log2))
        (-((52 - n.log2 : Nat) : Int)) = (m * 2 ^ k, -(k : Int), .exact) := by
  have hmn := Nat.mul_pos hm hn
  have hle := log2_le_add hm hn
  have hge := log2_add_le hm hn
  have hlog := log2_lt hmn hlt
  refine ⟨53 + n.log2 - (m * n).log2, by omega, by omega, ?_⟩
  have htarget : min (-((52 - (m * n).log2 : Nat) : Int) - -((52 - n.log2 : Nat) : Int))
      (Format.binary64.targetExponent
        (totalExponent (m * n * 2 ^ (52 - (m * n).log2)) (-((52 - (m * n).log2 : Nat) : Int)) -
          totalExponent (n * 2 ^ (52 - n.log2)) (-((52 - n.log2 : Nat) : Int)))) =
      -((53 + n.log2 - (m * n).log2 : Nat) : Int) := by
    simp only [Format.targetExponent, totalExponent, mantissaBits_binary64, Format.minExponent,
      log2_mul_two_pow (Nat.ne_of_gt hmn), log2_mul_two_pow (Nat.ne_of_gt hn)]
    omega
  have hshift : (-((52 - (m * n).log2 : Nat) : Int) - -((52 - n.log2 : Nat) : Int) -
      -((53 + n.log2 - (m * n).log2 : Nat) : Int)).toNat = 53 := by omega
  have hnumerator : m * n * 2 ^ (52 - (m * n).log2) * 2 ^ 53 =
      m * 2 ^ (53 + n.log2 - (m * n).log2) * (n * 2 ^ (52 - n.log2)) := by
    have hexp : 52 - (m * n).log2 + 53 = 53 + n.log2 - (m * n).log2 + (52 - n.log2) := by omega
    rw [Nat.mul_assoc, ← Nat.pow_add, hexp, Nat.pow_add, Nat.mul_mul_mul_comm]
  have hpos : 0 < n * 2 ^ (52 - n.log2) := Nat.mul_pos hn (Nat.two_pow_pos _)
  rw [divCore, htarget, hshift, Nat.shiftLeft_eq, hnumerator, Nat.mul_div_cancel _ hpos,
    Nat.mul_mod_left]
  rfl

theorem ofInt_div (hb : 0 < b) (hb' : b.natAbs < 2 ^ 53) (hab : (a * b).natAbs < 2 ^ 53) :
    ofInt (a * b) / ofInt b = ofInt a := by
  have hbpos := Int.natAbs_pos.mpr hb.ne'
  have ha : a.natAbs < 2 ^ 53 := by
    refine (Nat.le_mul_of_pos_right _ hbpos).trans_lt ?_
    rwa [← Int.natAbs_mul]
  have hdiv : ofInt (a * b) / ofInt b = .ofModel (.pack (UnpackedFloat.div Format.binary64
      (ofInt (a * b)).toModel.unpack (ofInt b).toModel.unpack)) := rfl
  rw [hdiv, unpack_ofInt hab, unpack_ofInt hb', ofInt_eq ha, unpackedOfInt_eq hbpos hb',
    signOf_of_nonneg hb.le]
  congr 2
  rcases unpackedOfInt_cases ha with ⟨rfl, ha'⟩ | ⟨hapos, ha'⟩
  · rw [Int.zero_mul, ha']
    rfl
  · have habpos : 0 < (a * b).natAbs := Int.natAbs_mul a b ▸ Nat.mul_pos hapos hbpos
    have hsign : signOf (a * b) / .positive = signOf a := by
      rcases Int.lt_or_le a 0 with ha | ha
      · rw [signOf_of_neg ha, signOf_of_neg (Int.mul_neg_of_neg_of_pos ha hb)]
        rfl
      · rw [signOf_of_nonneg ha, signOf_of_nonneg (Int.mul_nonneg ha hb.le)]
        rfl
    obtain ⟨k, hk, hk', hcore⟩ := divCore_whole hapos hbpos (Int.natAbs_mul a b ▸ hab)
    rw [← Int.natAbs_mul] at hcore
    rw [unpackedOfInt_eq habpos hab]
    dsimp only [whole, UnpackedFloat.div]
    rw [hcore]
    dsimp only
    rw [roundWithAccuracy_whole hapos ha hk hk', hsign, ha']

private theorem sqrtCore_whole {n : Nat} (hn : 0 < n) (hlt : n * n < 2 ^ 53) :
    ∃ k, 52 ≤ n.log2 + k ∧ k ≤ 1074 ∧
      sqrtCore Format.binary64 (n * n * 2 ^ (52 - (n * n).log2))
        (-((52 - (n * n).log2 : Nat) : Int)) = (n * 2 ^ k, -(k : Int), .exact) := by
  have hnn := Nat.mul_pos hn hn
  have hle := log2_le_add hn hn
  have hlog := log2_lt hnn hlt
  refine ⟨52 - (n * n).log2 / 2, by omega, by omega, ?_⟩
  have htarget : min ((-((52 - (n * n).log2 : Nat) : Int)).ediv 2)
      (Format.binary64.targetExponent
        ((totalExponent (n * n * 2 ^ (52 - (n * n).log2)) (-((52 - (n * n).log2 : Nat) : Int)) +
          1).ediv 2)) = -((52 - (n * n).log2 / 2 : Nat) : Int) := by
    change min (-((52 - (n * n).log2 : Nat) : Int) / 2) (Format.binary64.targetExponent
      ((totalExponent (n * n * 2 ^ (52 - (n * n).log2)) (-((52 - (n * n).log2 : Nat) : Int)) +
          1) / 2)) = _
    simp only [Format.targetExponent, totalExponent, mantissaBits_binary64, Format.minExponent,
      log2_mul_two_pow (Nat.ne_of_gt hnn)]
    omega
  have hsquare : n * n * 2 ^ (52 - (n * n).log2) * 2 ^ (-((52 - (n * n).log2 : Nat) : Int) -
      2 * -((52 - (n * n).log2 / 2 : Nat) : Int)).toNat =
        n * 2 ^ (52 - (n * n).log2 / 2) * (n * 2 ^ (52 - (n * n).log2 / 2)) := by
    have hexp : 52 - (n * n).log2 + (-((52 - (n * n).log2 : Nat) : Int) -
        2 * -((52 - (n * n).log2 / 2 : Nat) : Int)).toNat =
          52 - (n * n).log2 / 2 + (52 - (n * n).log2 / 2) := by omega
    rw [Nat.mul_assoc, ← Nat.pow_add, hexp, Nat.pow_add, Nat.mul_mul_mul_comm]
  rw [sqrtCore, htarget, Nat.shiftLeft_eq, hsquare, Nat.sqrt_eq, Nat.sub_self]
  rfl

theorem sqrt_ofInt (ha : 0 ≤ a) (haa : (a * a).natAbs < 2 ^ 53) :
    (ofInt (a * a)).sqrt = ofInt a := by
  have hlt : a.natAbs < 2 ^ 53 := by
    rw [Int.natAbs_mul] at haa
    exact (Nat.le_mul_self _).trans_lt haa
  have hsqrt : (ofInt (a * a)).sqrt = .ofModel (.pack
      (UnpackedFloat.sqrt Format.binary64 (ofInt (a * a)).toModel.unpack)) := rfl
  rw [hsqrt, unpack_ofInt haa, ofInt_eq hlt]
  congr 2
  rcases unpackedOfInt_cases hlt with ⟨rfl, ha'⟩ | ⟨hapos, ha'⟩
  · rw [Int.mul_zero, ha']
    rfl
  · have haapos : 0 < (a * a).natAbs := Int.natAbs_mul a a ▸ Nat.mul_pos hapos hapos
    obtain ⟨k, hk, hk', hcore⟩ := sqrtCore_whole hapos (Int.natAbs_mul a a ▸ haa)
    rw [← Int.natAbs_mul] at hcore
    rw [unpackedOfInt_eq haapos haa, signOf_of_nonneg (Int.mul_nonneg ha ha)]
    dsimp only [whole, UnpackedFloat.sqrt]
    rw [hcore]
    dsimp only
    rw [roundWithAccuracy_whole hapos hlt hk hk', ha', signOf_of_nonneg ha]

theorem ofNat_eq_ofInt {n : Nat} (hn : n < 2 ^ 53) : Float.ofNat n = ofInt n := by
  have hone : Float.exactlyRepresentablePowersOfTen[0] = ofInt 1 := by decide +kernel
  have hfloat : n.toUInt64.toFloat = ofInt n :=
    (if_neg (Int.not_lt.mpr (Int.natCast_nonneg n))).symm
  have hmul : Float.ofNat n = n.toUInt64.toFloat * Float.exactlyRepresentablePowersOfTen[0] :=
    dif_pos ⟨hn, Nat.zero_le 22⟩
  rw [hmul, hone, hfloat, ofInt_mul (by omega) (by omega) (by omega) (by omega), Int.mul_one]

private theorem foldl_ofInt {ns : List Int} (h : a.natAbs + (ns.map Int.natAbs).sum < 2 ^ 53) :
    (ns.map ofInt).foldl (· + ·) (ofInt a) = ofInt (a + ns.sum) := by
  induction ns generalizing a with
  | nil =>
    rw [List.sum_nil, Int.add_zero]
    rfl
  | cons n ns ih =>
    rw [List.map_cons, List.sum_cons] at h
    rw [List.map_cons, List.foldl_cons, ofInt_add (by omega) (by omega) (by omega),
      ih (by omega), List.sum_cons, Int.add_assoc]

/-- Integers are added up exactly if even their magnitudes stay below `2^53`. -/
theorem sum_ofInt {ns : List Int} (hns : ns ≠ []) (h : (ns.map Int.natAbs).sum < 2 ^ 53) :
    sum (ns.map ofInt) = ofInt ns.sum := by
  obtain ⟨n, ns, rfl⟩ := List.exists_cons_of_ne_nil hns
  rw [List.map_cons, List.sum_cons] at h
  have hlt : n.natAbs < 2 ^ 53 := by omega
  have hfirst : -0.0 + ofInt n = ofInt n := by
    have hadd : -0.0 + ofInt n = .ofModel (.pack
        (UnpackedFloat.add Format.binary64 (.zero .negative) (ofInt n).toModel.unpack)) := rfl
    rw [hadd, unpack_ofInt hlt, ofInt_eq hlt]
    congr 2
    rcases unpackedOfInt_cases hlt with ⟨-, hn⟩ | ⟨hpos, hn⟩ <;>
      rw [hn] <;>
      rfl
  rw [sum, List.map_cons, List.foldl_cons, hfirst, foldl_ofInt h, List.sum_cons]

/-- A finite number other than zero goes into itself once. -/
theorem div_self_eq {x : Float} {s : Sign} {m : Nat} {e : Int} {hm : 0 < m}
    (hx : x.toModel.unpack = .finite s m e hm) : x / x = ofInt 1 := by
  have hdiv : x / x = .ofModel (.pack
      (UnpackedFloat.div Format.binary64 x.toModel.unpack x.toModel.unpack)) := rfl
  have hcore : divCore Format.binary64 m e m e = (1 * 2 ^ 53, -((53 : Nat) : Int), .exact) := by
    have htarget : min (e - e) (Format.binary64.targetExponent
        (totalExponent m e - totalExponent m e)) = -((53 : Nat) : Int) := by
      simp only [Format.targetExponent, mantissaBits_binary64, Format.minExponent, Int.sub_self]
      omega
    have hshift : (e - e - -((53 : Nat) : Int)).toNat = 53 := by omega
    rw [divCore, htarget, hshift, Nat.shiftLeft_eq, Nat.mul_comm m, Nat.mul_div_cancel _ hm,
      Nat.mul_mod_left, Nat.one_mul]
    rfl
  have hsign : s / s = .positive := by cases s <;> rfl
  rw [hdiv, hx]
  dsimp only [UnpackedFloat.div]
  rw [hcore]
  dsimp only
  rw [hsign, roundWithAccuracy_whole Nat.one_pos (by omega) (by omega) (by omega)]
  rfl

end RollCall.Binary64
