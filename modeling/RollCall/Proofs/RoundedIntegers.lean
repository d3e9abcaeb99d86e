import Mathlib.Algebra.Order.Ring.Nat
import Mathlib.Data.Nat.Log
import Mathlib.Tactic.Linarith
import RollCall.Binary64

/-!
# Rounded integers

Rounding an integer to a double keeps the order: `magnitude n` is the bit pattern of the double
nearest to `n`, it never falls as `n` rises, and `orderRank` reads the order of doubles off their
bit patterns. The rounding itself is a shift of the mantissa to 53 bits that remembers the last bit
lost and whether any bit before it was set; `quarters` is what it remembers as one number.
-/
namespace RollCall.Binary64

open Float.Model Float.Model.UnpackedFloat

/-- A mantissa in quarters: the bit after it is a half, and the sticky bit less than that. -/
def quarters (em : ExtendedMantissa) : Nat :=
  4 * em.mantissa + 2 * em.roundBit.toNat + em.stickyBit.toNat

private theorem quarters_shiftRightOne (em : ExtendedMantissa) :
    quarters em.shiftRightOne = 2 * (quarters em / 4) + min 1 (quarters em % 4) := by
  obtain ⟨m, r, s⟩ := em
  rcases Nat.mod_two_eq_zero_or_one m with hm | hm <;> cases r <;> cases s <;>
    simp [quarters, ExtendedMantissa.shiftRightOne, hm] <;> omega

private theorem quarters_shiftRight_le {em em' : ExtendedMantissa} (h : quarters em ≤ quarters em')
    (k : Nat) : quarters (em >>> k) ≤ quarters (em' >>> k) := by
  induction k with
  | zero => exact h
  | succ k ih =>
    -- A shift by one halves the quarters, and rounds up what would be lost altogether.
    change quarters (em >>> k).shiftRightOne ≤ quarters (em' >>> k).shiftRightOne
    rw [quarters_shiftRightOne, quarters_shiftRightOne]
    omega

private theorem mantissa_shiftRight (em : ExtendedMantissa) (k : Nat) :
    (em >>> k).mantissa = em.mantissa / 2 ^ k := by
  induction k with
  | zero => exact (Nat.div_one _).symm
  | succ k ih =>
    change (em >>> k).mantissa / 2 = _
    rw [ih, Nat.div_div_eq_div_mul, Nat.pow_succ]

private theorem roundedMantissa_mem (em : ExtendedMantissa) :
    em.mantissa ≤ em.roundedMantissa ∧ em.roundedMantissa ≤ em.mantissa + 1 := by
  obtain ⟨m, r, s⟩ := em
  cases r <;> cases s <;>
    simp [ExtendedMantissa.roundedMantissa, ExtendedMantissa.accuracy,
      Accuracy.roundToNearestEven]
  omega

private theorem roundedMantissa_le {em em' : ExtendedMantissa} (h : quarters em ≤ quarters em') :
    em.roundedMantissa ≤ em'.roundedMantissa := by
  obtain ⟨m, r, s⟩ := em
  obtain ⟨m', r', s'⟩ := em'
  cases r <;> cases s <;> cases r' <;> cases s' <;>
    simp [quarters, ExtendedMantissa.roundedMantissa, ExtendedMantissa.accuracy,
      Accuracy.roundToNearestEven] at h ⊢ <;> omega

/-- The mantissa of 53 bits of a positive number, rounded to even; it may be `2^53`. -/
def significand (n : Nat) : Nat :=
  ((⟨n * 2 ^ (52 - n.log2), false, false⟩ : ExtendedMantissa) >>> (n.log2 - 52)).roundedMantissa

theorem significand_mem {n : Nat} (hn : 0 < n) :
    2 ^ 52 ≤ significand n ∧ significand n ≤ 2 ^ 53 := by
  have hlower := Nat.log2_self_le (Nat.ne_of_gt hn)
  have hupper := Nat.lt_log2_self (n := n)
  obtain ⟨hge, hle⟩ := roundedMantissa_mem
    ((⟨n * 2 ^ (52 - n.log2), false, false⟩ : ExtendedMantissa) >>> (n.log2 - 52))
  rw [mantissa_shiftRight] at hge hle
  have hquotient : 2 ^ 52 ≤ n * 2 ^ (52 - n.log2) / 2 ^ (n.log2 - 52) ∧
      n * 2 ^ (52 - n.log2) / 2 ^ (n.log2 - 52) < 2 ^ 53 := by
    rw [Nat.le_div_iff_mul_le (Nat.two_pow_pos _), Nat.div_lt_iff_lt_mul (Nat.two_pow_pos _),
      ← Nat.pow_add, ← Nat.pow_add]
    rcases Nat.le_total n.log2 52 with h | h
    · have h52 : 52 + (n.log2 - 52) = n.log2 + (52 - n.log2) := by omega
      have h53 : 53 + (n.log2 - 52) = n.log2 + 1 + (52 - n.log2) := by omega
      rw [h52, h53, Nat.pow_add, Nat.pow_add _ _ (52 - n.log2)]
      exact ⟨Nat.mul_le_mul_right _ hlower,
        Nat.mul_lt_mul_of_pos_right hupper (Nat.two_pow_pos _)⟩
    · have h0 : 52 - n.log2 = 0 := by omega
      have h52 : 52 + (n.log2 - 52) = n.log2 := by omega
      have h53 : 53 + (n.log2 - 52) = n.log2 + 1 := by omega
      rw [h0, h52, h53, Nat.pow_zero, Nat.mul_one]
      exact ⟨hlower, hupper⟩
  unfold significand
  dsimp only at hge hle
  omega

private theorem significand_le {m n : Nat} (hlog : m.log2 = n.log2) (h : m ≤ n) :
    significand m ≤ significand n := by
  unfold significand
  rw [hlog]
  refine roundedMantissa_le (quarters_shiftRight_le ?_ _)
  simp only [quarters]
  have := Nat.mul_le_mul_right (2 ^ (52 - n.log2)) h
  omega

/-- The bit pattern of the double nearest to a natural number. -/
def magnitude (n : Nat) : Nat :=
  if n = 0 then 0 else (n.log2 + 1022) * 2 ^ 52 + significand n

theorem magnitude_le {m n : Nat} (h : m ≤ n) : magnitude m ≤ magnitude n := by
  unfold magnitude
  split
  · exact Nat.zero_le _
  · next hm =>
    have hn : n ≠ 0 := by omega
    rw [if_neg hn]
    obtain ⟨-, hmle⟩ := significand_mem (Nat.pos_of_ne_zero hm)
    obtain ⟨hnge, -⟩ := significand_mem (Nat.pos_of_ne_zero hn)
    -- Between powers of two the significand rises, and at a power of two it starts anew from half
    -- its bound while the exponent goes up by one.
    have hlog : m.log2 ≤ n.log2 := by
      rw [Nat.le_log2 hn]
      exact (Nat.log2_self_le hm).trans h
    rcases Nat.eq_or_lt_of_le hlog with heq | hlt
    · have := significand_le heq h
      omega
    · omega

theorem log2_mul_two_pow {n : Nat} (hn : n ≠ 0) (k : Nat) :
    (n * 2 ^ k).log2 = n.log2 + k := by
  have hlower := Nat.log2_self_le hn
  have hupper := Nat.lt_log2_self (n := n)
  have hpos := Nat.two_pow_pos k
  rw [Nat.log2_eq_iff (Nat.mul_ne_zero hn hpos.ne'), Nat.add_right_comm, Nat.pow_add, Nat.pow_add]
  exact ⟨Nat.mul_le_mul_right _ hlower, Nat.mul_lt_mul_of_pos_right hupper hpos⟩

theorem mantissaBits_binary64 : Format.binary64.mantissaBits = 53 := rfl

theorem shiftToTargetExponent_eq {m : Nat} {e : Int} (k : Nat) (he : -1074 ≤ e)
    (h : m.log2 = 52 + k) :
    shiftToTargetExponent Format.binary64 m e .exact =
      ((⟨m, false, false⟩ : ExtendedMantissa) >>> k, e + k) := by
  have htarget : (Format.binary64.targetExponent (totalExponent m e) - e).toNat = k := by
    simp only [Format.targetExponent, totalExponent, mantissaBits_binary64, Format.minExponent]
    omega
  simp only [shiftToTargetExponent, shiftToExponent, htarget]
  rfl

theorem roundWithAccuracy_eq {m : Nat} {e : Int} {first second : ExtendedMantissa × Int}
    (hfirst : shiftToTargetExponent Format.binary64 m e .exact = first)
    (hsecond :
      shiftToTargetExponent Format.binary64 first.1.roundedMantissa first.2 .exact = second)
    (h : 0 < second.1.mantissa) (s : Sign) :
    roundWithAccuracy Format.binary64 s m e .exact = .finite s second.1.mantissa second.2 h := by
  subst hfirst hsecond
  exact dif_neg (Nat.ne_of_gt h)

private theorem round_zero_eq {n : Nat} :
    UnpackedFloat.round Format.binary64 .positive n 0 =
      roundWithAccuracy Format.binary64 .positive (n * 2 ^ (52 - n.log2))
        (-((52 - n.log2 : Nat) : Int)) .exact := by
  have htarget : (0 - Format.binary64.targetExponent (totalExponent n 0)).toNat = 52 - n.log2 := by
    simp only [Format.targetExponent, totalExponent, mantissaBits_binary64, Format.minExponent]
    omega
  rw [UnpackedFloat.round, decreaseExponent, htarget, Nat.shiftLeft_eq, Int.zero_sub]

private theorem round_eq {n : Nat} (hn : 0 < n) :
    ∃ m e, ∃ h : 0 < m,
      UnpackedFloat.round Format.binary64 .positive n 0 = .finite .positive m e h ∧
      m.log2 = 52 ∧ -52 ≤ e ∧ e ≤ n.log2 - 51 ∧ (e + 1074).toNat * 2 ^ 52 + m = magnitude n := by
  have hmag : magnitude n = (n.log2 + 1022) * 2 ^ 52 + significand n := if_neg (Nat.ne_of_gt hn)
  obtain ⟨hge, hle⟩ := significand_mem hn
  have hlog := log2_mul_two_pow (Nat.ne_of_gt hn) (52 - n.log2)
  have hfirst := shiftToTargetExponent_eq (m := n * 2 ^ (52 - n.log2))
    (e := -((52 - n.log2 : Nat) : Int)) (n.log2 - 52) (by omega) (by omega)
  rw [round_zero_eq]
  rcases Nat.lt_or_ge (significand n) (2 ^ 53) with hlt | hcarry
  · have hlog : (significand n).log2 = 52 := (Nat.log2_eq_iff (by omega)).mpr ⟨hge, hlt⟩
    have hsecond := shiftToTargetExponent_eq
      (e := -((52 - n.log2 : Nat) : Int) + (n.log2 - 52 : Nat)) 0 (by omega) hlog
    have hpos : 0 < significand n := by omega
    refine ⟨significand n, _, hpos, roundWithAccuracy_eq hfirst hsecond hpos .positive, hlog, ?_⟩
    omega
  · -- The significand has rounded up to `2^53`: it is halved, and the exponent rises by one.
    have heq : significand n = 2 ^ 53 := Nat.le_antisymm hle hcarry
    have hlog : (significand n).log2 = 52 + 1 := by rw [heq, Nat.log2_two_pow]
    have hsecond := shiftToTargetExponent_eq
      (e := -((52 - n.log2 : Nat) : Int) + (n.log2 - 52 : Nat)) 1 (by omega) hlog
    have hhalf : significand n / 2 = 2 ^ 52 := by omega
    have hpos : 0 < significand n / 2 := by omega
    refine ⟨significand n / 2, _, hpos, roundWithAccuracy_eq hfirst hsecond hpos .positive, ?_, ?_⟩
    · rw [hhalf, Nat.log2_two_pow]
    · omega

private theorem toNat_packComponents (s : Sign) (e : BitVec 11) (m : BitVec 52) :
    (packComponents Format.binary64 s e m).toNat =
      s.toBitVec.toNat * 2 ^ 63 + e.toNat * 2 ^ 52 + m.toNat := by
  have hm : m.toNat < 2 ^ 52 := m.isLt
  have he : e.toNat < 2 ^ 11 := e.isLt
  simp only [packComponents, BitVec.toNat_append]
  rw [← Nat.shiftLeft_add_eq_or_of_lt hm, ← Nat.shiftLeft_add_eq_or_of_lt he]
  simp only [Nat.shiftLeft_eq]
  omega

private theorem unpackSign_packComponents {spec : Format} (s : Sign) (e : BitVec spec.exponentBits)
    (m : BitVec spec.mantissaBitsWithoutImplicit) :
    unpackSign (packComponents spec s e m) = s.toBitVec := by
  ext i hi
  have hzero : i = 0 := by omega
  subst hzero
  unfold unpackSign
  simp [packComponents, BitVec.getLsbD_append, BitVec.getElem_append]

theorem pack_finite {m : Nat} {e : Int} (h : 0 < m) (hm : m.log2 = 52) (he : -52 ≤ e)
    (he' : e ≤ 64) (s : Sign) :
    UnpackedFloat.pack Format.binary64 (.finite s m e h) =
      packComponents Format.binary64 s (BitVec.ofNat 11 (e + 1075).toNat) (BitVec.ofNat 52 m) := by
  have hexp : (e + (2 ^ (11 - 1) - 1 : Nat) + (52 : Nat)).toNat = (e + 1075).toNat := by omega
  have hfits : ¬2 ^ 11 ≤ (e + 1075).toNat + 1 := by omega
  have hbits : m.log2 + 1 = 53 := by omega
  unfold UnpackedFloat.pack
  simp only [Format.exponentBias, mantissaBits_binary64, hexp, hbits]
  simp only [if_neg hfits, if_true]

theorem unpack_pack_finite {m : Nat} {e : Int} (h : 0 < m) (hm : m.log2 = 52) (he : -52 ≤ e)
    (he' : e ≤ 64) (s : Sign) :
    UnpackedFloat.unpack Format.binary64 (UnpackedFloat.pack Format.binary64 (.finite s m e h)) =
      .finite s m e h := by
  obtain ⟨hge, hlt⟩ := (Nat.log2_eq_iff (Nat.ne_of_gt h)).mp hm
  have hexp : (BitVec.ofNat 11 (e + 1075).toNat).toNat = (e + 1075).toNat :=
    Nat.mod_eq_of_lt (by omega)
  have hmax : BitVec.ofNat 11 (e + 1075).toNat ≠ -1#_ := by
    intro heq
    have := congrArg BitVec.toNat heq
    rw [hexp] at this
    simp at this
    omega
  have hzero : BitVec.ofNat 11 (e + 1075).toNat ≠ 0#_ := by
    intro heq
    have := congrArg BitVec.toNat heq
    rw [hexp] at this
    simp at this
    omega
  have hmantissa : (1#1 ++ BitVec.ofNat 52 m).toNat = m := by
    rw [BitVec.toNat_append, ← Nat.shiftLeft_add_eq_or_of_lt (BitVec.isLt _)]
    simp only [BitVec.toNat_ofNat, Nat.shiftLeft_eq]
    omega
  have hsign : Sign.ofBitVec s.toBitVec = s := by cases s <;> rfl
  have hbias : ((Format.binary64.exponentBias : Nat) : Int) +
      (Format.binary64.mantissaBitsWithoutImplicit : Nat) = 1075 := rfl
  rw [pack_finite h hm he he']
  unfold UnpackedFloat.unpack
  dsimp only
  rw [if_neg (by rwa [unpackExponent_packComponents]),
    if_neg (by rwa [unpackExponent_packComponents]), UnpackedFloat.finite.injEq]
  refine ⟨?_, ?_, ?_⟩
  · rw [unpackSign_packComponents, hsign]
  · rw [unpackMantissa_packComponents, hmantissa]
  · rw [unpackExponent_packComponents, hexp, hbias]
    omega

theorem toNat_pack_finite {m : Nat} {e : Int} (h : 0 < m) (hm : m.log2 = 52) (he : -52 ≤ e)
    (he' : e ≤ 64) (s : Sign) :
    (UnpackedFloat.pack Format.binary64 (.finite s m e h)).toNat =
      s.toBitVec.toNat * 2 ^ 63 + ((e + 1074).toNat * 2 ^ 52 + m) := by
  obtain ⟨hge, hlt⟩ := (Nat.log2_eq_iff (Nat.ne_of_gt h)).mp hm
  rw [pack_finite h hm he he', toNat_packComponents, BitVec.toNat_ofNat, BitVec.toNat_ofNat]
  omega

theorem normalize_eq {n : Nat} (hn : 0 < n) (hlt : n < 2 ^ 64) :
    ∃ m e, ∃ h : 0 < m,
      UnpackedFloat.normalize Format.binary64 n 0 .positive = .finite .positive m e h ∧
      m.log2 = 52 ∧ -52 ≤ e ∧ e ≤ 64 ∧ (e + 1074).toNat * 2 ^ 52 + m = magnitude n := by
  obtain ⟨m, e, h, hround, hm, he, he', hmag⟩ := round_eq hn
  have hlog : n.log2 < 64 := (Nat.log2_lt (Nat.ne_of_gt hn)).mpr hlt
  have hcompare : compare (n : Int) 0 = .gt := by
    rw [Int.compare_eq_gt]
    omega
  refine ⟨m, e, h, ?_, hm, he, by omega, hmag⟩
  rw [UnpackedFloat.normalize, hcompare]
  exact hround

private theorem toBits_toFloat (u : UInt64) : u.toFloat.toBits.toNat = magnitude u.toNat := by
  rcases Nat.eq_zero_or_pos u.toNat with hzero | hpos
  · have hu : u = 0 := UInt64.toNat_inj.mp hzero
    subst hu
    rfl
  · obtain ⟨m, e, h, hnormal, hm, he, he', hmag⟩ := normalize_eq hpos u.toNat_lt
    change (UnpackedFloat.pack Format.binary64
      (UnpackedFloat.normalize Format.binary64 u.toNat 0 .positive)).toNat = _
    rw [hnormal, toNat_pack_finite h hm he he', ← hmag]
    exact Nat.zero_add _

private theorem toBits_neg_toFloat {u : UInt64} (hu : 0 < u.toNat) :
    (-u.toFloat).toBits.toNat = 2 ^ 63 + magnitude u.toNat := by
  obtain ⟨m, e, h, hnormal, hm, he, he', hmag⟩ := normalize_eq hu u.toNat_lt
  change (UnpackedFloat.pack Format.binary64 (UnpackedFloat.unpack Format.binary64
    (UnpackedFloat.pack Format.binary64
      (UnpackedFloat.normalize Format.binary64 u.toNat 0 .positive))).neg).toNat = _
  have hneg : (UnpackedFloat.finite .positive m e h).neg = .finite .negative m e h := rfl
  rw [hnormal, unpack_pack_finite h hm he he', hneg, toNat_pack_finite h hm he he', ← hmag]
  rfl

private theorem magnitude_lt {n : Nat} (hn : n < 2 ^ 64) : magnitude n < 2 ^ 63 := by
  unfold magnitude
  split
  · exact Nat.two_pow_pos 63
  · next hne =>
    have hlog : n.log2 < 64 := (Nat.log2_lt hne).mpr hn
    obtain ⟨-, hle⟩ := significand_mem (Nat.pos_of_ne_zero hne)
    omega

theorem orderRank_ofInt {n : Int} (hn : n.natAbs < 2 ^ 64) :
    orderRank (ofInt n) =
      if n < 0 then -1 - (magnitude n.natAbs : Int) else magnitude n.natAbs := by
  have htoNat : n.natAbs.toUInt64.toNat = n.natAbs := Nat.mod_eq_of_lt hn
  have hbound := magnitude_lt hn
  unfold ofInt orderRank
  split
  · next hneg =>
    rw [toBits_neg_toFloat (by omega), htoNat]
    dsimp only
    omega
  · rw [toBits_toFloat, htoNat]
    dsimp only
    omega

theorem natAbs_toInt_lt (n : Int64) : n.toInt.natAbs < 2 ^ 64 := by
  have hlower := n.le_toInt
  have hupper := n.toInt_lt
  omega

/-- Rounding integers to doubles keeps their order. -/
theorem orderRank_ofInt_le {a b : Int} (ha : a.natAbs < 2 ^ 64) (hb : b.natAbs < 2 ^ 64)
    (h : a ≤ b) : orderRank (ofInt a) ≤ orderRank (ofInt b) := by
  rw [orderRank_ofInt ha, orderRank_ofInt hb]
  split <;> split
  · have := magnitude_le (m := b.natAbs) (n := a.natAbs) (by omega)
    omega
  · omega
  · omega
  · have := magnitude_le (m := a.natAbs) (n := b.natAbs) (by omega)
    omega

end RollCall.Binary64
