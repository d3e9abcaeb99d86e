import Mathlib.Algebra.Order.Field.Power
import Mathlib.Algebra.Order.Field.Rat
import Mathlib.Data.Int.ConditionallyCompleteOrder
import Mathlib.Order.Compare
import Mathlib.Order.WithBot
import Mathlib.Tactic.FieldSimp
import Mathlib.Tactic.GCongr
import Mathlib.Tactic.NormNum
import Mathlib.Tactic.Positivity
import RollCall.Proofs.RoundedIntegers

/-!
# Exact values of doubles

The value of a double is a rational number, or infinite. Without its sign a bit pattern counts the
doubles upwards from zero, so the values of doubles are ordered as their patterns are: `units k` is
the value of the pattern `k` in multiples of the least double, `numberRank` is the pattern with its
sign, and `extended` reads the value off it.
-/
namespace RollCall.Binary64

/-- The rational numbers with the infinities. -/
abbrev Extended := WithBot (WithTop ℚ)

def Extended.ofRat (v : ℚ) : Extended := ((v : WithTop ℚ) : Extended)

/-- The number that the parts of a double stand for. -/
def Parts.value? : Parts → Option Extended
  | .nan => none
  | .infinite negative => some (if negative then ⊥ else ⊤)
  | .finite negative m q => some (.ofRat ((if negative then -(m : ℚ) else m) * 2 ^ q))

def value? (x : Float) : Option Extended :=
  (parts x).value?

/-- The least double fits so often into one. -/
def scale : Nat := 2 ^ 1074

theorem two_pow_eq {e : Nat} (h : 1074 ≤ e) : 2 ^ e = 2 ^ (e - 1074) * scale := by
  rw [scale, ← Nat.pow_add, Nat.sub_add_cancel h]

theorem scale_pos : 0 < scale := by
  rw [scale]
  positivity

/-- The value of the positive double with a bit pattern in multiples of the least double. Beyond the
pattern of infinity the exponents go on. -/
def units (k : Nat) : Nat :=
  if k < 2 ^ 53 then k else (2 ^ 52 + k % 2 ^ 52) * 2 ^ (k / 2 ^ 52 - 1)

theorem units_eq {e m : Nat} (hm : m ≤ 2 ^ 53) (h : e = 0 ∨ 2 ^ 52 ≤ m) :
    units (e * 2 ^ 52 + m) = m * 2 ^ e := by
  unfold units
  split
  · have he : e = 0 := by omega
    subst he
    omega
  · rcases Nat.eq_or_lt_of_le hm with rfl | hlt
    · have hdiv : (e * 2 ^ 52 + 2 ^ 53) / 2 ^ 52 - 1 = e + 1 := by omega
      have hmod : 2 ^ 52 + (e * 2 ^ 52 + 2 ^ 53) % 2 ^ 52 = 2 ^ 52 := by omega
      rw [hdiv, hmod, Nat.pow_succ']
      omega
    · have hdiv : (e * 2 ^ 52 + m) / 2 ^ 52 - 1 = e := by omega
      have hmod : 2 ^ 52 + (e * 2 ^ 52 + m) % 2 ^ 52 = m := by omega
      rw [hdiv, hmod]

/-- A pattern is an exponent and a mantissa, which is below `2^52` only for the least exponent. -/
theorem exists_scaled (k : Nat) :
    ∃ e m, k = e * 2 ^ 52 + m ∧ m < 2 ^ 53 ∧ (e = 0 ∨ 2 ^ 52 ≤ m) := by
  rcases Nat.lt_or_ge k (2 ^ 53) with h | h
  · exact ⟨0, k, by omega, h, .inl rfl⟩
  · exact ⟨k / 2 ^ 52 - 1, 2 ^ 52 + k % 2 ^ 52, by omega, by omega, .inr (by omega)⟩

theorem units_strictMono : StrictMono units := by
  refine strictMono_nat_of_lt_succ fun k => ?_
  obtain ⟨e, m, rfl, hm, h⟩ := exists_scaled k
  rw [Nat.add_assoc, units_eq hm.le h, units_eq hm (h.imp_right Nat.le_succ_of_le)]
  exact Nat.mul_lt_mul_of_pos_right (Nat.lt_succ_self m) (Nat.two_pow_pos e)

def signedUnits (i : Int) : Int :=
  if i < 0 then -(units i.natAbs : Int) else units i.natAbs

theorem signedUnits_strictMono : StrictMono signedUnits := by
  intro i j h
  unfold signedUnits
  have hzero : units 0 = 0 := rfl
  split <;> split
  · have := units_strictMono (a := j.natAbs) (b := i.natAbs) (by omega)
    omega
  · have := units_strictMono (a := 0) (b := i.natAbs) (by omega)
    omega
  · omega
  · have := units_strictMono (a := i.natAbs) (b := j.natAbs) (by omega)
    omega

theorem signedUnits_natCast (k : Nat) : signedUnits k = units k := by
  rw [signedUnits, if_neg (by omega), Int.natAbs_natCast]

theorem signedUnits_neg (i : Int) : signedUnits (-i) = -signedUnits i := by
  rcases lt_trichotomy i 0 with h | rfl | h
  · rw [signedUnits, signedUnits, if_neg (by omega), if_pos h, Int.natAbs_neg, neg_neg]
  · rfl
  · rw [signedUnits, signedUnits, if_pos (by omega), if_neg (by omega), Int.natAbs_neg]

def infinityPattern : Nat := 0x7FF0000000000000

/-- The place of a double in the order of numbers: as in the order of bit patterns, but with both
zeros in one place. -/
def numberRank (x : Float) : Int :=
  if orderRank x < 0 then orderRank x + 1 else orderRank x

theorem numberRank_mono {x y : Float} (h : orderRank x ≤ orderRank y) :
    numberRank x ≤ numberRank y := by
  unfold numberRank
  split <;> split <;> omega

def ofUnits (t : Int) : Extended :=
  .ofRat (t / scale)

/-- The value of the doubles in a place of the order of numbers. -/
def extended (i : Int) : Extended :=
  if i = -infinityPattern then ⊥
  else if i = infinityPattern then ⊤
  else ofUnits (signedUnits i)

theorem ofRat_strictMono : StrictMono Extended.ofRat :=
  WithBot.coe_strictMono.comp WithTop.coe_strictMono

theorem ofUnits_strictMono : StrictMono ofUnits := by
  intro s t h
  have hscale := scale_pos
  refine ofRat_strictMono ?_
  gcongr

theorem ofUnits_mul_scale (n : Int) : ofUnits (n * scale) = .ofRat n := by
  have hscale : (scale : ℚ) ≠ 0 := by exact_mod_cast scale_pos.ne'
  rw [ofUnits]
  push_cast
  rw [mul_div_cancel_right₀ _ hscale]

theorem bot_lt_ofRat (v : ℚ) : ⊥ < Extended.ofRat v :=
  WithBot.bot_lt_coe _

theorem ofRat_lt_top (v : ℚ) : Extended.ofRat v < ⊤ :=
  WithBot.coe_lt_coe.mpr (WithTop.coe_lt_top v)

theorem extended_strictMonoOn :
    StrictMonoOn extended (Set.Icc (-(infinityPattern : Int)) infinityPattern) := by
  intro i hi j hj h
  obtain ⟨hilower, hiupper⟩ := hi
  obtain ⟨hjlower, hjupper⟩ := hj
  unfold extended
  split
  · rw [if_neg (by omega)]
    split
    · exact bot_lt_top
    · exact bot_lt_ofRat _
  · rw [if_neg (by omega), if_neg (by omega)]
    split
    · exact ofRat_lt_top _
    · exact ofUnits_strictMono (signedUnits_strictMono h)

theorem extended_le {i j : Int} (hi : i.natAbs ≤ infinityPattern)
    (hj : j.natAbs ≤ infinityPattern) : extended i ≤ extended j ↔ i ≤ j :=
  extended_strictMonoOn.le_iff_le ⟨by omega, by omega⟩ ⟨by omega, by omega⟩

private theorem cmp_extended {i j : Int} (hi : i.natAbs ≤ infinityPattern)
    (hj : j.natAbs ≤ infinityPattern) : cmp (extended i) (extended j) = compare i j := by
  rw [extended_strictMonoOn.cmp_map_eq ⟨by omega, by omega⟩ ⟨by omega, by omega⟩, cmp_eq_compare]

theorem numberRank_eq (x : Float) :
    numberRank x = if 0x8000000000000000 ≤ x.toBits.toNat
      then -((x.toBits.toNat % 2 ^ 63 : Nat) : Int) else (x.toBits.toNat % 2 ^ 63 : Nat) := by
  have hbits := x.toBits.toNat_lt
  unfold numberRank orderRank
  dsimp only
  split <;> split <;> split <;> omega

/-- What the parts of a double are by its pattern: a multiple of a power of two below the pattern of
infinity, and no number above. -/
theorem parts_cases (x : Float) :
    (∃ m e : Nat, parts x = .finite (decide (0x8000000000000000 ≤ x.toBits.toNat)) m (e - 1074) ∧
        (numberRank x).natAbs = e * 2 ^ 52 + m ∧ m < 2 ^ 53 ∧ (e = 0 ∨ 2 ^ 52 ≤ m) ∧
        (numberRank x).natAbs < infinityPattern) ∨
      (parts x = .infinite (decide (0x8000000000000000 ≤ x.toBits.toNat)) ∧
        (numberRank x).natAbs = infinityPattern) ∨
      (parts x = .nan ∧ infinityPattern < (numberRank x).natAbs) := by
  have hrank : (numberRank x).natAbs = x.toBits.toNat % 2 ^ 63 := by
    rw [numberRank_eq]
    split <;> omega
  rw [hrank]
  unfold parts infinityPattern
  dsimp only
  rw [Nat.shiftRight_eq_div_pow]
  generalize x.toBits.toNat = bits
  split
  · split
    · exact .inr (.inl ⟨rfl, by omega⟩)
    · exact .inr (.inr ⟨rfl, by omega⟩)
  · left
    split
    · exact ⟨bits % 2 ^ 52, 0, rfl, by omega, by omega, .inl rfl, by omega⟩
    · next hstored =>
      refine ⟨2 ^ 52 + bits % 2 ^ 52, bits / 2 ^ 52 % 0x800 - 1, ?_, by omega, by omega,
        .inr (by omega), by omega⟩
      congr 1
      omega

theorem numberRank_eq_natAbs (x : Float) :
    numberRank x = if 0x8000000000000000 ≤ x.toBits.toNat
      then -((numberRank x).natAbs : Int) else (numberRank x).natAbs := by
  rw [numberRank_eq]
  split <;> omega

private theorem ofRat_signedUnits {x : Float} {m e : Nat}
    (hrank : (numberRank x).natAbs = e * 2 ^ 52 + m) (hm : m < 2 ^ 53) (he : e = 0 ∨ 2 ^ 52 ≤ m) :
    (if 0x8000000000000000 ≤ x.toBits.toNat then -(m : ℚ) else m) * 2 ^ ((e : Int) - 1074) =
      signedUnits (numberRank x) / scale := by
  have hunits : units (numberRank x).natAbs = m * 2 ^ e := by
    rw [hrank, units_eq hm.le he]
  have hpower : (2 : ℚ) ^ ((e : Int) - 1074) = 2 ^ e / scale := by
    rw [zpow_sub₀ two_ne_zero, scale]
    norm_cast
  rw [hpower, numberRank_eq_natAbs, ← mul_div_assoc]
  split
  · rw [signedUnits_neg, signedUnits_natCast, hunits]
    push_cast
    rw [neg_mul]
  · rw [signedUnits_natCast, hunits]
    push_cast
    rfl

/-- The value of a double is read off its place in the order of numbers. -/
theorem value?_eq (x : Float) :
    value? x = if (numberRank x).natAbs ≤ infinityPattern then some (extended (numberRank x))
      else none := by
  rw [value?]
  obtain ⟨m, e, hparts, hrank, hm, he, hlt⟩ | ⟨hparts, hrank⟩ | ⟨hparts, hrank⟩ := parts_cases x
  · rw [hparts, if_pos hlt.le, extended, if_neg (by omega), if_neg (by omega), Parts.value?,
      ofUnits, ← ofRat_signedUnits hrank hm he]
    simp only [decide_eq_true_eq]
  · have hsign := numberRank_eq_natAbs x
    rw [hrank] at hsign
    rw [hparts, if_pos hrank.le, hsign, Parts.value?]
    simp only [decide_eq_true_eq]
    split
    · exact congrArg some (if_pos rfl).symm
    · exact congrArg some ((if_neg (by decide)).trans (if_pos rfl)).symm
  · rw [hparts, if_neg (by omega)]
    rfl

variable {x y : Float} {v w : Extended}

theorem value?_eq_some :
    value? x = some v ↔
      (numberRank x).natAbs ≤ infinityPattern ∧ extended (numberRank x) = v := by
  rw [value?_eq]
  split <;> simp_all

theorem cmp_value (hx : value? x = some v) (hy : value? y = some w) :
    cmp v w = compare (numberRank x) (numberRank y) := by
  obtain ⟨hxrank, rfl⟩ := value?_eq_some.mp hx
  obtain ⟨hyrank, rfl⟩ := value?_eq_some.mp hy
  exact cmp_extended hxrank hyrank

theorem numberRank_ne_zero (hx : value? x = some v) (hv : v ≠ .ofRat (0 : Int)) :
    numberRank x ≠ 0 := by
  intro hzero
  obtain ⟨-, rfl⟩ := value?_eq_some.mp hx
  rw [hzero, ← ofUnits_mul_scale, zero_mul] at hv
  exact hv rfl

/-- The total order of bit patterns is the order of numbers but for the two zeros. -/
theorem totalCompare_eq (hx : numberRank x ≠ 0 ∨ numberRank y ≠ 0) :
    totalCompare x y = compare (numberRank x) (numberRank y) := by
  unfold totalCompare numberRank at *
  rcases Int.lt_trichotomy (orderRank x) (orderRank y) with h | h | h
  · rw [Int.compare_eq_lt.mpr h, eq_comm, Int.compare_eq_lt]
    split <;> split <;> split at hx <;> omega
  · rw [h, Int.compare_eq_eq.mpr rfl, Int.compare_eq_eq.mpr rfl]
  · rw [Int.compare_eq_gt.mpr h, eq_comm, Int.compare_eq_gt]
    split <;> split <;> split at hx <;> omega

/-! ## Integral values -/

/-- The integer that a multiple of a power of two is, if it is one. -/
theorem scaled?_eq_some {m j : Nat} {q : Int} :
    scaled? m q = some j ↔ (m : ℚ) * 2 ^ q = j := by
  unfold scaled?
  simp only [Nat.shiftLeft_eq, Nat.shiftRight_eq_div_pow, one_mul]
  split
  · next hq =>
    obtain ⟨d, rfl⟩ := Int.eq_ofNat_of_zero_le hq
    rw [Option.some_inj, Int.toNat_natCast, zpow_natCast]
    norm_cast
  · next hq =>
    obtain ⟨d, rfl⟩ : ∃ d : Nat, q = -d := ⟨(-q).toNat, by omega⟩
    have hpos : (0 : ℚ) < 2 ^ d := by positivity
    rw [neg_neg, Int.toNat_natCast, zpow_neg, zpow_natCast, ← div_eq_mul_inv,
      div_eq_iff hpos.ne']
    norm_cast
    split
    · next hmod =>
      have hdvd := Nat.dvd_of_mod_eq_zero hmod
      rw [Option.some_inj, Nat.div_eq_iff_eq_mul_left (Nat.two_pow_pos d) hdvd]
    · next hmod =>
      constructor
      · rintro ⟨⟩
      · rintro rfl
        exact absurd (Nat.mul_mod_left _ _) hmod

/-- The integer of a double is its value. -/
theorem integer?_eq_some {n : Int} : integer? x = some n ↔ value? x = some (.ofRat n) := by
  rw [integer?, value?]
  cases parts x with
  | nan => simp [Parts.value?]
  | infinite negative =>
    cases negative
    · simp [Parts.value?, (ofRat_lt_top (n : ℚ)).ne']
    · simp [Parts.value?, (bot_lt_ofRat (n : ℚ)).ne]
  | finite negative m q =>
    simp only [Option.map_eq_some_iff, scaled?_eq_some, Parts.value?, Option.some_inj,
      ofRat_strictMono.injective.eq_iff]
    have hnonneg : (0 : ℚ) ≤ m * 2 ^ q := by positivity
    cases negative
    · constructor
      · rintro ⟨j, hj, rfl⟩
        exact_mod_cast hj
      · intro h
        have hn : 0 ≤ n := by exact_mod_cast h ▸ hnonneg
        obtain ⟨j, rfl⟩ := Int.eq_ofNat_of_zero_le hn
        exact ⟨j, by exact_mod_cast h, rfl⟩
    · simp only [if_true, neg_mul]
      constructor
      · rintro ⟨j, hj, rfl⟩
        rw [hj]
        push_cast
        rfl
      · intro h
        rw [neg_eq_iff_eq_neg] at h
        have hn : 0 ≤ -n := by exact_mod_cast h ▸ hnonneg
        obtain ⟨j, hj⟩ := Int.eq_ofNat_of_zero_le hn
        refine ⟨j, ?_, by omega⟩
        rw [h]
        exact_mod_cast hj

end RollCall.Binary64
