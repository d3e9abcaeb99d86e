import Mathlib.Algebra.Order.Ring.Nat
import RollCall.Votes.Backoff

/-!
# Exact delays

A policy says a delay for every attempt, in numbers without bounds. The delay that is computed is
never longer. It is the one that the policy says where no sum or product leaves its range and the
bits that are cut from the base, the power and the number of the attempt make no difference.
-/
namespace RollCall.Backoff

/-- The delay that a policy says. -/
def exactDelay (attempt : Nat) : Backoff → Nat
  | fixed d => d
  | linear base step => min longest (base + step * attempt)
  | exponential base limit => min limit (base * 2 ^ attempt)
  | immediate => 0

/-- The attempts after which a policy is followed. From the attempt on that a linear policy counts
last, it is followed only if its delays grow no more. A base, power or number that is cut makes no
difference to an exponential policy whose limit is reached without what is cut off. -/
def InRange (attempt : Nat) : Backoff → Prop
  | fixed _ => True
  | linear base step =>
    (base = 0 ∨ base + step * min attempt attemptLimit ≤ longest) ∧
      (attempt ≤ attemptLimit ∨ step = 0 ∨ longest ≤ base + step * attemptLimit)
  | exponential base limit =>
    base * 2 ^ attempt < 0x10000000000000000 ∨
      limit ≤ base % 0x10000000000000000 * factor attempt ∧
        base % 0x10000000000000000 * factor attempt < 0x10000000000000000
  | immediate => True

variable {attempt last base step limit d : Nat} {p : Backoff}

private theorem factor_of_lt (h : attempt < 64) : factor attempt = 2 ^ attempt := by
  rw [factor, Nat.mod_eq_of_lt (by omega), if_pos h, Nat.one_shiftLeft]

private theorem factor_le (attempt : Nat) : factor attempt ≤ 2 ^ attempt := by
  rw [factor]
  split
  · rw [Nat.one_shiftLeft]
    exact Nat.pow_le_pow_right Nat.two_pos (Nat.mod_le _ _)
  · calc
      0xFFFFFFFFFFFFFFFF ≤ 2 ^ 64 := by decide
      _ ≤ 2 ^ attempt := Nat.pow_le_pow_right Nat.two_pos (by omega)

/-- What is cut off makes a product no larger. -/
private theorem product_le (base attempt : Nat) :
    base % 0x10000000000000000 * factor attempt ≤ base * 2 ^ attempt :=
  Nat.mul_le_mul (Nat.mod_le _ _) (factor_le attempt)

/-- Nothing is cut off where the exact product fits. -/
private theorem product_of_lt (h : base * 2 ^ attempt < 0x10000000000000000) :
    base % 0x10000000000000000 * factor attempt = base * 2 ^ attempt := by
  obtain rfl | hbase := base.eq_zero_or_pos
  · rw [Nat.zero_mod, Nat.zero_mul, Nat.zero_mul]
  · have hpower : 2 ^ attempt < 2 ^ 64 := (Nat.le_mul_of_pos_left _ hbase).trans_lt h
    have hfits : base < 0x10000000000000000 :=
      (Nat.le_mul_of_pos_right _ (Nat.two_pow_pos attempt)).trans_lt h
    rw [Nat.mod_eq_of_lt hfits, factor_of_lt ((Nat.pow_lt_pow_iff_right Nat.one_lt_two).mp hpower)]

private theorem delay_le_exactDelay (attempt : Nat) (p : Backoff) :
    p.delay attempt ≤ p.exactDelay attempt := by
  cases p with
  | fixed | immediate => exact le_rfl
  | linear base step =>
    have hcounted : step * min attempt attemptLimit ≤ step * attempt :=
      Nat.mul_le_mul_left step (min_le_left _ _)
    simp only [delay, delay?, exactDelay]
    split
    · simp only [Option.getD_some]
      omega
    · simp only [Option.getD_none]
      omega
  | exponential base limit =>
    have hproduct := product_le base attempt
    have hcut := Nat.mod_le (base % 0x10000000000000000 * factor attempt) 0x10000000000000000
    simp only [delay, delay?, exactDelay, Bool.false_eq_true, if_false]
    split <;> exact min_le_min le_rfl (by omega)

/-- Where the numbers fit, it makes no difference whether that is checked. -/
theorem delay_of_checked (h : p.delay? true attempt = some d) : p.delay attempt = d := by
  cases p with
  | fixed | linear | immediate => exact congrArg (Option.getD · longest) h
  | exponential base limit =>
    simp only [delay?, if_true, Option.ite_none_right_eq_some, Option.some.injEq] at h
    obtain ⟨hproduct, rfl⟩ := h
    rw [delay, delay?, if_pos hproduct, Option.getD_some]

private theorem exactDelay_mono (p : Backoff) (h : attempt ≤ last) :
    p.exactDelay attempt ≤ p.exactDelay last := by
  cases p with
  | fixed | immediate => exact le_rfl
  | linear base step =>
    exact min_le_min le_rfl (Nat.add_le_add_left (Nat.mul_le_mul_left step h) base)
  | exponential base limit =>
    refine min_le_min le_rfl (Nat.mul_le_mul_left base ?_)
    exact Nat.pow_le_pow_right Nat.two_pos h

private theorem delay?_linear_iff :
    (linear base step).delay? true attempt = some ((linear base step).exactDelay attempt) ↔
      (linear base step).InRange attempt := by
  simp only [delay?, exactDelay, InRange, Option.ite_none_right_eq_some, Option.some.injEq]
  obtain hpast | hcounted := Nat.lt_or_ge attemptLimit attempt
  · rw [min_eq_right hpast.le]
    obtain rfl | hstep := step.eq_zero_or_pos
    · simp only [Nat.zero_mul, Nat.add_zero, Nat.min_zero, true_or, or_true, and_true]
      omega
    · have hgrows : step * attemptLimit < step * attempt := Nat.mul_lt_mul_of_pos_left hpast hstep
      omega
  · rw [min_eq_left hcounted]
    omega

private theorem delay?_exponential_iff :
    (exponential base limit).delay? true attempt =
        some ((exponential base limit).exactDelay attempt) ↔
      (exponential base limit).InRange attempt := by
  simp only [delay?, exactDelay, InRange, if_true, Option.ite_none_right_eq_some, Option.some.injEq]
  obtain hfits | hlarge := Nat.lt_or_ge (base * 2 ^ attempt) 0x10000000000000000
  · simp only [product_of_lt hfits, hfits, and_self, true_or]
  · have hproduct := product_le base attempt
    omega

theorem delay?_eq_exactDelay_iff :
    p.delay? true attempt = some (p.exactDelay attempt) ↔ p.InRange attempt := by
  cases p with
  | fixed | immediate => exact iff_of_true rfl trivial
  | linear => exact delay?_linear_iff
  | exponential => exact delay?_exponential_iff

/-- No delay is longer than the policy says. The numbers fit and give the delay of the policy
exactly after the attempts in range, and among these no delay is longer than a later one. -/
theorem delays_exact (p : Backoff) :
    (∀ attempt, p.delay attempt ≤ p.exactDelay attempt) ∧
      (∀ attempt, p.delay? true attempt = some (p.exactDelay attempt) ↔ p.InRange attempt) ∧
      ∀ attempt, p.InRange attempt → p.delay attempt = p.exactDelay attempt ∧
        ∀ last, p.InRange last → attempt ≤ last → p.delay attempt ≤ p.delay last := by
  have hexact : ∀ {attempt}, p.InRange attempt → p.delay attempt = p.exactDelay attempt :=
    fun h => delay_of_checked (delay?_eq_exactDelay_iff.mpr h)
  refine ⟨fun attempt => delay_le_exactDelay attempt p, fun _ => delay?_eq_exactDelay_iff,
    fun attempt hrange => ⟨hexact hrange, fun last hlast h => ?_⟩⟩
  rw [hexact hrange, hexact hlast]
  exact exactDelay_mono p h

/-- An exponential policy leaves its range before the attempts that are counted from the start
again, and a linear one stops counting. -/
theorem delays_exact_counted :
    (exponential 100 500).exactDelay 62 = 500 ∧
      (exponential 100 500).delay? true 62 = none ∧ (exponential 100 500).delay 62 = 0 ∧
      (exponential 100 500).exactDelay 0x100000000 = 500 ∧
      (exponential 100 500).delay? true 0x100000000 = some 100 ∧
      (linear 0 1).exactDelay 0x100000000 = 0x100000000 ∧
      (linear 0 1).delay? true 0x100000000 = some 0xFFFFFFFF ∧
      (linear 1 longest).delay? true 1 = none := by
  have hlimit : ∀ attempt, 3 ≤ attempt → (exponential 100 500).exactDelay attempt = 500 := by
    intro attempt h
    have hpower : 2 ^ 3 ≤ 2 ^ attempt := Nat.pow_le_pow_right Nat.two_pos h
    simp only [exactDelay]
    omega
  exact ⟨hlimit _ (by decide), by decide, by decide, hlimit _ (by decide), by decide, by decide,
    by decide, by decide⟩

theorem delays_exact_sample :
    (∀ attempt ≤ attemptLimit, standard.delay attempt = standard.exactDelay attempt ∧
        standard.delay attempt ≤ standard.delay attemptLimit) ∧
      (exponential 18446744073709552000 100).delay? true 0 = some 100 ∧
      (exponential 100 500).delay? true 57 = some 500 ∧ ¬(exponential 100 500).InRange 58 := by
  have hstandard : ∀ attempt ≤ attemptLimit, standard.InRange attempt := by
    intro attempt h
    simp only [standard, InRange, attemptLimit, longest] at h ⊢
    omega
  have hlimit : (exponential 100 500).InRange 57 := .inr (by decide)
  have hcut : (exponential 18446744073709552000 100).InRange 0 := .inr (by decide)
  refine ⟨fun attempt h => ?_, ((delays_exact _).2.1 0).mpr hcut,
    ((delays_exact _).2.1 57).mpr hlimit, ?_⟩
  · obtain ⟨hexact, hmono⟩ := (delays_exact standard).2.2 attempt (hstandard attempt h)
    exact ⟨hexact, hmono _ (hstandard _ le_rfl) h⟩
  · rw [← delay?_eq_exactDelay_iff]
    decide

end RollCall.Backoff
