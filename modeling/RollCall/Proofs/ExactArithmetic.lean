import Mathlib.Algebra.BigOperators.Group.List.Basic
import Mathlib.Algebra.Order.Ring.Int
import Mathlib.Tactic.Ring
import RollCall.Expression.Operator
import RollCall.Proofs.Outcome

/-!
# Exact arithmetic

On integers and truth values the arithmetic operators give an integer exactly if the result is one
of 64 bits, as are all results on the way to it, and then it is the exact result. Once a result has
been rounded it stays so. `Operator.ComputesTo` says this without the operators: a sum or a product
goes through those of the first operands, and any other operator has its result only.
-/
namespace RollCall

namespace Checked

variable {n : Int} {a b : Int64}

/-- The number is a 64-bit integer. -/
def Fits (n : Int) : Prop :=
  -2 ^ 63 ≤ n ∧ n < 2 ^ 63

instance (n : Int) : Decidable (Fits n) :=
  inferInstanceAs (Decidable (_ ∧ _))

theorem fits_toInt (a : Int64) : Fits a.toInt :=
  ⟨a.le_toInt, a.toInt_lt⟩

theorem ofInt?_eq_none_iff_not_fits : ofInt? n = none ↔ ¬Fits n := by
  rw [ofInt?_eq_none_iff, Fits]
  omega

/-- A number of magnitude two or more has no 64-bit power past the exponent `63`. -/
theorem not_fits_pow {e : Nat} (hn : 2 ≤ n.natAbs) (he : 64 ≤ e) : ¬Fits (n ^ e) := by
  have hpow : 2 ^ 64 ≤ (n ^ e).natAbs := by
    calc 2 ^ 64 ≤ n.natAbs ^ 64 := Nat.pow_le_pow_left hn 64
      _ ≤ n.natAbs ^ e := Nat.pow_le_pow_right (by omega) he
      _ = (n ^ e).natAbs := (Int.natAbs_pow n e).symm
  rintro ⟨hlower, hupper⟩
  omega

/-- The powers of a number of magnitude one or less depend on the parity of the exponent only. -/
theorem pow_parity {e : Nat} (hn : n.natAbs ≤ 1) (he : 1 ≤ e) : n ^ (2 + e % 2) = n ^ e := by
  have hcases : n = -1 ∨ n = 0 ∨ n = 1 := by omega
  have hsplit : e = 2 * (e / 2) + e % 2 := by omega
  rcases hcases with rfl | rfl | rfl
  · conv_rhs => rw [hsplit, pow_add, pow_mul]
    simp [pow_add]
  · rw [zero_pow (by omega), zero_pow (by omega)]
  · rw [one_pow, one_pow]

private theorem pow?_eq : pow? a b =
    if 0 ≤ b.toInt ∧ b.toInt < 2 ^ 32 then ofInt? (a.toInt ^ b.toInt.toNat) else none := by
  rw [pow?]
  by_cases hrange : 0 ≤ b.toInt ∧ b.toInt < 2 ^ 32
  · rw [if_neg (by omega), if_pos hrange]
    dsimp only
    by_cases hsmall : b.toInt.toNat ≤ 63
    · rw [if_pos hsmall]
      rfl
    · rw [if_neg hsmall]
      by_cases hunit : a.toInt.natAbs ≤ 1
      · rw [if_pos hunit, ← pow_parity hunit (by omega)]
        rfl
      · rw [if_neg hunit, eq_comm, ofInt?_eq_none_iff_not_fits]
        exact not_fits_pow (by omega) (by omega)
  · rw [if_pos (by omega), if_neg hrange]

end Checked

open Checked (Fits)

def Cell.whole? : Cell → Option Int
  | .int n => some n.toInt
  | .bool b => some (if b then 1 else 0)
  | _ => none

theorem Cell.whole?_eq_some {c : Cell} {n : Int} (h : c.whole? = some n) :
    ∃ x : Int64, x.toInt = n ∧ (c = .int x ∨ ∃ b, c = .bool b ∧ x = if b then 1 else 0) := by
  cases c with
  | int x => exact ⟨x, Option.some.inj h, .inl rfl⟩
  | bool b =>
    refine ⟨if b then 1 else 0, ?_, .inr ⟨b, rfl, rfl⟩⟩
    cases b <;> exact Option.some.inj h
  | null | float | text => cases h

namespace Operator

def arithmetic : List Operator := [add, sub, mul, neg, abs, pow]

/-- The exact result of an operator on integers, if it is an integer. The exponent of a power has
32 bits. -/
def exactResult? : Operator → List Int → Option Int
  | add, ns => some ns.sum
  | mul, ns => some ns.prod
  | sub, [a, b] => some (a - b)
  | neg, [a] => some (-a)
  | abs, [a] => some |a|
  | pow, [a, b] => if 0 ≤ b ∧ b < 2 ^ 32 then some (a ^ b.toNat) else none
  | _, _ => none

/-- The exact result is the given integer, and it and all results for the first operands are in
range. -/
structure ComputesTo (op : Operator) (ns : List Int) (v : Int) : Prop where
  exact_eq : op.exactResult? ns = some v
  fits : ∀ before n, before <+: ns → op.exactResult? before = some n → Fits n

end Operator

namespace Number

variable {checked? : Int64 → Int64 → Option Int64} {rounded : Float → Float → Float}
  {exact : Int → Int → Int}

theorem ofChecked_eq_int {checked : Option Int64} {x : Float} {v : Int64} :
    ofChecked checked x = int v ↔ checked = some v := by
  cases checked <;> simp [ofChecked]

theorem combine_eq_int {a b v : Int64} :
    combine checked? rounded (int a) (int b) = int v ↔ checked? a b = some v := by
  rw [combine, ofChecked_eq_int]

private theorem neg_eq_int {a v : Int64} : (int a).neg = int v ↔ Checked.neg? a = some v := by
  rw [neg, ofChecked_eq_int]

private theorem abs_eq_int {a v : Int64} : (int a).abs = int v ↔ Checked.abs? a = some v := by
  rw [abs, ofChecked_eq_int]

/-- What has been rounded stays so. -/
theorem foldl_combine_float (x : Float) (rest : List Number) :
    ∃ y, rest.foldl (combine checked? rounded) (float x) = float y := by
  induction rest generalizing x with
  | nil => exact ⟨x, rfl⟩
  | cons b rest ih => exact ih (rounded x b.toFloat)

/-- A fold of checked operations is exact as long as every result is in range, and else rounded. -/
theorem foldl_combine_eq_int
    (hchecked : ∀ a b, checked? a b = Checked.ofInt? (exact a.toInt b.toInt)) (a v : Int64)
    (rest : List Int64) :
    (rest.map int).foldl (combine checked? rounded) (int a) = int v ↔
      (rest.map Int64.toInt).foldl exact a.toInt = v.toInt ∧
        ∀ before, before <+: rest.map Int64.toInt → Fits (before.foldl exact a.toInt) := by
  induction rest generalizing a with
  | nil => simp [Checked.fits_toInt, Int64.toInt_inj]
  | cons b rest ih =>
    simp only [List.map_cons, List.foldl_cons, List.prefix_cons_iff]
    cases hk : checked? a b with
    | some k =>
      have hvalue : exact a.toInt b.toInt = k.toInt := by
        rw [hchecked] at hk
        exact Checked.ofInt?_eq_some_iff.mp hk
      rw [combine_eq_int.mpr hk, hvalue, ih]
      refine and_congr_right fun _ => ?_
      constructor
      · rintro h before (rfl | ⟨before, rfl, hbefore⟩)
        · exact Checked.fits_toInt a
        · rw [List.foldl_cons, hvalue]
          exact h before hbefore
      · intro h before hbefore
        have hcons := h (b.toInt :: before) (.inr ⟨before, rfl, hbefore⟩)
        rwa [List.foldl_cons, hvalue] at hcons
    | none =>
      have hover : ¬Fits (exact a.toInt b.toInt) := by
        rw [hchecked] at hk
        exact Checked.ofInt?_eq_none_iff_not_fits.mp hk
      have hstep : combine checked? rounded (int a) (int b) =
          float (rounded (Binary64.ofInt a.toInt) (Binary64.ofInt b.toInt)) := by
        rw [combine, hk, ofChecked]
      obtain ⟨y, hy⟩ := @foldl_combine_float checked? rounded
        (rounded (Binary64.ofInt a.toInt) (Binary64.ofInt b.toInt)) (rest.map int)
      rw [hstep, hy]
      refine iff_of_false (fun h => nomatch h) fun h => hover ?_
      exact h.2 [b.toInt] (.inr ⟨[], rfl, List.nil_prefix⟩)

end Number

namespace Operator

variable {op : Operator} {ns : List Int} {v : Int64}

/-- An operator that gives nothing for fewer operands has its result only. -/
theorem computesTo_iff_exact
    (h : ∀ before, before <+: ns → before ≠ ns → op.exactResult? before = none) :
    op.ComputesTo ns v.toInt ↔ op.exactResult? ns = some v.toInt := by
  refine ⟨ComputesTo.exact_eq, fun hexact => ⟨hexact, fun before n hbefore hn => ?_⟩⟩
  by_cases heq : before = ns
  · rw [heq, hexact] at hn
    exact Option.some.inj hn ▸ Checked.fits_toInt v
  · rw [h before hbefore heq] at hn
    cases hn

private theorem computesTo_iff_foldl {f : Int → Int → Int} {a : Int} {rest : List Int}
    (hcons : ∀ rest, op.exactResult? (a :: rest) = some (rest.foldl f a))
    (hnil : ∀ n, op.exactResult? [] = some n → Fits n) :
    op.ComputesTo (a :: rest) v.toInt ↔
      rest.foldl f a = v.toInt ∧ ∀ before, before <+: rest → Fits (before.foldl f a) := by
  constructor
  · rintro ⟨hexact, hfits⟩
    rw [hcons] at hexact
    refine ⟨Option.some.inj hexact, fun before hbefore => ?_⟩
    exact hfits (a :: before) _ ((List.prefix_cons_inj a).mpr hbefore) (hcons before)
  · rintro ⟨hresult, hfits⟩
    refine ⟨(hcons rest).trans (congrArg some hresult), fun before n hbefore hn => ?_⟩
    rcases List.prefix_cons_iff.mp hbefore with rfl | ⟨rest', rfl, hrest⟩
    · exact hnil n hn
    · rw [hcons] at hn
      exact Option.some.inj hn ▸ hfits rest' hrest

theorem exactResult?_before_pair {a b : Int} (h : op = sub ∨ op = pow) (before : List Int)
    (hbefore : before <+: [a, b]) (hne : before ≠ [a, b]) : op.exactResult? before = none := by
  obtain rfl | ⟨before, rfl, hrest⟩ := List.prefix_cons_iff.mp hbefore
  · obtain rfl | rfl := h <;> rfl
  · obtain rfl | ⟨before, rfl, hnil⟩ := List.prefix_cons_iff.mp hrest
    · obtain rfl | rfl := h <;> rfl
    · obtain rfl := List.prefix_nil.mp hnil
      exact absurd rfl hne

theorem exactResult?_before_single {a : Int} (h : op = neg ∨ op = abs) (before : List Int)
    (hbefore : before <+: [a]) (hne : before ≠ [a]) : op.exactResult? before = none := by
  obtain rfl | ⟨before, rfl, hnil⟩ := List.prefix_cons_iff.mp hbefore
  · obtain rfl | rfl := h <;> rfl
  · obtain rfl := List.prefix_nil.mp hnil
    exact absurd rfl hne

/-- Sums and products are such folds. -/
theorem foldl_eq_int_iff {checked? : Int64 → Int64 → Option Int64}
    {rounded : Float → Float → Float} {f : Int → Int → Int} {a : Int64} {rest : List Int64}
    (hchecked : ∀ a b, checked? a b = Checked.ofInt? (f a.toInt b.toInt))
    (hcons : ∀ rest, op.exactResult? (a.toInt :: rest) = some (rest.foldl f a.toInt))
    (hnil : ∀ n, op.exactResult? [] = some n → Fits n) :
    (rest.map Number.int).foldl (Number.combine checked? rounded) (.int a) = .int v ↔
      op.ComputesTo ((a :: rest).map Int64.toInt) v.toInt := by
  rw [List.map_cons, computesTo_iff_foldl hcons hnil]
  exact Number.foldl_combine_eq_int hchecked a v rest

private theorem sub_eq_int_iff {a b : Int64} :
    (Number.int a).sub (.int b) = .int v ↔ sub.ComputesTo ([a, b].map Int64.toInt) v.toInt := by
  rw [Number.sub, Number.combine_eq_int, Checked.sub?, Checked.ofInt?_eq_some_iff,
    ← Option.some_inj]
  exact (computesTo_iff_exact (exactResult?_before_pair (.inl rfl))).symm

private theorem pow_eq_int_iff {a b : Int64} :
    (Number.int a).pow (.int b) = .int v ↔ pow.ComputesTo ([a, b].map Int64.toInt) v.toInt := by
  have hexact : Checked.pow? a b = some v ↔
      pow.exactResult? [a.toInt, b.toInt] = some v.toInt := by
    rw [Checked.pow?_eq, exactResult?]
    split
    · rw [Checked.ofInt?_eq_some_iff, Option.some_inj]
    · simp only [reduceCtorEq]
  rw [Number.pow, Number.combine_eq_int, hexact]
  exact (computesTo_iff_exact (exactResult?_before_pair (.inr rfl))).symm

private theorem neg_eq_int_iff {a : Int64} :
    (Number.int a).neg = .int v ↔ neg.ComputesTo ([a].map Int64.toInt) v.toInt := by
  rw [Number.neg_eq_int, Checked.neg?, Checked.ofInt?_eq_some_iff, ← Option.some_inj]
  exact (computesTo_iff_exact (exactResult?_before_single (.inl rfl))).symm

private theorem abs_eq_int_iff {a : Int64} :
    (Number.int a).abs = .int v ↔ abs.ComputesTo ([a].map Int64.toInt) v.toInt := by
  rw [Number.abs_eq_int, Checked.abs?, Checked.ofInt?_eq_some_iff, Int.natCast_natAbs,
    ← Option.some_inj]
  exact (computesTo_iff_exact (exactResult?_before_single (.inr rfl))).symm

/-- Integers are computed with exactly or the result is rounded. -/
theorem exists_compute (hop : op ∈ arithmetic) (xs : List Int64) (hcount : op.allows xs.length) :
    ∃ n, op.compute? (xs.map .int) = some n ∧
      ∀ v : Int64, n = .int v ↔ op.ComputesTo (xs.map Int64.toInt) v.toInt := by
  cases op with
  | add =>
    have hpos : 0 < xs.length := Nat.zero_lt_of_lt (of_decide_eq_true hcount)
    obtain ⟨a, rest, rfl⟩ := List.exists_cons_of_length_pos hpos
    have hcons (ns : List Int) : add.exactResult? (a.toInt :: ns) =
        some (ns.foldl (· + ·) a.toInt) := by
      rw [exactResult?, List.sum_eq_foldl, List.foldl_cons, zero_add]
    have hnil : ∀ n, add.exactResult? [] = some n → Fits n := by
      rintro _ ⟨⟩
      decide
    exact ⟨_, rfl, fun v => foldl_eq_int_iff (fun _ _ => rfl) hcons hnil⟩
  | mul =>
    have hpos : 0 < xs.length := Nat.zero_lt_of_lt (of_decide_eq_true hcount)
    obtain ⟨a, rest, rfl⟩ := List.exists_cons_of_length_pos hpos
    have hcons (ns : List Int) : mul.exactResult? (a.toInt :: ns) =
        some (ns.foldl (· * ·) a.toInt) := by
      rw [exactResult?, List.prod_eq_foldl, List.foldl_cons, one_mul]
    have hnil : ∀ n, mul.exactResult? [] = some n → Fits n := by
      rintro _ ⟨⟩
      decide
    exact ⟨_, rfl, fun v => foldl_eq_int_iff (fun _ _ => rfl) hcons hnil⟩
  | sub =>
    obtain ⟨a, b, rfl⟩ := List.length_eq_two.mp (eq_of_beq hcount)
    exact ⟨_, rfl, fun v => sub_eq_int_iff⟩
  | pow =>
    obtain ⟨a, b, rfl⟩ := List.length_eq_two.mp (eq_of_beq hcount)
    exact ⟨_, rfl, fun v => pow_eq_int_iff⟩
  | neg =>
    obtain ⟨a, rfl⟩ := List.length_eq_one_iff.mp (eq_of_beq hcount)
    exact ⟨_, rfl, fun v => neg_eq_int_iff⟩
  | abs =>
    obtain ⟨a, rfl⟩ := List.length_eq_one_iff.mp (eq_of_beq hcount)
    exact ⟨_, rfl, fun v => abs_eq_int_iff⟩
  | div | min | max | and | or => exact absurd hop (by decide)

/-- The cells that stand for integers are the integers of 64 bits and the truth values. -/
theorem number?_of_whole {c : Cell} {n : Int} (h : c.whole? = some n) :
    ∃ x : Int64, op.number? c = .ok (some (.int x)) ∧ x.toInt = n := by
  obtain ⟨x, hx, rfl | ⟨b, rfl, rfl⟩⟩ := Cell.whole?_eq_some h
  · exact ⟨x, rfl, hx⟩
  · exact ⟨_, rfl, hx⟩

private theorem mapM_number?_of_whole (op : Operator) {operands : List Cell}
    (h : operands.map Cell.whole? = ns.map some) :
    ∃ xs : List Int64, operands.mapM op.number? = .ok ((xs.map Number.int).map some) ∧
      xs.map Int64.toInt = ns := by
  induction operands generalizing ns with
  | nil =>
    obtain rfl := List.map_eq_nil_iff.mp h.symm
    exact ⟨[], rfl, rfl⟩
  | cons c operands ih =>
    obtain ⟨n, ns, rfl, hc, hrest⟩ := List.map_eq_cons_iff.mp h.symm
    obtain ⟨x, hread, rfl⟩ := @number?_of_whole op _ _ hc.symm
    obtain ⟨xs, hreads, rfl⟩ := ih hrest.symm
    refine ⟨x :: xs, ?_, rfl⟩
    rw [List.mapM_cons, hread, hreads]
    rfl

/-- No operand is missing and the operator has a result. -/
theorem apply_eq_of_compute {operands : List Cell} {numbers : List Number} {n : Number}
    (hop : op ∈ arithmetic) (hcount : op.allows operands.length)
    (hreads : operands.mapM op.number? = .ok (numbers.map some))
    (hn : op.compute? numbers = some n) : op.apply operands = .ok n.toCell := by
  have hpresent : (numbers.map some).mapM id = some numbers := by
    rw [List.mapM_map]
    exact List.mapM_pure.trans (congrArg some (List.map_id _))
  cases op
  case div | min | max | and | or => exact absurd hop (by decide)
  all_goals
    simp only [apply, hcount, hreads, bind, Except.bind, hpresent, hn]
    rfl

/-- An arithmetic operator on integers and truth values succeeds. Its result is an integer exactly
if the exact result and all before it are in range, and is then exact; else it is a float. -/
theorem apply_whole {operands : List Cell} (hop : op ∈ arithmetic)
    (hcount : op.allows operands.length) (hcells : operands.map Cell.whole? = ns.map some) :
    ∃ c, op.apply operands = .ok c ∧
      (∀ v : Int64, c = .int v ↔ op.ComputesTo ns v.toInt) ∧
      ((∃ v, c = .int v) ∨ ∃ x, c = .float x) := by
  obtain ⟨xs, hreads, hxs⟩ := mapM_number?_of_whole op hcells
  have hlength : xs.length = operands.length := by
    simpa [← hxs] using (congrArg List.length hcells).symm
  obtain ⟨n, hn, hexact⟩ := exists_compute hop xs (hlength ▸ hcount)
  refine ⟨n.toCell, apply_eq_of_compute hop hcount hreads hn, fun v => ?_, ?_⟩
  · rw [← hxs, ← hexact]
    cases n <;> simp [Number.toCell]
  · cases n with
    | int v => exact .inl ⟨v, rfl⟩
    | float x => exact .inr ⟨x, rfl⟩

/-- A sum that leaves the range on its way is rounded though it comes back; the least integer is a
power. -/
theorem apply_whole_at_bounds :
    (∃ x, add.apply [.int 0x7fffffffffffffff, .bool true, .int (-1)] = .ok (.float x)) ∧
      pow.apply [.int (-2), .int 63] = .ok (.int (-0x8000000000000000)) := by
  constructor
  · obtain ⟨c, hc, hexact, ⟨v, rfl⟩ | ⟨x, rfl⟩⟩ :=
      @apply_whole add [2 ^ 63 - 1, 1, -1] [.int 0x7fffffffffffffff, .bool true, .int (-1)]
        (by decide) (by decide) (by decide)
    · have hover : Fits (2 ^ 63) := ((hexact v).mp rfl).fits [2 ^ 63 - 1, 1] _ (by decide) rfl
      exact absurd hover (by decide)
    · exact ⟨x, hc⟩
  · obtain ⟨c, hc, hexact, -⟩ :=
      @apply_whole pow [-2, 63] [.int (-2), .int 63] (by decide) (by decide) (by decide)
    have hpower : pow.ComputesTo [-2, 63] (-0x8000000000000000 : Int64).toInt :=
      (computesTo_iff_exact (exactResult?_before_pair (.inr rfl))).mpr (by decide)
    rw [hc, (hexact _).mpr hpower]

end Operator
end RollCall
