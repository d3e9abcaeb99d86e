import Mathlib.Data.List.Induction
import Mathlib.Data.Nat.Digits.Defs
import RollCall.Text.Integer

/-!
# Texts of integers

`Text.toInt?` reads a text exactly if it is a decimal integer: one or more of the ten digits, with
any number of leading zeros, after one sign or none.
-/
namespace RollCall.Text

def IsNatural (cs : List Char) (n : Nat) : Prop :=
  ∃ ds : List Nat, ds ≠ [] ∧ (∀ d ∈ ds, d < 10) ∧ cs = ds.map Nat.digitChar ∧
    n = Nat.ofDigits 10 ds.reverse

/-- Decimal digits of a natural number, or of an integer after its sign. -/
inductive IsDecimal : List Char → Int → Prop
  | unsigned {cs : List Char} {n : Nat} (h : IsNatural cs n) : IsDecimal cs n
  | plus {cs : List Char} {n : Nat} (h : IsNatural cs n) : IsDecimal ('+' :: cs) n
  | minus {cs : List Char} {n : Nat} (h : IsNatural cs n) : IsDecimal ('-' :: cs) (-n)

variable {cs : List Char} {n : Nat}

theorem exists_digit {c : Char} (h : c.isDigit) : ∃ d < 10, c = Nat.digitChar d := by
  have hrange : 48 ≤ c.toNat ∧ c.toNat ≤ 57 := by
    simpa [Char.isDigit, UInt32.le_iff_toNat_le] using h
  have hd : c.toNat - 48 < 10 := by omega
  refine ⟨c.toNat - 48, hd, Char.toNat_inj.mp ?_⟩
  rw [Nat.toNat_digitChar_of_lt_ten hd]
  omega

private theorem exists_digits (h : ∀ c ∈ cs, c.isDigit) :
    ∃ ds : List Nat, (∀ d ∈ ds, d < 10) ∧ cs = ds.map Nat.digitChar := by
  induction cs with
  | nil => exact ⟨[], List.forall_mem_nil _, rfl⟩
  | cons c cs ih =>
    obtain ⟨hc, hcs⟩ := List.forall_mem_cons.mp h
    obtain ⟨d, hd, rfl⟩ := exists_digit hc
    obtain ⟨ds, hds, rfl⟩ := ih hcs
    exact ⟨d :: ds, List.forall_mem_cons.mpr ⟨hd, hds⟩, rfl⟩

private theorem natOfDigits_digits {ds : List Nat} (h : ∀ d ∈ ds, d < 10) :
    Decimal.natOfDigits (ds.map Nat.digitChar) = Nat.ofDigits 10 ds.reverse := by
  induction ds using List.reverseRecOn with
  | nil => rfl
  | append_singleton ds d ih =>
    obtain ⟨hds, hd⟩ := List.forall_mem_append.mp h
    have hvalue : (Nat.digitChar d).toNat - '0'.toNat = d := by
      rw [Nat.toNat_digitChar_of_lt_ten (hd d List.mem_cons_self)]
      exact Nat.add_sub_cancel_left 48 d
    rw [List.map_append, Decimal.natOfDigits, List.foldl_append, ← Decimal.natOfDigits, ih hds,
      List.map_singleton, List.foldl_cons, List.foldl_nil, hvalue, List.reverse_append,
      List.reverse_singleton, List.singleton_append, Nat.ofDigits_cons, Nat.add_comm]

private theorem digitsToNat?_eq_some_iff : digitsToNat? cs = some n ↔ IsNatural cs n := by
  constructor
  · intro h
    rw [digitsToNat?] at h
    split at h
    · next hdigits =>
      rw [Bool.and_eq_true, List.all_eq_true] at hdigits
      obtain ⟨ds, hds, rfl⟩ := exists_digits hdigits.2
      refine ⟨ds, ?_, hds, rfl, ?_⟩
      · rintro rfl
        exact Bool.noConfusion hdigits.1
      · rw [← natOfDigits_digits hds]
        exact (Option.some.inj h).symm
    · cases h
  · rintro ⟨ds, hne, hds, rfl, rfl⟩
    have hdigits : (ds.map Nat.digitChar).all Char.isDigit := by
      simpa [Nat.isDigit_digitChar] using hds
    rw [digitsToNat?, hdigits, natOfDigits_digits hds]
    cases ds with
    | nil => exact absurd rfl hne
    | cons d ds => rfl

/-- Digits do not start with a sign. -/
theorem IsNatural.not_sign {c : Char} (hc : c.isDigit = false) : ¬IsNatural (c :: cs) n := by
  rintro ⟨_ | ⟨d, ds⟩, hne, hds, hcs, -⟩
  · exact hne rfl
  · obtain ⟨rfl, -⟩ := List.cons.inj hcs
    have hd : d < 10 := hds d List.mem_cons_self
    rw [Nat.isDigit_digitChar, decide_eq_false_iff_not] at hc
    exact hc hd

private theorem isDecimal_minus {n : Int} :
    IsDecimal ('-' :: cs) n ↔ ∃ k : Nat, IsNatural cs k ∧ -(k : Int) = n := by
  constructor
  · rintro (h | h | h)
    · exact absurd h (IsNatural.not_sign rfl)
    · exact ⟨_, h, rfl⟩
  · rintro ⟨k, h, rfl⟩
    exact .minus h

private theorem isDecimal_plus {n : Int} :
    IsDecimal ('+' :: cs) n ↔ ∃ k : Nat, IsNatural cs k ∧ (k : Int) = n := by
  constructor
  · rintro (h | h | h)
    · exact absurd h (IsNatural.not_sign rfl)
    · exact ⟨_, h, rfl⟩
  · rintro ⟨k, h, rfl⟩
    exact .plus h

/-- Without a minus sign a plus sign may be left out. -/
theorem isDecimal_dropPlus {n : Int} (hminus : ∀ rest, cs ≠ '-' :: rest) :
    IsDecimal cs n ↔ ∃ k : Nat, IsNatural (dropPlus cs) k ∧ (k : Int) = n := by
  unfold dropPlus
  split
  · exact isDecimal_plus
  · next hplus =>
    constructor
    · rintro (h | h | h)
      · exact ⟨_, h, rfl⟩
      · exact absurd rfl (hplus _)
      · exact absurd rfl (hminus _)
    · rintro ⟨k, h, rfl⟩
      exact .unsigned h

/-- A text is read as an integer if it is one in decimal digits. -/
theorem toInt?_eq_some_iff {s : String} {n : Int} : toInt? s = some n ↔ IsDecimal s.toList n := by
  rw [toInt?]
  split
  · next cs hs =>
    rw [hs, isDecimal_minus]
    simp [Option.bind_eq_some_iff, digitsToNat?_eq_some_iff]
  · next hminus =>
    rw [isDecimal_dropPlus hminus]
    simp [Option.bind_eq_some_iff, digitsToNat?_eq_some_iff]

end RollCall.Text
