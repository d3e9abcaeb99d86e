/-!
# Checked integers

Arithmetic on 64-bit integers that yields nothing where the exact result does not fit. Every
operation is the exact one on `Int` followed by `ofInt?`, which is all there is to know about it.
-/
namespace RollCall.Checked

/-- The 64-bit integer with the given value, if there is one. -/
def ofInt? (n : Int) : Option Int64 :=
  if -0x8000000000000000 ≤ n ∧ n < 0x8000000000000000 then some (Int64.ofInt n) else none

def add? (a b : Int64) : Option Int64 := ofInt? (a.toInt + b.toInt)

def sub? (a b : Int64) : Option Int64 := ofInt? (a.toInt - b.toInt)

def mul? (a b : Int64) : Option Int64 := ofInt? (a.toInt * b.toInt)

def neg? (a : Int64) : Option Int64 := ofInt? (-a.toInt)

def abs? (a : Int64) : Option Int64 := ofInt? a.toInt.natAbs

/-- The power with an exponent from `0` to below `2^32`. Powers of `-1`, `0` and `1` depend on the
parity of a large exponent only, and any other base overflows past the exponent `63`. -/
def pow? (a b : Int64) : Option Int64 :=
  if b.toInt < 0 ∨ 0x100000000 ≤ b.toInt then none
  else
    let exponent := b.toInt.toNat
    if exponent ≤ 63 then ofInt? (Int.pow a.toInt exponent)
    else if a.toInt.natAbs ≤ 1 then ofInt? (Int.pow a.toInt (2 + exponent % 2))
    else none

theorem toInt_of_ofInt? {n : Int} {a : Int64} (h : ofInt? n = some a) : a.toInt = n := by
  unfold ofInt? at h
  split at h
  · next hn =>
    cases h
    exact Int64.toInt_ofInt_of_le (by omega) (by omega)
  · cases h

theorem ofInt?_toInt (a : Int64) : ofInt? a.toInt = some a := by
  have hl := a.le_toInt
  have hu := a.toInt_lt
  unfold ofInt?
  rw [if_pos ⟨hl, hu⟩, Int64.ofInt_toInt]

theorem ofInt?_eq_some_iff {n : Int} {a : Int64} : ofInt? n = some a ↔ n = a.toInt := by
  constructor
  · intro h
    exact (toInt_of_ofInt? h).symm
  · rintro rfl
    exact ofInt?_toInt a

theorem ofInt?_eq_none_iff {n : Int} :
    ofInt? n = none ↔ n < -0x8000000000000000 ∨ 0x8000000000000000 ≤ n := by
  unfold ofInt?
  split <;> simp <;> omega

end RollCall.Checked
