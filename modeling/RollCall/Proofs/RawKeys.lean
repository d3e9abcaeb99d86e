import RollCall.Cell.Key
import RollCall.Proofs.RoundedIntegers

/-!
# The order of raw keys

A raw key holds its number as a bit pattern, so that there are also keys for the patterns of no
number other than the standard one. Raw keys are linearly ordered. The comparison of an integer with
a number that is none goes by the nearest double and the one of two integers does not, so that the
order is a lexicographic one only because rounding never puts two integers the other way round.
-/
namespace RollCall

namespace Binary64

/-- The place of a bit pattern in the total order. -/
def rankOfBits (bits : UInt64) : Int :=
  if bits.toNat < 0x8000000000000000 then bits.toNat else 0x7FFFFFFFFFFFFFFF - bits.toNat

private theorem rankOfBits_injective {u v : UInt64} (h : rankOfBits u = rankOfBits v) : u = v := by
  have hu := u.toNat_lt
  have hv := v.toNat_lt
  apply UInt64.toNat_inj.mp
  unfold rankOfBits at h
  split at h <;> split at h <;> omega

end Binary64

inductive Hashed
  | byte (b : UInt8)
  | integer (n : Int64)
  | word (bits : UInt64)
  | text (s : String)
deriving DecidableEq

/-- A key that holds its number as a bit pattern. -/
inductive RawKey
  | bool (b : Bool)
  | int (n : Int64)
  | number (bits : UInt64)
  | text (s : String)
  | null
deriving DecidableEq

namespace RawKey

open Binary64

def rank : RawKey → Nat
  | .bool _ => 0
  | .int _ | .number _ => 1
  | .text _ => 2
  | .null => 3

protected def compare : RawKey → RawKey → Ordering
  | .bool a, .bool b => Ord.compare a b
  | .int a, .int b => Ord.compare a.toInt b.toInt
  | .number a, .number b => Ord.compare (rankOfBits a) (rankOfBits b)
  | .int a, .number b =>
    (Ord.compare (rankOfBits (ofInt a.toInt).toBits) (rankOfBits b)).then .lt
  | .number a, .int b =>
    (Ord.compare (rankOfBits a) (rankOfBits (ofInt b.toInt).toBits)).then .gt
  | .text a, .text b => Ord.compare a b
  | .null, .null => .eq
  | a, b => Ord.compare a.rank b.rank

/-- What a key writes to a hasher: its rank, and then its content. -/
def hashed (k : RawKey) : List Hashed :=
  .byte k.rank.toUInt8 ::
    match k with
    | .bool b => [.byte b.toUInt8]
    | .int n => [.integer n]
    | .number bits => [.word bits]
    | .text s => [.text s]
    | .null => []

/-- The place of a key among those of its rank. An integer stands at the nearest double, before the
number that is that double. -/
def nearest : RawKey → Int
  | .bool b => if b then 1 else 0
  | .int n => rankOfBits (ofInt n.toInt).toBits
  | .number bits => rankOfBits bits
  | _ => 0

def isNumber : RawKey → Bool
  | .number _ => true
  | _ => false

def integer : RawKey → Int
  | .int n => n.toInt
  | _ => 0

def letters : RawKey → String
  | .text s => s
  | _ => ""

def comparePlaces : RawKey → RawKey → Ordering :=
  compareLex (compareOn rank) <| compareLex (compareOn nearest) <|
    compareLex (compareOn isNumber) <| compareLex (compareOn integer) (compareOn letters)

private theorem nearest_le {a b : Int64} (h : a.toInt ≤ b.toInt) :
    nearest (.int a) ≤ nearest (.int b) :=
  orderRank_ofInt_le (natAbs_toInt_lt a) (natAbs_toInt_lt b) h

private theorem compare_nearest_then (a b : Int64) :
    (Ord.compare (nearest (.int a)) (nearest (.int b))).then (Ord.compare a.toInt b.toInt) =
      Ord.compare a.toInt b.toInt := by
  -- The doubles nearest to two integers never stand the other way round.
  rcases Int.lt_trichotomy a.toInt b.toInt with h | h | h
  · have hle := Int.compare_ne_gt.mpr (nearest_le (Int.le_of_lt h))
    rw [Int.compare_eq_lt.mpr h]
    cases hcompare : Ord.compare (nearest (.int a)) (nearest (.int b)) with
    | gt => exact absurd hcompare hle
    | _ => rfl
  · rw [Int64.toInt_inj.mp h, Int.compare_eq_eq.mpr rfl]
    rfl
  · have hge := Int.compare_ne_lt.mpr (nearest_le (Int.le_of_lt h))
    rw [Int.compare_eq_gt.mpr h]
    cases hcompare : Ord.compare (nearest (.int a)) (nearest (.int b)) with
    | lt => exact absurd hcompare hge
    | _ => rfl

theorem compare_eq_comparePlaces (a b : RawKey) : RawKey.compare a b = comparePlaces a b := by
  cases a <;> cases b
  case int.int a b =>
    have hplaces : comparePlaces (.int a) (.int b) =
        (Ord.compare (nearest (.int a)) (nearest (.int b))).then
          ((Ord.compare a.toInt b.toInt).then .eq) := rfl
    rw [hplaces, Ordering.then_eq, compare_nearest_then]
    rfl
  case bool.bool a b => cases a <;> cases b <;> rfl
  case number.number a b =>
    exact Ordering.then_eq.symm
  all_goals rfl

instance : Std.TransCmp RawKey.compare := by
  have h : RawKey.compare = comparePlaces := by
    funext a b
    exact compare_eq_comparePlaces a b
  rw [h, comparePlaces]
  infer_instance

instance : Std.LawfulEqCmp RawKey.compare where
  compare_self {a} := Std.ReflCmp.compare_self
  eq_of_compare {a b} h := by
    simp only [compare_eq_comparePlaces, comparePlaces, compareLex_eq_eq, compareOn,
      Std.LawfulEqCmp.compare_eq_iff_eq] at h
    obtain ⟨hrank, hnearest, hnumber, hinteger, hletters⟩ := h
    cases a <;> cases b
    case bool.bool a b => cases a <;> cases b <;> first | rfl | cases hnearest
    case int.int a b => rw [Int64.toInt_inj.mp hinteger]
    case number.number u v => rw [rankOfBits_injective hnearest]
    case text.text s t => exact congrArg text hletters
    case null.null => rfl
    all_goals first | (cases hrank; done) | cases hnumber

end RawKey
end RollCall
