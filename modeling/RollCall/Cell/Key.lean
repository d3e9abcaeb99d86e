import RollCall.Binary64

/-!
# Grouping keys

A key is what a cell is grouped, joined and ordered by. Integers stay exact, so that large ids never
fall together; a number is a key of its own only where it is no 64-bit integer. Booleans come first,
then numbers, then texts, and the key of a missing cell last.
-/
namespace RollCall

/-- What a cell is grouped and joined by. -/
inductive Key
  | bool (b : Bool)
  | int (n : Int64)
  /-- A number that is no 64-bit integer. -/
  | number (x : Float)
  | text (s : String)
  | null
deriving DecidableEq

namespace Key

def rank : Key → Nat
  | .bool _ => 0
  | .int _ | .number _ => 1
  | .text _ => 2
  | .null => 3

/-- The order of keys. An integer and a number that round to one double are never equal: the integer
comes first. -/
protected def compare : Key → Key → Ordering
  | .bool a, .bool b => Ord.compare a b
  | .int a, .int b => Ord.compare a.toInt b.toInt
  | .number a, .number b => Binary64.totalCompare a b
  | .int a, .number b => (Binary64.totalCompare (Binary64.ofInt a.toInt) b).then .lt
  | .number a, .int b => (Binary64.totalCompare a (Binary64.ofInt b.toInt)).then .gt
  | .text a, .text b => Ord.compare a b
  | .null, .null => .eq
  | a, b => Ord.compare a.rank b.rank

instance : Ord Key := ⟨Key.compare⟩

def le (a b : Key) : Bool :=
  (Key.compare a b).isLE

/-- The order of two lists of keys, by the first place in which they differ; a shorter list comes
before its extensions. -/
def compareList : List Key → List Key → Ordering
  | [], [] => .eq
  | [], _ :: _ => .lt
  | _ :: _, [] => .gt
  | a :: as, b :: bs => (Key.compare a b).then (compareList as bs)

end Key
end RollCall
