import RollCall.Binary64

/-!
# JSON values

A JSON value with the order of the keys of its objects. A number is an integer between `-2^63` and
`2^64`, or a finite double; the distinction is made when a literal is read and kept from there on.
-/
namespace RollCall

inductive Json
  | null
  | bool (b : Bool)
  | int (n : Int)
  | float (x : Float)
  | str (s : String)
  | arr (items : List Json)
  | obj (fields : List (String × Json))

namespace Json

instance : Inhabited Json := ⟨.null⟩

/-- The integers a JSON number can hold exactly. -/
def isIntegral (n : Int) : Bool :=
  decide (-0x8000000000000000 ≤ n ∧ n < 0x10000000000000000)

/-- The value of a key in a list of fields, the first one if a key is repeated. -/
def lookup (key : String) : List (String × Json) → Option Json
  | [] => none
  | (k, v) :: fields => if k = key then some v else lookup key fields

/-- A list of fields with the value of a key replaced in place, or added at the end. -/
def insert (key : String) (value : Json) : List (String × Json) → List (String × Json)
  | [] => [(key, value)]
  | (k, v) :: fields =>
    if k = key then (k, value) :: fields else (k, v) :: insert key value fields

/-- The field of an object; nothing for other values. -/
def get? (key : String) : Json → Option Json
  | .obj fields => lookup key fields
  | _ => none

def isArray : Json → Bool
  | .arr _ => true
  | _ => false

def isNumber : Json → Bool
  | .int _ | .float _ => true
  | _ => false

def toItems? : Json → Option (List Json)
  | .arr items => some items
  | _ => none

def toStr? : Json → Option String
  | .str s => some s
  | _ => none

/-- A natural number below `2^64`. -/
def toNat? : Json → Option Nat
  | .int n => if 0 ≤ n then some n.toNat else none
  | _ => none

/-- A number that is finite as a JSON number, else `null`. -/
def ofFloat (x : Float) : Json :=
  if Binary64.isFinite x then .float x else .null

def ofNat (n : Nat) : Json :=
  .int n

theorem sizeOf_lookup_lt {key : String} {fields : List (String × Json)} {v : Json}
    (h : lookup key fields = some v) : sizeOf v < sizeOf fields := by
  induction fields with
  | nil => simp [lookup] at h
  | cons field fields ih =>
    obtain ⟨k, w⟩ := field
    simp only [lookup] at h
    split at h
    · cases h
      simp
      omega
    · have := ih h
      simp
      omega

theorem lookup_insert_self (key : String) (v : Json) (fields : List (String × Json)) :
    lookup key (insert key v fields) = some v := by
  induction fields with
  | nil => simp [insert, lookup]
  | cons field fields ih =>
    obtain ⟨k, w⟩ := field
    by_cases h : k = key <;> simp [insert, lookup, h, ih]

theorem lookup_insert_of_ne {key other : String} (v : Json) (fields : List (String × Json))
    (h : other ≠ key) : lookup other (insert key v fields) = lookup other fields := by
  induction fields with
  | nil => simp [insert, lookup, Ne.symm h]
  | cons field fields ih =>
    obtain ⟨k, w⟩ := field
    by_cases hk : k = key
    · subst hk
      simp [insert, lookup, Ne.symm h]
    · simp [insert, lookup, hk, ih]

end Json
end RollCall
