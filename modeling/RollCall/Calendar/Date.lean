import RollCall.Decimal.Layout

/-!
# Dates

A date of the proleptic Gregorian calendar, its written form, and the periods it lies in. Every date
is valid by construction, and so is the first day of its month, quarter and year.
-/
namespace RollCall

namespace Calendar

def isLeap (year : Int) : Bool :=
  year % 4 == 0 && (year % 100 != 0 || year % 400 == 0)

def daysIn (year : Int) (month : Nat) : Nat :=
  if month = 2 then if isLeap year then 29 else 28
  else if month = 4 ∨ month = 6 ∨ month = 9 ∨ month = 11 then 30
  else 31

/-- The years that dates may lie in. -/
def hasYear (year : Int) : Prop := -262143 ≤ year ∧ year ≤ 262142

instance (year : Int) : Decidable (hasYear year) := inferInstanceAs (Decidable (_ ∧ _))

end Calendar

open Calendar

structure Date where
  year : Int
  month : Nat
  day : Nat
  year_mem : hasYear year
  month_mem : 1 ≤ month ∧ month ≤ 12
  day_mem : 1 ≤ day ∧ day ≤ daysIn year month
deriving DecidableEq

inductive Frequency
  | month
  | quarter
  | year
deriving DecidableEq

namespace Frequency

def named : List (String × Frequency) :=
  [("M", month), ("m", month), ("month", month), ("Q", quarter), ("q", quarter),
   ("quarter", quarter), ("A", year), ("Y", year), ("y", year), ("year", year)]

/-- The first month of the period that a month lies in. -/
def firstMonth : Frequency → Nat → Nat
  | month, m => m
  | quarter, m => (m - 1) / 3 * 3 + 1
  | year, _ => 1

theorem firstMonth_mem (f : Frequency) {m : Nat} (h : 1 ≤ m ∧ m ≤ 12) :
    1 ≤ f.firstMonth m ∧ f.firstMonth m ≤ 12 := by
  cases f <;> simp only [firstMonth] <;> omega

end Frequency

namespace Date

/-- The date with the given parts, if there is one. -/
def of? (year : Int) (month day : Nat) : Option Date :=
  if hy : hasYear year then
    if hm : 1 ≤ month ∧ month ≤ 12 then
      if hd : 1 ≤ day ∧ day ≤ daysIn year month then some ⟨year, month, day, hy, hm, hd⟩
      else none
    else none
  else none

theorem one_le_daysIn (year : Int) (month : Nat) : 1 ≤ daysIn year month := by
  unfold daysIn
  split
  · split <;> omega
  · split <;> omega

def startOf (d : Date) (f : Frequency) : Date where
  year := d.year
  month := f.firstMonth d.month
  day := 1
  year_mem := d.year_mem
  month_mem := f.firstMonth_mem d.month_mem
  day_mem := ⟨Nat.le_refl 1, one_le_daysIn _ _⟩

/-- The decimal digits of a number, with zeros in front up to a width. -/
def padded (width n : Nat) : List Char :=
  let ds := Decimal.digitChars n
  Decimal.zeros (width - ds.length) ++ ds

/-- A year in four digits; one outside of `0` to `9999` has a sign. -/
def yearText (year : Int) : List Char :=
  if 0 ≤ year ∧ year ≤ 9999 then padded 4 year.toNat
  else (if year < 0 then '-' else '+') :: padded 4 year.natAbs

def text (d : Date) : String :=
  String.ofList (yearText d.year ++ '-' :: padded 2 d.month ++ '-' :: padded 2 d.day)

end Date
end RollCall
