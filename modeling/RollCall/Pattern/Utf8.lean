import RollCall.CharSet.Basic

/-!
# Byte sequences of characters

The characters of a range as sequences of byte ranges: a character is in the range exactly if its
bytes lie in the ranges of one of the sequences.
-/
namespace RollCall.CodeRange

/-- The greatest code points that take one, two and three bytes. -/
def lengthBounds : List Nat := [0x7F, 0x7FF, 0xFFFF]

/-- The last code point before the bytes of a range have to be cut, given the number of low bits in
which its ends may differ freely. -/
def cutAt? (first last bits : Nat) : Option Nat :=
  let block := 1 <<< bits
  if first / block = last / block then none
  else if first % block ≠ 0 then some (first / block * block + (block - 1))
  else if last % block ≠ block - 1 then some (last / block * block - 1)
  else none

/-- The last code point of the first part of a range that is not a single sequence: parts do not
cross the surrogates or a change of length, and all their low bytes are free or none is. -/
def cut? (first last : Nat) : Option Nat :=
  if first < 0xE000 && 0xD7FF < last then some 0xD7FF
  else
    match lengthBounds.find? fun bound => first ≤ bound && bound < last with
    | some bound => some bound
    | none => if last ≤ 0x7F then none else [6, 12, 18].findSome? (cutAt? first last)

def encode (n : Nat) : List Nat :=
  if n ≤ 0x7F then [n]
  else if n ≤ 0x7FF then [0xC0 + n / 0x40, 0x80 + n % 0x40]
  else if n ≤ 0xFFFF then [0xE0 + n / 0x1000, 0x80 + n / 0x40 % 0x40, 0x80 + n % 0x40]
  else [0xF0 + n / 0x40000, 0x80 + n / 0x1000 % 0x40, 0x80 + n / 0x40 % 0x40, 0x80 + n % 0x40]

/-- The byte sequences of the characters from `first` to `last`, in rising order. -/
def byteSequences (first last : Nat) : List (List CodeRange) :=
  match cut? first last with
  | none => [(encode first).zipWith CodeRange.mk (encode last)]
  | some middle =>
    if _h : first ≤ middle ∧ CharSet.next middle ≤ last then
      byteSequences first middle ++ byteSequences (CharSet.next middle) last
    else
      []
termination_by last - first
decreasing_by
  all_goals
    have := CharSet.lt_next middle
    omega

end RollCall.CodeRange
