/-!
# Sets of characters

A set of characters is kept as ranges of code points in rising order, no two of which meet or touch.
Surrogates are no characters, so a range may run over them and they count for nothing.
-/
namespace RollCall

structure CodeRange where
  first : Nat
  last : Nat
deriving DecidableEq

namespace CodeRange

def holds (r : CodeRange) (n : Nat) : Bool :=
  r.first ≤ n && n ≤ r.last

def meet? (r s : CodeRange) : Option CodeRange :=
  let first := max r.first s.first
  let last := min r.last s.last
  if first ≤ last then some ⟨first, last⟩ else none

def ordered (r : CodeRange) : CodeRange :=
  ⟨min r.first r.last, max r.first r.last⟩

end CodeRange

structure CharSet where
  ranges : List CodeRange
deriving DecidableEq

namespace CharSet

def greatest : Nat := 0x10FFFF

/-- The code point after `n`, surrogates left out. -/
def next (n : Nat) : Nat :=
  if n = 0xD7FF then 0xE000 else n + 1

theorem lt_next (n : Nat) : n < next n := by
  unfold next
  split <;> omega

/-- The code point before `n`, surrogates left out. -/
def previous (n : Nat) : Nat :=
  if n = 0xE000 then 0xD7FF else n - 1

/-- Rising ranges, those that meet or touch made one. -/
def joined : List CodeRange → List CodeRange
  | r :: s :: rest =>
    if s.first ≤ r.last + 1 then joined (⟨r.first, max r.last s.last⟩ :: rest)
    else r :: joined (s :: rest)
  | rs => rs
termination_by rs => rs.length

def ofRanges (rs : List CodeRange) : CharSet :=
  ⟨joined (rs.mergeSort fun r s =>
    r.first < s.first || (r.first == s.first && r.last ≤ s.last))⟩

def none : CharSet := ⟨[]⟩

def all : CharSet := ⟨[⟨0, greatest⟩]⟩

def ascii : CharSet := ⟨[⟨0, 0x7F⟩]⟩

def one (c : Char) : CharSet := ⟨[⟨c.toNat, c.toNat⟩]⟩

def range (a b : Char) : CharSet := ⟨[⟨a.toNat, b.toNat⟩]⟩

def ofList (cs : List Char) : CharSet :=
  ofRanges (cs.map fun c => ⟨c.toNat, c.toNat⟩)

def holds (s : CharSet) (n : Nat) : Bool :=
  s.ranges.any (·.holds n)

def contains (s : CharSet) (c : Char) : Bool :=
  s.holds c.toNat

def isEmpty (s : CharSet) : Bool :=
  s.ranges.isEmpty

def isAscii (s : CharSet) : Bool :=
  s.ranges.all (·.last < 0x80)

/-- The only character of the set, if it has just one. -/
def single? (s : CharSet) : Option Char :=
  match s.ranges with
  | [⟨first, last⟩] => if first = last then some (Char.ofNat first) else .none
  | _ => .none

def union (s t : CharSet) : CharSet :=
  ofRanges (s.ranges ++ t.ranges)

def unions (ss : List CharSet) : CharSet :=
  ofRanges (ss.flatMap ranges)

/-- The common parts of two rising lists of ranges. -/
def common : List CodeRange → List CodeRange → List CodeRange
  | r :: rs, s :: ss =>
    let rest := if r.last < s.last then common rs (s :: ss) else common (r :: rs) ss
    match r.meet? s with
    | some part => part :: rest
    | .none => rest
  | _, _ => []
termination_by rs ss => rs.length + ss.length

def inter (s t : CharSet) : CharSet :=
  ⟨common s.ranges t.ranges⟩

/-- What lies before, between and after rising ranges, from `start` on. Nothing lies between a range
that ends before the surrogates and one that begins after them; their gap has its ends in reverse
order. -/
def gaps (start : Nat) : List CodeRange → List CodeRange
  | [] => if start ≤ greatest then [⟨start, greatest⟩] else []
  | r :: rs => ⟨start, previous r.first⟩ :: gaps (next r.last) rs

def outside (s : CharSet) : List CodeRange :=
  match s.ranges with
  | ⟨0, last⟩ :: rs => gaps (next last) rs
  | rs => gaps 0 rs

/-- The complement. The two characters beside the surrogates belong to it also when the set has one
range that ends at the first of them and one that begins at the second. -/
def compl (s : CharSet) : CharSet :=
  ⟨s.outside.map CodeRange.ordered⟩

def diff (s t : CharSet) : CharSet :=
  ⟨common s.ranges (t.outside.filter fun r => r.first ≤ r.last)⟩

def symmDiff (s t : CharSet) : CharSet :=
  (s.union t).diff (s.inter t)

end CharSet
end RollCall
