import RollCall.Pattern.Escape

/-!
# Reading bracketed sets

A set in brackets is a run of characters, ranges, escapes and further sets. Two runs may be joined
by an operator: `&&` for the intersection, `--` for the difference and `~~` for the symmetric
difference, taken from left to right.
-/
namespace RollCall.Pattern

inductive SetOperator
  | inter
  | diff
  | symmDiff
deriving DecidableEq

def SetOperator.apply : SetOperator → CharSet → CharSet → CharSet
  | inter => CharSet.inter
  | diff => CharSet.diff
  | symmDiff => CharSet.symmDiff

/-- A set with the depth to which its brackets and operators are nested. -/
structure NestedSet where
  set : CharSet
  depth : Nat

structure OpenSet where
  negated : Bool
  /-- The set before an operator. -/
  left : Option (NestedSet × SetOperator) := none
  /-- The items that have been read after it, the latest first. -/
  items : List NestedSet := []

namespace OpenSet

def add (s : OpenSet) (t : NestedSet) : OpenSet :=
  { s with items := t :: s.items }

/-- The items as one set; several items are one level deeper than each of them. -/
def run (s : OpenSet) : NestedSet :=
  match s.items with
  | [t] => t
  | [] => ⟨CharSet.none, 0⟩
  | ts => ⟨CharSet.unions (ts.map NestedSet.set), (ts.map NestedSet.depth).foldl max 0 + 1⟩

/-- What has been read so far; the operands of an operator are closed under case. -/
def value (f : Flags) (s : OpenSet) : NestedSet :=
  let right := s.run
  match s.left with
  | none => right
  | some (left, op) =>
    ⟨op.apply (f.closed left.set) (f.closed right.set), max left.depth right.depth + 1⟩

def operator (f : Flags) (op : SetOperator) (s : OpenSet) : OpenSet :=
  { s with left := some (s.value f, op), items := [] }

end OpenSet

/-- The number of hyphens in front, which stand for themselves, as far as so many steps lead. -/
def leadingHyphens (f : Flags) : Nat → Nat → List Char → Nat × List Char
  | 0, found, cs => (found, cs)
  | n + 1, found, cs =>
    match f.skip cs with
    | '-' :: cs => leadingHyphens f n (found + 1) cs
    | cs => (found, cs)

/-- The beginning of a set after its bracket. A closing bracket in front stands for itself. -/
def openSet? (f : Flags) (n : Nat) (cs : List Char) : Option (OpenSet × List Char) :=
  let (negated, cs) :=
    match f.skip cs with
    | '^' :: cs => (true, cs)
    | cs => (false, cs)
  match leadingHyphens f n 0 cs with
  | (0, ']' :: cs) => some ({ negated, items := [⟨CharSet.one ']', 0⟩] }, cs)
  | (n, cs) => some ({ negated, items := List.replicate n ⟨CharSet.one '-', 0⟩ }, cs)

/-- A set of ASCII characters in brackets and colons, after the first bracket. -/
def asciiSet? (f : Flags) : List Char → Option (Option CharSet × List Char)
  | ':' :: cs =>
    let (negated, cs) :=
      match cs with
      | '^' :: cs => (true, cs)
      | cs => (false, cs)
    match cs.dropWhile (· != ':') with
    | ':' :: ']' :: rest =>
      (CharSet.asciiNamed? (String.ofList (cs.takeWhile (· != ':')))).map fun s =>
        (f.turned? negated s, rest)
    | _ => none
  | _ => none

/-- An item of a set: a character, or a set of its own. -/
def setItem? (f : Flags) : List Char → Option (Escape × List Char)
  | [] => none
  | '\\' :: cs => escape? f cs
  | c :: cs => some (.literal c, cs)

/-- The next character that counts after a hyphen. Of a comment only its mark is passed over. -/
def afterHyphen? (f : Flags) (cs : List Char) : Option Char :=
  if !f.spaced then cs.head?
  else
    match cs.dropWhile Text.isBlank with
    | '#' :: cs => (cs.dropWhile Text.isBlank).head?
    | cs => cs.head?

/-- Whether the characters after a hyphen make it the hyphen of a range. -/
def endsRange (f : Flags) (cs : List Char) : Bool :=
  afterHyphen? f cs != some ']' && afterHyphen? f cs != some '-'

def member? (f : Flags) (c : Char) : Option Char :=
  if f.unicode || c.toNat < 128 then some c else none

def setRange? (f : Flags) (cs : List Char) : Option (CharSet × List Char) := do
  let (first, cs) ← setItem? f cs
  match f.skip cs with
  | [] => none
  | c :: rest =>
    if c = '-' && endsRange f rest then
      let (last, cs) ← setItem? f (f.skip rest)
      match first, last with
      | .literal a, .literal b =>
        let a ← member? f a
        let b ← member? f b
        if a ≤ b then return (CharSet.range a b, cs) else none
      | _, _ => none
    else
      match first with
      | .literal a => return (CharSet.one (← member? f a), c :: rest)
      | .set s => return (s, c :: rest)
      | .anchor _ => none

/-- Read on in the innermost open set `s` within the sets `outer`; every step reads something. -/
def readSet (f : Flags) :
    Nat → OpenSet → List OpenSet → List Char → Option (NestedSet × List Char)
  | 0, _, _, _ => none
  | n + 1, s, outer, cs =>
    match f.skip cs with
    | [] => none
    | '[' :: cs =>
      match asciiSet? f cs with
      | some (none, _) => none
      | some (some t, cs) => readSet f n (s.add ⟨t, 0⟩) outer cs
      | none => do
        let (t, cs) ← openSet? f n cs
        readSet f n t (s :: outer) cs
    | ']' :: cs => do
      let inner := s.value f
      let closed : NestedSet := ⟨← f.turned? s.negated inner.set, inner.depth + 1⟩
      match outer with
      | [] => return (closed, cs)
      | t :: outer => readSet f n (t.add closed) outer cs
    | '&' :: '&' :: cs => readSet f n (s.operator f .inter) outer cs
    | '-' :: '-' :: cs => readSet f n (s.operator f .diff) outer cs
    | '~' :: '~' :: cs => readSet f n (s.operator f .symmDiff) outer cs
    | cs => do
      let (t, cs) ← setRange? f cs
      readSet f n (s.add ⟨t, 0⟩) outer cs

/-- A set after its opening bracket, read in at most so many steps. As many as there are characters
are enough. -/
def bracketed? (f : Flags) (n : Nat) (cs : List Char) : Option (NestedSet × List Char) := do
  let (s, cs) ← openSet? f n cs
  readSet f n s [] cs

end RollCall.Pattern
