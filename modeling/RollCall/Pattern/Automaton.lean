import RollCall.Pattern.Basic
import RollCall.Pattern.Utf8
import Std.Data.HashMap

/-!
# The size of automata

A pattern may be used if its automata over bytes are not too large: the one that reads a text from
its start, with states for the ends of groups, and the one that reads it from its end, without them.
This module counts what the states and transitions of these automata take, without building them.

The automaton of a set of characters shares states between sequences of bytes. Whether it finds a
state to share depends on a table with one place for each hash value, and so on the numbers of the
states. For this reason the count keeps track of these numbers.
-/
namespace RollCall.Pattern

inductive Direction
  | forward
  | backward
deriving DecidableEq

structure Extent where
  /-- The number of states, which is the number of the next one. -/
  states : Nat := 0
  /-- What the states take with their transitions, in bytes. -/
  bytes : Nat := 0

namespace Extent

def limit : Nat := 10 * 0x100000

def checked (e : Extent) : Option Extent :=
  if e.bytes ≤ limit then some e else none

/-- With a new state and some more bytes for its transitions. -/
def addState (e : Extent) (transitions : Nat) : Extent :=
  ⟨e.states + 1, e.bytes + 32 + transitions⟩

/-- With so many new states that have room for their transitions. -/
def addStates (e : Extent) (n : Nat) : Extent :=
  ⟨e.states + n, e.bytes + 32 * n⟩

/-- With a new state that has a transition for each of some byte ranges. -/
def addSparse (e : Extent) (transitions : Nat) : Extent :=
  e.addState (8 * transitions)

/-- With so many more choices at states that choose. -/
def addChoices (e : Extent) (n : Nat) : Extent :=
  { e with bytes := e.bytes + 4 * n }

end Extent

structure Transition where
  bytes : CodeRange
  target : Nat
deriving DecidableEq

def hashOf (ns : List Nat) : UInt64 :=
  ns.foldl (fun h n => (h ^^^ n.toUInt64) * 1099511628211) 14695981039346656037

/-- States by what they stand for; of those with equal hashes the latest is kept. -/
structure Shared (κ : Type) where
  places : Nat
  found : Std.HashMap Nat (κ × Nat) := {}

namespace Shared

variable {κ : Type} [DecidableEq κ]

def place (s : Shared κ) (hash : UInt64) : Nat :=
  hash.toNat % s.places

def find? (s : Shared κ) (hash : UInt64) (key : κ) : Option Nat :=
  match s.found[s.place hash]? with
  | some (k, state) => if k = key then some state else none
  | none => none

def insert (s : Shared κ) (hash : UInt64) (key : κ) (state : Nat) : Shared κ :=
  { s with found := s.found.insert (s.place hash) (key, state) }

end Shared

/-- What has been built of the automaton of a set that reads forward. -/
structure SetExtent where
  extent : Extent
  shared : Shared (List Transition)

namespace SetExtent

/-- The state with some transitions, a new one unless there is one to share. -/
def state (e : SetExtent) (ts : List Transition) : Nat × SetExtent :=
  let hash := hashOf (ts.flatMap fun t => [t.bytes.first, t.bytes.last, t.target])
  match e.shared.find? hash ts with
  | some state => (state, e)
  | none =>
    let new := e.extent.states
    (new, ⟨e.extent.addSparse ts.length, e.shared.insert hash ts new⟩)

end SetExtent

/-- A state that may still get transitions: those it has, the latest first, and the byte range of
the next one, whose target is not known yet. -/
structure OpenState where
  finished : List Transition := []
  bytes : Option CodeRange := none

namespace OpenState

/-- The transitions when the target of the last one is known. -/
def transitions (s : OpenState) (target : Nat) : List Transition :=
  match s.bytes with
  | some r => ⟨r, target⟩ :: s.finished
  | none => s.finished

end OpenState

/-- The state that a path of open states, the outermost first, starts from when it is closed. The
path ends in the state `last`. -/
def closePath (last : Nat) : List OpenState → SetExtent → Nat × SetExtent
  | [], e => (last, e)
  | s :: inner, e =>
    let (target, e) := closePath last inner e
    e.state (s.transitions target).reverse

/-- Open a path for a sequence of byte ranges: what it has in common with the present path stays
open, and the rest of that path is closed. -/
def openPath (last : Nat) : List OpenState → List CodeRange → SetExtent →
    List OpenState × SetExtent
  | s :: inner, r :: rs, e =>
    if s.bytes = some r then
      let (path, e) := openPath last inner rs e
      (s :: path, e)
    else
      let (target, e) := closePath last inner e
      (⟨s.transitions target, some r⟩ :: rs.map fun r => ⟨[], some r⟩, e)
  | path, _, e => (path, e)

def setSequences (s : CharSet) : List (List CodeRange) :=
  s.ranges.flatMap fun r => CodeRange.byteSequences r.first r.last

/-- With the states that read a character of a set forward. -/
def addSetForward (s : CharSet) (e : Extent) : Extent :=
  let last := e.states
  let start : List OpenState × SetExtent := ([{}], ⟨e.addStates 1, { places := 10000 }⟩)
  let (path, built) := (setSequences s).foldl (fun (path, built) rs => openPath last path rs built)
    start
  (closePath last path built).2.extent

/-- What has been built of the automaton of a set that reads backward. -/
structure SuffixExtent where
  extent : Extent
  shared : Shared (Nat × CodeRange)

/-- The state from which the bytes of a sequence lead to `last`, read from the last byte to the
first. -/
def addSuffix (last : Nat) (e : SuffixExtent) : List CodeRange → SuffixExtent
  | [] => { e with extent := e.extent.addChoices 1 }
  | r :: rs =>
    let hash := hashOf [last, r.first, r.last]
    match e.shared.find? hash (last, r) with
    | some state => addSuffix state e rs
    | none =>
      let new := e.extent.states
      addSuffix new ⟨e.extent.addStates 1, e.shared.insert hash (last, r) new⟩ rs

/-- With the states that read a character of a set backward. -/
def addSetBackward (s : CharSet) (e : Extent) : Extent :=
  let last := e.states + 1
  ((setSequences s).foldl (addSuffix last) ⟨e.addStates 2, { places := 1000 }⟩).extent

def addSet (d : Direction) (s : CharSet) (e : Extent) : Extent :=
  if s.isAscii then (e.addStates 1).addSparse s.ranges.length
  else
    match d with
    | .forward => addSetForward s e
    | .backward => addSetBackward s e

def literalBytes (d : Direction) (cs : List Char) : List Nat :=
  let bytes := cs.flatMap fun c => CodeRange.encode c.toNat
  match d with
  | .forward => bytes
  | .backward => bytes.reverse

/-- A tree of literals. Its branches come in layers: each literal that ends at the tree ends the
present layer, the latest layer being the first. -/
inductive LiteralTree
  | node (layers : List (List (Nat × LiteralTree)))

namespace LiteralTree

def ofLiteral : List Nat → LiteralTree
  | [] => node [[], []]
  | b :: bs => node [[(b, ofLiteral bs)]]

mutual

/-- With one more literal. A leaf does not take note of a literal twice. -/
def insert : LiteralTree → List Nat → LiteralTree
  | node layers, [] =>
    match layers with
    | [] => node [[], []]
    | layer :: ended =>
      if layer.isEmpty && ended.all List.isEmpty && !ended.isEmpty then node layers
      else node ([] :: layer :: ended)
  | node [], bs => ofLiteral bs
  | node (layer :: ended), b :: bs => node (insertBranch layer b bs :: ended)

/-- With one more literal on the branch of its first byte. -/
def insertBranch : List (Nat × LiteralTree) → Nat → List Nat → List (Nat × LiteralTree)
  | [], b, bs => [(b, ofLiteral bs)]
  | (c, t) :: branches, b, bs =>
    if c = b then (c, t.insert bs) :: branches
    else (c, t) :: insertBranch branches b bs

end

mutual

/-- With the states of the tree; a leaf needs none. -/
def addTo : LiteralTree → Extent → Extent
  | node layers, e =>
    if layers.all List.isEmpty then e
    else
      (addLayers layers e).addStates 1 |>.addChoices
        ((layers.filter fun layer => !layer.isEmpty).length + (layers.length - 1))

def addLayers : List (List (Nat × LiteralTree)) → Extent → Extent
  | [], e => e
  | layer :: layers, e =>
    let e := addBranches layer (addLayers layers e)
    match layer.length with
    | 0 => e
    | 1 => e.addStates 1
    | n => e.addSparse n

def addBranches : List (Nat × LiteralTree) → Extent → Extent
  | [], e => e
  | (_, t) :: branches, e => addBranches branches (t.addTo e)

end

end LiteralTree

def literal? : Pattern Atom → Option (List Char)
  | .atom (.literal cs) => some cs
  | _ => none

/-- With the states of a choice between literals. -/
def addLiterals (d : Direction) (literals : List (List Char)) (e : Extent) : Extent :=
  (literals.foldl (fun t cs => t.insert (literalBytes d cs)) (LiteralTree.node [[]])).addTo
    (e.addStates 1)

/-- An automaton under construction: its extent, and whether it ends in a state that chooses. To
lead on from such a state takes a choice. -/
structure Built where
  extent : Extent
  endsInChoice : Bool := false

namespace Built

/-- The extent when the end leads on to another state. -/
def joined (b : Built) : Extent :=
  if b.endsInChoice then b.extent.addChoices 1 else b.extent

end Built

/-- What follows after an extent, unless it exceeds the limit. -/
abbrev Building := Extent → Option Built

def copies (body : Building) : Nat → Built → Option Built
  | 0, b => some b
  | n + 1, b => do
    let next ← body b.joined
    let _ ← next.extent.checked
    copies body n next

def addExactly (body : Building) (n : Nat) (e : Extent) : Option Built :=
  match n with
  | 0 => some ⟨e.addStates 1, false⟩
  | n + 1 => do copies body n (← body e)

/-- A body up to so many times, each time after a state that chooses. -/
def addAtMost (body : Building) : Nat → Built → Option Built
  | 0, b => some ⟨b.joined, false⟩
  | n + 1, b => do
    let next ← body ((b.joined.addStates 1).addChoices 2)
    let _ ← next.extent.checked
    addAtMost body n next

/-- A body at least so many times. A body that takes a character each time goes back to the state
that chooses before it. -/
def addAtLeast (body : Building) (takesSome : Bool) (n : Nat) (e : Extent) : Option Built :=
  match n with
  | 0 => do
    if takesSome then
      let b ← body (e.addStates 1 |>.addChoices 1)
      return ⟨b.joined, true⟩
    else
      let b ← body e
      return ⟨b.joined.addStates 3 |>.addChoices 4, false⟩
  | 1 => do
    let b ← body e
    return ⟨b.joined.addStates 1 |>.addChoices 1, true⟩
  | n => do
    let before ← addExactly body (n - 1) e
    let b ← body before.joined
    return ⟨b.joined.addStates 1 |>.addChoices 1, true⟩

def addLoop (body : Building) (takesSome : Bool) (low : Nat) (high : Option Nat) (e : Extent) :
    Option Built :=
  match low, high with
  | 0, some 1 => do
    let b ← body (e.addStates 1 |>.addChoices 2)
    return ⟨b.joined.addStates 1, false⟩
  | low, none => addAtLeast body takesSome low e
  | low, some high => do
    let b ← addExactly body low e
    if low = high then return b
    else addAtMost body (high - low) ⟨b.extent.addStates 1, b.endsInChoice⟩

def addAtom (d : Direction) : Atom → Extent → Extent
  | .literal cs, e => e.addStates (literalBytes d cs).length
  | .set s _, e => addSet d s e
  | .anchor _, e => e.addStates 1

mutual

def build (d : Direction) : Pattern Atom → Building
  | .atom a, e => do return ⟨← (addAtom d a e).checked, false⟩
  | .seq [], e => some ⟨e.addStates 1, false⟩
  | .seq (p :: ps), e => do buildSeq d ps (← build d p e)
  | .alt ps, e => do
    match ps.mapM literal? with
    | some literals => return ⟨← (addLiterals d literals e).checked, false⟩
    | none =>
      let e ← buildAlt d 2 ps e
      return ⟨e.addChoices ps.length, false⟩
  | .loop p low high _, e =>
    addLoop (build d p) (p.minLength.any (0 < ·)) low high e
  | .group _ p, e =>
    match d with
    | .forward => do
      let b ← build d p (e.addStates 1)
      return ⟨b.joined.addStates 1, false⟩
    | .backward => build d p e

/-- With the states of the further parts of a sequence. -/
def buildSeq (d : Direction) : List (Pattern Atom) → Built → Option Built
  | [], b => some b
  | p :: ps, b => do
    let next ← build d p b.joined
    let _ ← next.extent.checked
    buildSeq d ps next

/-- With the states of some choices, each of which leads on to their end. The states that choose and
end come after so many choices. -/
def buildAlt (d : Direction) : Nat → List (Pattern Atom) → Extent → Option Extent
  | _, [], e => some e
  | n, p :: ps, e => do
    let b ← build d p e
    let e ← b.joined.checked
    buildAlt d (n - 1) ps (if n = 1 then e.addStates 2 else e)

end

mutual

/-- Whether a condition holds where any match begins, as far as the form of the pattern shows. -/
def opensWith (a : Anchor) : Pattern Atom → Bool
  | .atom b => b = .anchor a
  | .seq ps => opensSeqWith a ps
  | .alt ps => allOpenWith a ps
  | .loop p low _ _ => 0 < low && opensWith a p
  | .group _ p => opensWith a p

def opensSeqWith (a : Anchor) : List (Pattern Atom) → Bool
  | [] => false
  | p :: ps => opensWith a p || (p.maxLength = some 0 && opensSeqWith a ps)

def allOpenWith (a : Anchor) : List (Pattern Atom) → Bool
  | [] => true
  | p :: ps => opensWith a p && allOpenWith a ps

end

/-- The extent of the states before the pattern: any bytes may come before a match that need not
begin where the reading does. -/
def prologue (anchored : Bool) : Extent :=
  if anchored then Extent.addStates {} 1
  else ((Extent.addStates {} 2).addSparse 1).addChoices 2

/-- The extent of the automaton of a pattern, if it is within the limit. -/
def extent? (d : Direction) (p : Pattern Atom) : Option Extent := do
  let (p, anchored) :=
    match d with
    | .forward => (group 0 p, opensWith .textStart p)
    | .backward => (p.reversed, opensWith .textEnd p.reversed)
  let b ← build d p (prologue anchored)
  (b.joined.addStates 1).checked

/-- Whether both automata of a pattern are within the limit. -/
def isBuildable (p : Pattern Atom) : Bool :=
  (extent? .forward p).isSome && (extent? .backward p).isSome

end RollCall.Pattern
