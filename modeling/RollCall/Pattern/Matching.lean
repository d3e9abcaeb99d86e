import RollCall.Pattern.Basic
import Std.Data.HashMap

/-!
# Matching patterns

A pattern is matched by sets of positions: `reach` takes the positions at which a match may begin to
those at which it may end. A set of positions is a natural number whose bit `i` stands for position
`i`.

What a loop has once been entered with it need not be entered with again, because its ends have been
handed on before. A trail keeps the positions with which every loop of a pattern has been entered,
so every loop is entered at most once from each position in a whole search.
-/
namespace RollCall.Pattern

/-- A text as the positions before each of its characters. -/
structure Places where
  length : Nat
  /-- The positions before each character that the text has, by its code point. -/
  before : Std.HashMap Nat Nat

namespace Places

/-- The places of a text of which `length` characters have been noted. -/
def extend (t : Places) (c : Char) : Places :=
  ⟨t.length + 1, t.before.alter c.toNat fun mask => some (mask.getD 0 ||| 1 <<< t.length)⟩

def ofText (text : List Char) : Places :=
  text.foldl extend ⟨0, {}⟩

def ofChar (t : Places) (c : Char) : Nat :=
  t.before.getD c.toNat 0

def ofSet (t : Places) (s : CharSet) : Nat :=
  t.before.fold (fun mask n positions => if s.holds n then mask ||| positions else mask) 0

/-- All positions, the one at the end among them. -/
def all (t : Places) : Nat :=
  (1 <<< (t.length + 1)) - 1

def last (t : Places) : Nat :=
  1 <<< t.length

end Places

def after (positions : Nat) : Nat :=
  positions <<< 1

def without (positions others : Nat) : Nat :=
  positions ^^^ (positions &&& others)

/-- The positions at which a condition holds. -/
def anchorPositions (t : Places) : Anchor → Nat
  | .textStart => 1
  | .textEnd => t.last
  | .lineStart => 1 ||| after (t.ofChar '\n')
  | .lineEnd => t.last ||| t.ofChar '\n'
  | .returnLineStart =>
    1 ||| after (t.ofChar '\n') ||| without (after (t.ofChar '\r')) (t.ofChar '\n')
  | .returnLineEnd =>
    t.last ||| t.ofChar '\r' ||| without (t.ofChar '\n') (after (t.ofChar '\r'))
  | .wordStart u => let words := t.ofSet (Anchor.word u); without words (after words)
  | .wordEnd u => let words := t.ofSet (Anchor.word u); without (after words) words
  | .wordBoundary u => let words := t.ofSet (Anchor.word u); words ^^^ after words
  | .notBoundary u => let words := t.ofSet (Anchor.word u); without t.all (words ^^^ after words)
  | .wordStartHalf u => without t.all (after (t.ofSet (Anchor.word u)))
  | .wordEndHalf u => without t.all (t.ofSet (Anchor.word u))

/-- What an atom does to a set of positions of a certain text. -/
inductive Step
  /-- Go on by as many characters as there are sets: from the positions of the first set, then from
  those of the second, and so on. -/
  | advance (masks : List Nat)
  /-- Stay at the positions of a set. -/
  | stay (mask : Nat)

namespace Step

def ofAtom (t : Places) : Atom → Step
  | .literal cs => advance (cs.map t.ofChar)
  | .set s _ => advance [t.ofSet s]
  | .anchor a => stay (anchorPositions t a)

def apply (s : Step) (positions : Nat) : Nat :=
  match s with
  | advance masks => masks.foldl (fun positions mask => after (positions &&& mask)) positions
  | stay mask => positions &&& mask

end Step

/-- The positions with which the loops of a pattern have been entered: those of the pattern itself
and the trails of its parts, of which the last may be missing. -/
inductive Trail
  | mk (entered : Nat) (parts : List Trail)

namespace Trail

def fresh : Trail := mk 0 []

def entered : Trail → Nat
  | mk entered _ => entered

def parts : Trail → List Trail
  | mk _ parts => parts

end Trail

/-- A step from a set of positions to another, with the trail it leaves. -/
abbrev TrailStep := Trail → Nat → Nat × Trail

def firstTrail : List Trail → Trail × List Trail
  | [] => (.fresh, [])
  | t :: ts => (t, ts)

/-- `n` steps one after the other, each with a trail of its own. The trails left behind are put in
front of `done`, the latest first, and those not needed are returned after them. -/
def exactly (step : TrailStep) : Nat → List Trail → List Trail → Nat →
    Nat × List Trail × List Trail
  | 0, done, trails, positions => (positions, done, trails)
  | n + 1, done, trails, positions =>
    if positions = 0 then (0, done, trails)
    else
      let (t, trails) := firstTrail trails
      let (ends, t) := step t positions
      exactly step n (t :: done) trails ends

/-- At most `n` steps one after the other. What has been reached with fewer steps is not followed
again. -/
def atMost (step : TrailStep) : Nat → List Trail → List Trail → Nat → Nat →
    Nat × List Trail × List Trail
  | 0, done, trails, reached, _ => (reached, done, trails)
  | n + 1, done, trails, reached, positions =>
    if positions = 0 then (reached, done, trails)
    else
      let (t, trails) := firstTrail trails
      let (ends, t) := step t positions
      atMost step n (t :: done) trails (reached ||| ends) (without ends reached)

/-- One or more steps, until no position is left that has not been entered before. -/
def closure (step : TrailStep) : Nat → Nat → Trail → Nat → Nat → Nat × Nat × Trail
  | 0, entered, t, reached, _ => (reached, entered, t)
  | n + 1, entered, t, reached, positions =>
    let new := without positions entered
    if new = 0 then (reached, entered, t)
    else
      let (ends, t) := step t new
      closure step n (entered ||| new) t (reached ||| ends) ends

/-- The ends of a loop, given the step of its body. The first trail among the parts is the one of
the body that is repeated without bound, the others are those of its counted copies. -/
def loopEnds (step : TrailStep) (positionCount low : Nat) (high : Option Nat) (t : Trail)
    (positions : Nat) : Nat × Trail :=
  let (again, copies) := firstTrail t.parts
  match high with
  | some high =>
    let (ends, done, copies) := exactly step low [] copies positions
    let (ends, done, copies) := atMost step (high - low) done copies ends ends
    (ends, .mk 0 (again :: done.reverse ++ copies))
  | none =>
    let (starts, done, copies) := exactly step (low - 1) [] copies positions
    let (ends, entered, again) := closure step positionCount t.entered again 0 starts
    (if low = 0 then positions ||| ends else ends,
      .mk entered (again :: done.reverse ++ copies))

mutual

/-- The positions at which a match of the pattern may end that begins at one of the given ones,
except for ends handed on before, and the trail left behind. The text has as many positions as the
number says. -/
def reach (positionCount : Nat) : Pattern Step → TrailStep
  | .atom s, t, positions => (s.apply positions, t)
  | .seq ps, t, positions => reachSeq positionCount ps [] t.parts positions
  | .alt ps, t, positions => reachAlt positionCount ps [] t.parts positions 0
  | .loop p low high _, t, positions =>
    loopEnds (reach positionCount p) positionCount low high t positions
  | .group _ p, t, positions => reach positionCount p t positions

def reachSeq (positionCount : Nat) : List (Pattern Step) → List Trail → List Trail → Nat →
    Nat × Trail
  | [], done, _, positions => (positions, .mk 0 done.reverse)
  | p :: ps, done, trails, positions =>
    let (t, trails) := firstTrail trails
    let (ends, t) := reach positionCount p t positions
    reachSeq positionCount ps (t :: done) trails ends

def reachAlt (positionCount : Nat) : List (Pattern Step) → List Trail → List Trail → Nat → Nat →
    Nat × Trail
  | [], done, _, _, reached => (reached, .mk 0 done.reverse)
  | p :: ps, done, trails, positions, reached =>
    let (t, trails) := firstTrail trails
    let (ends, t) := reach positionCount p t positions
    reachAlt positionCount ps (t :: done) trails positions (reached ||| ends)

end

def occursIn (p : Pattern Atom) (s : String) : Bool :=
  let t := Places.ofText s.toList
  (reach (t.length + 1) (p.map (Step.ofAtom t)) .fresh t.all).1 != 0

end RollCall.Pattern
