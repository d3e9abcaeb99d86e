import RollCall.Decimal.Reading
import RollCall.Pattern.Automaton
import RollCall.Pattern.Class
import RollCall.Unicode.Edition

/-!
# Reading patterns

A pattern is read from left to right with the groups that are still open on a stack. Every step
reads at least one character, so as many steps as there are characters are enough. A text that is no
pattern gives nothing.
-/
namespace RollCall.Pattern

/-- A part of a pattern as it was written. -/
structure Piece where
  pattern : Pattern Atom
  /-- How deep groups, repetitions, sequences and choices are nested in it. -/
  depth : Nat := 0
  /-- Whether it may be repeated; a change of flags may not. -/
  repeatable : Bool := true

namespace Piece

/-- The least depth that some pieces together have. -/
def depthOf (ps : List Piece) : Nat :=
  (ps.map depth).foldl max 0 + 1

def sequence : List Piece → Piece
  | [] => { pattern := .empty }
  | [p] => p
  | ps => { pattern := Pattern.sequence (ps.map pattern), depth := depthOf ps }

/-- A choice, unless there is just one piece. -/
def choice : List Piece → Piece
  | [p] => p
  | ps => { pattern := Pattern.choice (ps.map pattern), depth := depthOf ps }

end Piece

/-- A sequence that is being read, with the choices before it; both have the latest part first. -/
structure Choices where
  finished : List Piece := []
  pieces : List Piece := []

namespace Choices

def add (cs : Choices) (p : Piece) : Choices :=
  { cs with pieces := p :: cs.pieces }

def sequence (cs : Choices) : Piece :=
  .sequence cs.pieces.reverse

def next (cs : Choices) : Choices :=
  ⟨cs.sequence :: cs.finished, []⟩

def toPiece (cs : Choices) : Piece :=
  .choice (cs.sequence :: cs.finished).reverse

def repeat? (cs : Choices) (low : Nat) (high : Option Nat) (greedy : Bool) : Option Choices :=
  match cs.pieces with
  | p :: pieces =>
    if p.repeatable then
      let loop : Piece := { pattern := repeated p.pattern low high greedy, depth := p.depth + 1 }
      some { cs with pieces := loop :: pieces }
    else none
  | [] => none

end Choices

/-- A group that is still open: what was read before it under which flags, and its number if its
match is kept. -/
structure OpenGroup where
  flags : Flags
  before : Choices
  index : Option Nat

structure Reader where
  flags : Flags := {}
  /-- The names of the groups so far. -/
  names : List (List Char) := []
  /-- The number of groups so far whose match is kept. -/
  groups : Nat := 0
  /-- The open groups, the innermost first. -/
  outer : List OpenGroup := []
  current : Choices := {}

/-- The characters of a run of digits that may hold blanks if the flags say so, as far as so many
steps lead. -/
def spacedDigits (f : Flags) : Nat → List Char → List Char × List Char
  | 0, cs => ([], cs)
  | n + 1, cs =>
    match cs with
    | c :: rest =>
      if c.isDigit then
        let (digits, rest) := spacedDigits f n (f.skip rest)
        (c :: digits, rest)
      else ([], cs)
    | [] => ([], [])

/-- A count below `2^32`, if there are digits. Blanks around it are passed over. -/
def count? (f : Flags) (n : Nat) (cs : List Char) : Option (Option Nat × List Char) :=
  let (digits, rest) := spacedDigits f n (cs.dropWhile Text.isBlank)
  let rest := f.skip (rest.dropWhile Text.isBlank)
  if digits.isEmpty then some (none, rest)
  else
    let count := Decimal.natOfDigits digits
    if count < 0x100000000 then some (some count, rest) else none

/-- Whether a repetition prefers long matches. A question mark after it turns the preference. -/
def greedy (f : Flags) (cs : List Char) : Bool × List Char :=
  match cs with
  | '?' :: cs => (f.prefersShort, cs)
  | cs => (!f.prefersShort, cs)

/-- The bounds of a repetition after its opening brace, read in at most so many steps each, with the
characters after its closing one. -/
def bounds? (f : Flags) (n : Nat) (cs : List Char) :
    Option ((Nat × Option Nat) × List Char) := do
  match f.skip cs with
  | [] => none
  | cs =>
    let (low, cs) ← count? f n cs
    let low ← low
    match cs with
    | '\x7d' :: cs => return ((low, some low), f.skip cs)
    | ',' :: cs =>
      match f.skip cs with
      | '\x7d' :: cs => return ((low, none), f.skip cs)
      | [] => none
      | cs =>
        let (high, cs) ← count? f n cs
        let high ← high
        match cs with
        | '\x7d' :: cs =>
          if low ≤ high then return ((low, some high), f.skip cs) else none
        | _ => none
    | _ => none

def setFlag? (f : Flags) (value : Bool) : Char → Option Flags
  | 'i' => some { f with foldsCase := value }
  | 'm' => some { f with multiLine := value }
  | 's' => some { f with dotAll := value }
  | 'R' => some { f with returns := value }
  | 'x' => some { f with spaced := value }
  | 'u' => some { f with unicode := value }
  | 'U' => some { f with prefersShort := value }
  | _ => none

/-- The flags of a group up to its colon or closing bracket, which is returned with them. A flag may
be given once, and so may the hyphen before the flags to clear, which must not come last. -/
def flags? (f : Flags) (seen : List Char) (value : Bool) :
    List Char → Option (Flags × Bool × Char × List Char)
  | [] => none
  | c :: cs =>
    if c = ':' ∨ c = ')' then
      if seen.head? = some '-' then none else some (f, !seen.isEmpty, c, cs)
    else if c ∈ seen then none
    else if c = '-' then flags? f (c :: seen) false cs
    else
      match setFlag? f value c with
      | some f => flags? f (c :: seen) value cs
      | none => none

/-- Whether a name may hold the character; the first one may be a letter or an underscore. -/
def isNameChar (first : Bool) (c : Char) : Bool :=
  if first then c == '_' || Unicode.isAlphabetic c
  else c == '_' || c == '.' || c == '[' || c == ']' || Unicode.isAlphabetic c ||
    Unicode.isNumber c

def name? (cs : List Char) : Option (List Char × List Char) :=
  match cs.takeWhile (· != '>'), cs.dropWhile (· != '>') with
  | c :: name, _ :: rest =>
    if isNameChar true c && name.all (isNameChar false) then some (c :: name, rest) else none
  | _, _ => none

namespace Reader

def add (r : Reader) (p : Pattern Atom) : Reader :=
  { r with current := r.current.add { pattern := p } }

def enter (r : Reader) (f : Flags) : Reader :=
  { r with flags := f, outer := ⟨r.flags, r.current, none⟩ :: r.outer, current := {} }

def enterKept (r : Reader) : Reader :=
  let index := r.groups + 1
  { r with groups := index, outer := ⟨r.flags, r.current, some index⟩ :: r.outer, current := {} }

def enterNamed? (r : Reader) (cs : List Char) : Option (Reader × List Char) := do
  let (name, rest) ← name? cs
  if name ∈ r.names then none
  else return ({ r.enterKept with names := name :: r.names }, rest)

/-- A group after its bracket, or a change of flags. Looking around is not possible. -/
def open? (r : Reader) (cs : List Char) : Option (Reader × List Char) :=
  match r.flags.skip cs with
  | '?' :: 'P' :: '<' :: cs => r.enterNamed? cs
  | '?' :: '<' :: cs =>
    match cs with
    | '=' :: _ | '!' :: _ => none
    | cs => r.enterNamed? cs
  | '?' :: cs => do
    let (f, given, last, cs) ← flags? r.flags [] true cs
    if last = ':' then return (r.enter f, cs)
    else if given then
      let current := r.current.add { pattern := .empty, repeatable := false }
      return ({ r with flags := f, current }, cs)
    else none
  | cs => some (r.enterKept, cs)

def close? (r : Reader) : Option Reader :=
  match r.outer with
  | [] => none
  | g :: outer =>
    let inner := r.current.toPiece
    let pattern :=
      match g.index with
      | some index => .group index inner.pattern
      | none => inner.pattern
    let current := g.before.add { pattern, depth := inner.depth + 1 }
    some { r with flags := g.flags, outer, current }

/-- Repeat the last part, as far as what follows says in the preferred way. -/
def repeat? (r : Reader) (low : Nat) (high : Option Nat) (cs : List Char) :
    Option (Reader × List Char) :=
  let (greedy, cs) := greedy r.flags cs
  (r.current.repeat? low high greedy).map fun current => ({ r with current }, cs)

/-- Any character, or any but those that end a line. Without Unicode this is no text. -/
def dot? (f : Flags) : Option (Pattern Atom) :=
  if !f.unicode then none
  else if f.dotAll then some (ofSet CharSet.all true)
  else if f.returns then some (ofSet (CharSet.ofList ['\n', '\r']).compl true)
  else some (ofSet (CharSet.one '\n').compl true)

def start (f : Flags) : Anchor :=
  if !f.multiLine then .textStart else if f.returns then .returnLineStart else .lineStart

def finish (f : Flags) : Anchor :=
  if !f.multiLine then .textEnd else if f.returns then .returnLineEnd else .lineEnd

/-- Read what begins with the character `c` in front of `cs`. A set or a count in it takes at most
`n` steps. -/
def step? (r : Reader) (n : Nat) (c : Char) (cs : List Char) : Option (Reader × List Char) :=
  match c with
  | '(' => r.open? cs
  | ')' => r.close?.map (·, cs)
  | '|' => some ({ r with current := r.current.next }, cs)
  | '[' => (bracketed? r.flags n cs).map fun (s, cs) =>
    let current := r.current.add { pattern := ofSet s.set r.flags.unicode, depth := s.depth }
    ({ r with current }, cs)
  | '?' => r.repeat? 0 (some 1) cs
  | '*' => r.repeat? 0 none cs
  | '+' => r.repeat? 1 none cs
  | '\x7b' => do
    let ((low, high), cs) ← bounds? r.flags n cs
    r.repeat? low high cs
  | '.' => (dot? r.flags).map fun p => (r.add p, cs)
  | '^' => some (r.add (.atom (.anchor (start r.flags))), cs)
  | '$' => some (r.add (.atom (.anchor (finish r.flags))), cs)
  | '\\' => (escape? r.flags cs).map fun (e, cs) =>
    match e with
    | .literal c => (r.add (r.flags.literal c), cs)
    | .set s => (r.add (ofSet s r.flags.unicode), cs)
    | .anchor a => (r.add (.atom (.anchor a)), cs)
  | c => some (r.add (r.flags.literal c), cs)

def readOn (r : Reader) : Nat → List Char → Option Piece
  | n, cs =>
    match r.flags.skip cs, n with
    | [], _ => if r.outer.isEmpty then some r.current.toPiece else none
    | _ :: _, 0 => none
    | c :: cs, n + 1 => do
      let (r, cs) ← r.step? n c cs
      readOn r n cs

end Reader

def depthLimit : Nat := 250

/-- The pattern a text is, if it is one of a depth and a size that are allowed. -/
def read? (s : String) : Option (Pattern Atom) := do
  let piece ← Reader.readOn {} s.length s.toList
  if piece.depth ≤ depthLimit && isBuildable piece.pattern then return piece.pattern else none

end RollCall.Pattern
