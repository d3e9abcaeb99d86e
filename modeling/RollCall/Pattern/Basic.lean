import RollCall.CharSet.Property

/-!
# Patterns

A pattern is a regular expression over atoms: runs of characters, sets of characters and conditions
on the place between two characters. The constructors `sequence`, `choice`, `repeated` and `ofSet`
build patterns in their normal form, in which sequences hold no sequences, choices no choices,
literals never stand side by side, and a choice between characters is a set.
-/
namespace RollCall

/-- A condition on the characters before and after a position. Conditions on words come for the
words of Unicode and for those of ASCII. -/
inductive Anchor
  | textStart
  | textEnd
  /-- The start of a line, lines ending in a line feed. -/
  | lineStart
  /-- The end of a line, lines ending in a line feed. -/
  | lineEnd
  /-- The start of a line, lines ending in a line feed, a carriage return or both. -/
  | returnLineStart
  /-- The end of a line, lines ending in a line feed, a carriage return or both. -/
  | returnLineEnd
  /-- No character of a word before the position, and one after it. -/
  | wordStart (unicode : Bool)
  /-- A character of a word before the position, and none after it. -/
  | wordEnd (unicode : Bool)
  | wordBoundary (unicode : Bool)
  | notBoundary (unicode : Bool)
  /-- No character of a word before the position. -/
  | wordStartHalf (unicode : Bool)
  /-- No character of a word after the position. -/
  | wordEndHalf (unicode : Bool)
deriving DecidableEq

/-- The characters that words are made of. -/
def Anchor.word (unicode : Bool) : CharSet :=
  if unicode then Unicode.wordCharacters else CharSet.asciiWord

inductive Atom
  | literal (cs : List Char)
  /-- One character of a set, which was written for Unicode or for ASCII only. -/
  | set (s : CharSet) (unicode : Bool)
  | anchor (a : Anchor)
deriving DecidableEq

/-- The number of characters an atom takes; an empty set takes none that exist. -/
def Atom.length? : Atom → Option Nat
  | literal cs => some cs.length
  | set s _ => if s.isEmpty then none else some 1
  | anchor _ => some 0

inductive Pattern (α : Type)
  | atom (a : α)
  | seq (parts : List (Pattern α))
  | alt (choices : List (Pattern α))
  /-- At least `low` times `body`, and at most `high` times if that is given; long matches are tried
  first if it is greedy. -/
  | loop (body : Pattern α) (low : Nat) (high : Option Nat) (greedy : Bool)
  /-- A part whose match is kept under a number. -/
  | group (index : Nat) (body : Pattern α)

namespace Pattern

mutual

/-- The value of a pattern, given what each constructor makes of the values of the parts. -/
def fold (atom : α → β) (seq alt : List β → β) (loop : β → Nat → Option Nat → Bool → β)
    (group : Nat → β → β) : Pattern α → β
  | .atom a => atom a
  | .seq ps => seq (foldAll atom seq alt loop group ps)
  | .alt ps => alt (foldAll atom seq alt loop group ps)
  | .loop p low high greedy => loop (fold atom seq alt loop group p) low high greedy
  | .group index p => group index (fold atom seq alt loop group p)

def foldAll (atom : α → β) (seq alt : List β → β) (loop : β → Nat → Option Nat → Bool → β)
    (group : Nat → β → β) : List (Pattern α) → List β
  | [] => []
  | p :: ps => fold atom seq alt loop group p :: foldAll atom seq alt loop group ps

end

def map (f : α → β) : Pattern α → Pattern β :=
  fold (fun a => .atom (f a)) .seq .alt .loop .group

def reversed : Pattern α → Pattern α :=
  fold .atom (fun ps => .seq ps.reverse) .alt .loop .group

/-- A combination of numbers all of which have to be there. -/
def combined (f : Nat → Nat → Nat) : List (Option Nat) → Option Nat
  | [] => some 0
  | [n] => n
  | n :: ns => do return f (← n) (← combined f ns)

/-- The least number of characters in a match, unless a part can have none. -/
def minLength : Pattern Atom → Option Nat :=
  fold Atom.length? (combined (· + ·)) (combined min) (fun n low _ _ => n.map (· * low))
    fun _ n => n

/-- The greatest number of characters in a match, unless there is no bound or a part can have no
match. -/
def maxLength : Pattern Atom → Option Nat :=
  fold Atom.length? (combined (· + ·)) (combined max)
    (fun n _ high _ => do return (← n) * (← high)) fun _ n => n

mutual

def same [BEq α] : Pattern α → Pattern α → Bool
  | .atom a, .atom b => a == b
  | .seq ps, .seq qs => sameAll ps qs
  | .alt ps, .alt qs => sameAll ps qs
  | .loop p low high greedy, .loop q low' high' greedy' =>
    low == low' && high == high' && greedy == greedy' && same p q
  | .group i p, .group j q => i == j && same p q
  | _, _ => false

def sameAll [BEq α] : List (Pattern α) → List (Pattern α) → Bool
  | [], [] => true
  | p :: ps, q :: qs => same p q && sameAll ps qs
  | _, _ => false

end

def empty : Pattern α := .seq []

/-- The parts of a sequence; any other pattern is the only part of itself. -/
def parts : Pattern α → List (Pattern α)
  | .seq ps => ps
  | p => [p]

/-- The parts of a choice; any other pattern is the only choice. -/
def choices : Pattern α → List (Pattern α)
  | .alt ps => ps
  | p => [p]

/-- The parts of a sequence with literals side by side made one. -/
def joinLiterals : List (Pattern Atom) → List (Pattern Atom)
  | [] => []
  | p :: ps =>
    match p, joinLiterals ps with
    | .atom (.literal cs), .atom (.literal ds) :: rest => .atom (.literal (cs ++ ds)) :: rest
    | p, rest => p :: rest

def sequence (ps : List (Pattern Atom)) : Pattern Atom :=
  match joinLiterals (ps.flatMap parts) with
  | [p] => p
  | ps => .seq ps

def ofSet (s : CharSet) (unicode : Bool) : Pattern Atom :=
  if s.isEmpty then .atom (.set .none false)
  else
    match s.single? with
    | some c => .atom (.literal [c])
    | none => .atom (.set s unicode)

def char? : Pattern Atom → Option Char
  | .atom (.literal [c]) => some c
  | _ => none

def set? : Pattern Atom → Option CharSet
  | .atom (.set s _) => some s
  | _ => none

/-- A choice, as a set if it is one between characters or one between sets. -/
def merged (ps : List (Pattern Atom)) : Pattern Atom :=
  match ps.flatMap choices with
  | [p] => p
  | ps =>
    match (ps.mapM char?).map CharSet.ofList <|> (ps.mapM set?).map CharSet.unions with
    | some s => ofSet s true
    | none => .alt ps

/-- The first elements in which two lists agree. -/
def agreement (ps qs : List (Pattern Atom)) : List (Pattern Atom) :=
  ((ps.zip qs).takeWhile fun (p, q) => same p q).map Prod.fst

/-- The parts that some patterns begin with; they have any only if all are sequences. -/
def sharedParts : List (Pattern Atom) → List (Pattern Atom)
  | .seq ps :: others => others.foldl (fun shared q =>
      match q with
      | .seq qs => agreement shared qs
      | _ => []) ps
  | _ => []

/-- A choice. The parts that all choices begin with are written once. -/
def choice (ps : List (Pattern Atom)) : Pattern Atom :=
  match merged ps with
  | .alt choices =>
    match sharedParts choices with
    | [] => .alt choices
    | shared =>
      sequence (shared ++ [merged (choices.map fun p => sequence (p.parts.drop shared.length))])
  | p => p

/-- A repetition. What takes no characters is repeated once at most. -/
def repeated (p : Pattern Atom) (low : Nat) (high : Option Nat) (greedy : Bool) : Pattern Atom :=
  let (low, high) :=
    if p.maxLength = some 0 then (min low 1, some (min (high.getD 1) 1)) else (low, high)
  match low, high with
  | 0, some 0 => empty
  | 1, some 1 => p
  | low, high => .loop p low high greedy

end Pattern
end RollCall
