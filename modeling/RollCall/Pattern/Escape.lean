import RollCall.Pattern.Basic
import RollCall.Text.Blank

/-!
# Reading escapes

The flags under which a pattern is read, and the escapes that stand in it: single characters, sets
and conditions on a position. Every reader takes the characters after what it reads for and returns
the rest with its result.
-/
namespace RollCall.Pattern

structure Flags where
  foldsCase : Bool := false
  multiLine : Bool := false
  dotAll : Bool := false
  /-- Lines may end in carriage returns. -/
  returns : Bool := false
  /-- Blanks and comments are passed over. -/
  spaced : Bool := false
  unicode : Bool := true
  /-- Repetitions prefer short matches, and long ones where a question mark follows. -/
  prefersShort : Bool := false
deriving DecidableEq

/-- The characters after leading blanks and comments. -/
def skipSpace (comment : Bool) : List Char → List Char
  | [] => []
  | c :: cs =>
    if comment then skipSpace (c != '\n') cs
    else if c = '#' then skipSpace true cs
    else if Text.isBlank c then skipSpace false cs
    else c :: cs

namespace Flags

def skip (f : Flags) (cs : List Char) : List Char :=
  if f.spaced then skipSpace false cs else cs

/-- A set closed under case if the flags say so. -/
def closed (f : Flags) (s : CharSet) : CharSet :=
  if !f.foldsCase then s
  else if f.unicode then s.foldCase
  else s.foldAsciiCase

/-- A set that may be used: without Unicode it has to be one of ASCII characters. -/
def usable? (f : Flags) (s : CharSet) : Option CharSet :=
  if f.unicode || s.isAscii then some s else none

/-- A set closed under case and turned round if it is negated. -/
def turned? (f : Flags) (negated : Bool) (s : CharSet) : Option CharSet :=
  f.usable? (if negated then (f.closed s).compl else f.closed s)

def literal (f : Flags) (c : Char) : Pattern Atom :=
  ofSet (f.closed (CharSet.one c)) f.unicode

end Flags

inductive Escape
  | literal (c : Char)
  | set (s : CharSet)
  | anchor (a : Anchor)

/-- The character with a code point in hexadecimal digits. -/
def charOfHex? (digits : List Char) : Option Char :=
  let n := Unicode.hexNat digits
  if n.isValidChar then some (Char.ofNat n) else none

def isHex (c : Char) : Bool :=
  (Unicode.hexDigit? c).isSome

def hexDigits? (f : Flags) : Nat → List Char → Option (List Char × List Char)
  | 0, cs => some ([], cs)
  | n + 1, cs =>
    match f.skip cs with
    | c :: cs =>
      if isHex c then (hexDigits? f n cs).map fun (digits, rest) => (c :: digits, rest) else none
    | [] => none

/-- The characters up to a closing brace, blanks passed over if the flags say so. -/
def upToBrace? (spaced comment : Bool) : List Char → Option (List Char × List Char)
  | [] => none
  | c :: cs =>
    if comment then upToBrace? spaced (c != '\n') cs
    else if c = '\x7d' then some ([], cs)
    else if spaced && c = '#' then upToBrace? spaced true cs
    else if spaced && Text.isBlank c then upToBrace? spaced false cs
    else (upToBrace? spaced false cs).map fun (name, rest) => (c :: name, rest)

/-- A code point after its mark, with `n` digits or in braces. Without Unicode, two bare digits are
a byte, which has to be one of ASCII. -/
def codePoint? (f : Flags) (n : Nat) (cs : List Char) : Option (Char × List Char) :=
  match f.skip cs with
  | '\x7b' :: cs => do
    let (digits, rest) ← upToBrace? f.spaced false cs
    if digits.isEmpty || !digits.all isHex then none
    else return (← charOfHex? digits, rest)
  | cs => do
    let (digits, rest) ← hexDigits? f n cs
    let c ← charOfHex? digits
    if n = 2 && !f.unicode && 128 ≤ c.toNat then none else return (c, rest)

/-- The two parts of a name around a mark, if the mark stands in it. -/
def splitAt? (mark : List Char) : List Char → Option (List Char × List Char)
  | [] => none
  | c :: cs =>
    if mark.isPrefixOf (c :: cs) then some ([], (c :: cs).drop mark.length)
    else (splitAt? mark cs).map fun (before, after) => (c :: before, after)

/-- The set of a property in braces, and whether its complement is meant. -/
def propertySet? (name : List Char) : Option (Bool × CharSet) :=
  match splitAt? ['!', '='] name with
  | some (property, value) => (CharSet.valued? property value).map (true, ·)
  | none =>
    match splitAt? [':'] name <|> splitAt? ['='] name with
    | some (property, value) => (CharSet.valued? property value).map (false, ·)
    | none => (CharSet.named? name).map (false, ·)

/-- A property after its mark: one letter, or a name in braces. -/
def property? (f : Flags) (negated : Bool) (cs : List Char) : Option (CharSet × List Char) := do
  let (name, rest) ←
    match f.skip cs with
    | '\x7b' :: cs => upToBrace? f.spaced false cs
    | c :: cs => if c = '\\' then none else some ([c], cs)
    | [] => none
  if !f.unicode then none
  else
    let (turned, set) ← propertySet? name
    return (← f.turned? (negated != turned) set, rest)

/-- The sets that a single letter stands for; an uppercase letter stands for the complement. -/
def letterSet? (f : Flags) (c : Char) : Option CharSet :=
  let set :=
    match c.toLower with
    | 'd' => if f.unicode then Unicode.decimalDigits else CharSet.asciiDigit
    | 's' => if f.unicode then Unicode.whiteSpace else CharSet.asciiSpace
    | _ => Anchor.word f.unicode
  f.usable? (if c.isUpper then set.compl else set)

/-- The conditions on words that have a name. -/
def wordAnchor? (unicode : Bool) (name : List Char) : Option Anchor :=
  match String.ofList name with
  | "start" => some (.wordStart unicode)
  | "end" => some (.wordEnd unicode)
  | "start-half" => some (.wordStartHalf unicode)
  | "end-half" => some (.wordEndHalf unicode)
  | _ => none

/-- A word boundary after its letter. A name in braces may follow; braces with anything else than a
letter or hyphen at the start are left for a repetition. -/
def boundary? (f : Flags) (cs : List Char) : Option (Escape × List Char) :=
  let plain := Escape.anchor (.wordBoundary f.unicode)
  match cs with
  | '\x7b' :: inner =>
    match f.skip inner with
    | [] => none
    | c :: _ =>
      if c.isAlpha || c = '-' then do
        let (name, rest) ← upToBrace? f.spaced false inner
        return (.anchor (← wordAnchor? f.unicode name), rest)
      else some (plain, cs)
  | cs => some (plain, cs)

/-- Whether a character of ASCII may stand for itself after a backslash. -/
def isSelfEscaped (c : Char) : Bool :=
  c.toNat < 128 && !c.isAlphanum && c != '<' && c != '>'

def escape? (f : Flags) : List Char → Option (Escape × List Char)
  | [] => none
  | c :: cs =>
    match c with
    | 'x' => (codePoint? f 2 cs).map fun (c, rest) => (.literal c, rest)
    | 'u' => (codePoint? f 4 cs).map fun (c, rest) => (.literal c, rest)
    | 'U' => (codePoint? f 8 cs).map fun (c, rest) => (.literal c, rest)
    | 'p' => (property? f false cs).map fun (s, rest) => (.set s, rest)
    | 'P' => (property? f true cs).map fun (s, rest) => (.set s, rest)
    | 'd' | 's' | 'w' | 'D' | 'S' | 'W' => (letterSet? f c).map fun s => (.set s, cs)
    | 'a' => some (.literal '\x07', cs)
    | 'f' => some (.literal '\x0c', cs)
    | 't' => some (.literal '\t', cs)
    | 'n' => some (.literal '\n', cs)
    | 'r' => some (.literal '\r', cs)
    | 'v' => some (.literal '\x0b', cs)
    | 'A' => some (.anchor .textStart, cs)
    | 'z' => some (.anchor .textEnd, cs)
    | 'b' => boundary? f cs
    | 'B' => some (.anchor (.notBoundary f.unicode), cs)
    | '<' => some (.anchor (.wordStart f.unicode), cs)
    | '>' => some (.anchor (.wordEnd f.unicode), cs)
    | c => if isSelfEscaped c then some (.literal c, cs) else none

end RollCall.Pattern
