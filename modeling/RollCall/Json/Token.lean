import RollCall.Json.Basic
import RollCall.Library
import RollCall.Unicode.Table

/-!
# JSON tokens

The lexical layer of JSON: marks, words, numbers and strings, with blanks skipped. `Token.scan?` is
total; each token takes at least one character, so the number of characters bounds their number.
-/
namespace RollCall.Json

inductive Token
  | openArray
  | closeArray
  | openObject
  | closeObject
  | comma
  | colon
  | scalar (value : Json)
  | text (s : String)

namespace Token

def isBlank (c : Char) : Bool :=
  c = ' ' || c = '\t' || c = '\n' || c = '\r'

/-- The code unit of four hexadecimal digits. -/
def unit? (a b c d : Char) : Option Nat := do
  let a ← Unicode.hexDigit? a
  let b ← Unicode.hexDigit? b
  let c ← Unicode.hexDigit? c
  let d ← Unicode.hexDigit? d
  return ((16 * a + b) * 16 + c) * 16 + d

def shortEscape? : Char → Option Char
  | '"' => some '"'
  | '\\' => some '\\'
  | '/' => some '/'
  | 'b' => some '\x08'
  | 'f' => some '\x0c'
  | 'n' => some '\n'
  | 'r' => some '\r'
  | 't' => some '\t'
  | _ => none

/-- The characters up to the closing quote, and the rest. A code unit of the upper half of a pair
must be followed by one of the lower half; `high` holds it meanwhile. -/
def textChars? (high : Option Nat) (done : List Char) : List Char → Option (List Char × List Char)
  | [] => none
  | '\\' :: 'u' :: a :: b :: c :: d :: cs => do
    let unit ← unit? a b c d
    match high with
    | none =>
      if 0xD800 ≤ unit ∧ unit < 0xDC00 then textChars? (some unit) done cs
      else if 0xDC00 ≤ unit ∧ unit < 0xE000 then none
      else textChars? none (Char.ofNat unit :: done) cs
    | some upper =>
      if 0xDC00 ≤ unit ∧ unit < 0xE000 then
        let point := 0x10000 + (upper - 0xD800) * 0x400 + (unit - 0xDC00)
        textChars? none (Char.ofNat point :: done) cs
      else
        none
  | '\\' :: e :: cs =>
    match high, shortEscape? e with
    | none, some c => textChars? none (c :: done) cs
    | _, _ => none
  | c :: cs =>
    if high.isSome then none
    else if c = '"' then some (done.reverse, cs)
    else if c.toNat < 0x20 then none
    else textChars? none (c :: done) cs

variable [Library]

/-- A number literal. Leading zeros are no number, an integer out of range becomes a double, `-0` is
the negative zero, and a literal beyond the largest double is no number. -/
def number? (cs : List Char) : Option (Json × List Char) := do
  let (literal, rest) ← Decimal.scan? cs
  let unsigned := match cs with
    | '-' :: cs => cs
    | cs => cs
  match unsigned with
  | '0' :: c :: _ => if c.isDigit then none else some ()
  | _ => some ()
  let n := literal.toInt
  if literal.integral && isIntegral n && !(literal.negative && n == 0) then
    return (.int n, rest)
  else
    let x := Library.decimal literal
    if Binary64.isFinite x then return (.float x, rest) else none

/-- The token at the start of a text that begins with no blank, and the rest. -/
def one? : List Char → Option (Token × List Char)
  | '[' :: cs => some (.openArray, cs)
  | ']' :: cs => some (.closeArray, cs)
  | '\x7b' :: cs => some (.openObject, cs)
  | '\x7d' :: cs => some (.closeObject, cs)
  | ',' :: cs => some (.comma, cs)
  | ':' :: cs => some (.colon, cs)
  | '"' :: cs => (textChars? none [] cs).map fun (s, rest) => (.text (String.ofList s), rest)
  | 't' :: 'r' :: 'u' :: 'e' :: cs => some (.scalar (.bool true), cs)
  | 'f' :: 'a' :: 'l' :: 's' :: 'e' :: cs => some (.scalar (.bool false), cs)
  | 'n' :: 'u' :: 'l' :: 'l' :: cs => some (.scalar .null, cs)
  | cs => (number? cs).map fun (v, rest) => (.scalar v, rest)

def scanUpTo? : Nat → List Char → Option (List Token)
  | limit, cs =>
    match cs.dropWhile isBlank with
    | [] => some []
    | cs =>
      match limit with
      | 0 => none
      | limit + 1 => do
        let (token, rest) ← one? cs
        let tokens ← scanUpTo? limit rest
        return token :: tokens

def scan? (s : String) : Option (List Token) :=
  let cs := s.toList
  scanUpTo? cs.length cs

end Token
end RollCall.Json
