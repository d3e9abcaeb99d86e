/-!
# Reading decimal literals

A literal is an optional sign, digits, an optional fraction and an optional exponent. It is kept as
an integer and a power of ten.
-/
namespace RollCall.Decimal

/-- A signed decimal literal `± digits · 10^exponent`. -/
structure Literal where
  negative : Bool
  digits : Nat
  exponent : Int
  /-- Whether the literal has neither point nor exponent mark. -/
  integral : Bool
deriving DecidableEq

def natOfDigits (cs : List Char) : Nat :=
  cs.foldl (fun n c => 10 * n + (c.toNat - '0'.toNat)) 0

def spanDigits (cs : List Char) : List Char × List Char :=
  (cs.takeWhile Char.isDigit, cs.dropWhile Char.isDigit)

def digits? (cs : List Char) : Option (List Char × List Char) :=
  match spanDigits cs with
  | ([], _) => none
  | found => some found

def fraction? : List Char → Option (Option (List Char) × List Char)
  | '.' :: cs => (digits? cs).map fun (ds, rest) => (some ds, rest)
  | cs => some (none, cs)

def exponent? : List Char → Option (Option Int × List Char)
  | c :: cs =>
    if c = 'e' ∨ c = 'E' then
      let (negative, cs) :=
        match cs with
        | '-' :: cs => (true, cs)
        | '+' :: cs => (false, cs)
        | cs => (false, cs)
      (digits? cs).map fun (ds, rest) =>
        (some (if negative then -(natOfDigits ds : Int) else natOfDigits ds), rest)
    else
      some (none, c :: cs)
  | [] => some (none, [])

def scan? (cs : List Char) : Option (Literal × List Char) := do
  let (negative, cs) :=
    match cs with
    | '-' :: cs => (true, cs)
    | cs => (false, cs)
  let (whole, cs) ← digits? cs
  let (fraction, cs) ← fraction? cs
  let (exponent, cs) ← exponent? cs
  let places := fraction.getD []
  let literal : Literal :=
    { negative
      digits := natOfDigits (whole ++ places)
      exponent := exponent.getD 0 - places.length
      integral := fraction.isNone && exponent.isNone }
  return (literal, cs)

/-- The integer a literal without point and exponent stands for. -/
def Literal.toInt (l : Literal) : Int :=
  if l.negative then -(l.digits : Int) else l.digits

end RollCall.Decimal
