import RollCall.Calendar.Date
import RollCall.Decimal.Reading
import RollCall.Text.Blank

/-!
# Reading dates

A date is read from one of three forms: a plain date, a time stamp with an offset, and a date and
time without one. The time has to be a time of day, and is then forgotten. Every reader below takes
a run of characters and returns the rest.
-/
namespace RollCall
namespace Calendar

def number? (most : Nat) (cs : List Char) : Option (Nat × List Char) :=
  match (cs.take most).takeWhile Char.isDigit with
  | [] => none
  | ds => some (Decimal.natOfDigits ds, cs.drop ds.length)

def two? : List Char → Option (Nat × List Char)
  | a :: b :: cs =>
    if a.isDigit && b.isDigit then some (Decimal.natOfDigits [a, b], cs) else none
  | _ => none

def mark? (c : Char) : List Char → Option (List Char)
  | d :: cs => if d = c then some cs else none
  | [] => none

/-- A year of up to four digits, or with a sign and any number of digits. Blanks may precede it. -/
def year? (cs : List Char) : Option (Int × List Char) :=
  match Text.trimStartChars cs with
  | '-' :: cs => (number? cs.length cs).map fun (n, rest) => (-(n : Int), rest)
  | '+' :: cs => (number? cs.length cs).map fun (n, rest) => ((n : Int), rest)
  | cs => (number? 4 cs).map fun (n, rest) => ((n : Int), rest)

/-- A number of one or two digits. Blanks may precede it. -/
def part? (cs : List Char) : Option (Nat × List Char) :=
  number? 2 (Text.trimStartChars cs)

/-- Year, month and day with hyphens between them. -/
def dateOf? (cs : List Char) : Option (Date × List Char) := do
  let (year, cs) ← year? cs
  let cs ← mark? '-' cs
  let (month, cs) ← part? cs
  let cs ← mark? '-' cs
  let (day, cs) ← part? cs
  return (← Date.of? year month day, cs)

/-- Whether the parts are a time of day; a minute may have a leap second. -/
def isTime (hour minute second : Nat) : Bool :=
  hour < 24 && minute < 60 && second ≤ 60

def fraction? : List Char → Option (List Char)
  | '.' :: cs => (Decimal.digits? cs).map Prod.snd
  | cs => some cs

/-- A time of day with numbers read by `part`. -/
def timeOf? (part : List Char → Option (Nat × List Char)) (cs : List Char) :
    Option (List Char) := do
  let (hour, cs) ← part cs
  let cs ← mark? ':' cs
  let (minute, cs) ← part cs
  let cs ← mark? ':' cs
  let (second, cs) ← part cs
  let cs ← fraction? cs
  if isTime hour minute second then some cs else none

/-- A zone: the letter `Z`, or a sign with hours and minutes less than a day. -/
def zone? : List Char → Option (List Char)
  | 'Z' :: cs | 'z' :: cs => some cs
  | c :: cs =>
    if c = '+' ∨ c = '-' ∨ c = '−' then do
      let (hours, cs) ← two? cs
      let cs ← mark? ':' cs
      let (minutes, cs) ← two? cs
      if hours < 24 && minutes < 60 then some cs else none
    else none
  | [] => none

/-- A date and time of fixed width, with a zone. -/
def stamp? (cs : List Char) : Option Date := do
  let (century, cs) ← two? cs
  let (rest, cs) ← two? cs
  let cs ← mark? '-' cs
  let (month, cs) ← two? cs
  let cs ← mark? '-' cs
  let (day, cs) ← two? cs
  let cs ←
    match cs with
    | 'T' :: cs | 't' :: cs | ' ' :: cs => some cs
    | _ => none
  let [] ← zone? (← timeOf? two? cs) | none
  Date.of? (100 * century + rest : Nat) month day

def plain? (cs : List Char) : Option Date := do
  let (date, []) ← dateOf? cs | none
  return date

/-- A date and time with the letter `T` between them. -/
def marked? (cs : List Char) : Option Date := do
  let (date, cs) ← dateOf? cs
  let [] ← timeOf? part? (← mark? 'T' cs) | none
  return date

/-- A date and time with blanks between them. -/
def spaced? (cs : List Char) : Option Date := do
  let (date, cs) ← dateOf? cs
  let [] ← timeOf? part? cs | none
  return date

end Calendar

open Calendar in
/-- The date a text stands for, white space at its ends aside. -/
def Date.read? (s : String) : Option Date :=
  let cs := Text.trimChars s.toList
  plain? cs <|> stamp? cs <|> marked? cs <|> spaced? cs

end RollCall
