import RollCall.CharSet.Basic

/-!
# Sets of ASCII characters

The sets of ASCII characters that have a name, and closure under case within ASCII.
-/
namespace RollCall.CharSet

def asciiUpper : CharSet := range 'A' 'Z'

def asciiLower : CharSet := range 'a' 'z'

def asciiDigit : CharSet := range '0' '9'

def asciiLetter : CharSet := asciiUpper.union asciiLower

def asciiAlphanumeric : CharSet := asciiDigit.union asciiLetter

def asciiWord : CharSet := asciiAlphanumeric.union (one '_')

def asciiSpace : CharSet := (range '\t' '\r').union (one ' ')

/-- The characters of ASCII that leave a mark. -/
def asciiGraphic : CharSet := range '!' '~'

def asciiNamed? : String → Option CharSet
  | "alnum" => some asciiAlphanumeric
  | "alpha" => some asciiLetter
  | "ascii" => some ascii
  | "blank" => some (ofList [' ', '\t'])
  | "cntrl" => some ((range '\x00' '\x1f').union (one '\x7f'))
  | "digit" => some asciiDigit
  | "graph" => some asciiGraphic
  | "lower" => some asciiLower
  | "print" => some (range ' ' '~')
  | "punct" => some (asciiGraphic.diff asciiAlphanumeric)
  | "space" => some asciiSpace
  | "upper" => some asciiUpper
  | "word" => some asciiWord
  | "xdigit" => some (unions [asciiDigit, range 'A' 'F', range 'a' 'f'])
  | _ => .none

/-- The distance from an uppercase letter of ASCII to its lowercase form. -/
def asciiCaseShift : Nat := 'a'.toNat - 'A'.toNat

/-- The set with the other case of each letter of ASCII in it. -/
def foldAsciiCase (s : CharSet) : CharSet :=
  ofRanges (s.ranges
    ++ (s.inter asciiUpper).ranges.map (fun r =>
      ⟨r.first + asciiCaseShift, r.last + asciiCaseShift⟩)
    ++ (s.inter asciiLower).ranges.map fun r =>
      ⟨r.first - asciiCaseShift, r.last - asciiCaseShift⟩)

end RollCall.CharSet
