import RollCall.Unicode.Edition

/-!
# Lowercase texts

The full lowercase form of a text. Every character has its own lowercase form, with two exceptions:
a capital sigma at the end of a word becomes a final sigma, and a capital i with a dot keeps the dot
as a combining character. `asciiLower` and `asciiUpper` touch the letters of ASCII only.
-/
namespace RollCall.Text

/-- Whether the first character that is not case-ignorable is cased. -/
def meetsCased (cs : List Char) : Bool :=
  match cs.dropWhile Unicode.isCaseIgnorable with
  | [] => false
  | c :: _ => Unicode.isCased c

/-- The lowercase form of `c` between the characters `before`, nearest first, and `after`. -/
def lowercaseIn (before : List Char) (c : Char) (after : List Char) : List Char :=
  if c = 'Σ' then
    if meetsCased before && !meetsCased after then ['ς'] else ['σ']
  else if c = 'İ' then
    ['i', '\u0307']
  else
    [Unicode.lowercase c]

/-- The lowercase form of `cs` after the characters `before`, nearest first. -/
def lowercaseAfter (before : List Char) : List Char → List Char
  | [] => []
  | c :: cs => lowercaseIn before c cs ++ lowercaseAfter (c :: before) cs

def lowercase (s : String) : String :=
  String.ofList (lowercaseAfter [] s.toList)

/-- The letters `A` to `Z` in lower case, all else as it is. -/
def asciiLower (s : String) : String :=
  s.map Char.toLower

def asciiUpper (s : String) : String :=
  s.map Char.toUpper

end RollCall.Text
