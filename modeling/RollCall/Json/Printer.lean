import RollCall.Json.Basic
import RollCall.Decimal.Layout

/-!
# Writing JSON

`compact` writes a value without blanks and `pretty` with one item a line. Keys keep their order,
and strings escape only quotes, backslashes and control characters.
-/
namespace RollCall.Json

/-- A control character as a code unit of two significant digits. -/
def controlEscape (n : Nat) : List Char :=
  let ds := Nat.toDigits 16 n
  ['\\', 'u'] ++ List.replicate (4 - ds.length) '0' ++ ds

def escapeChar (c : Char) : List Char :=
  if c = '"' then ['\\', '"']
  else if c = '\\' then ['\\', '\\']
  else if c = '\x08' then ['\\', 'b']
  else if c = '\x0c' then ['\\', 'f']
  else if c = '\n' then ['\\', 'n']
  else if c = '\r' then ['\\', 'r']
  else if c = '\t' then ['\\', 't']
  else if c.toNat < 0x20 then controlEscape c.toNat
  else [c]

def quote (s : String) : String :=
  String.ofList ('"' :: s.toList.flatMap escapeChar ++ ['"'])

def floatText (x : Float) : String :=
  Decimal.Layout.json.write x

mutual

def compact : Json → String
  | .null => "null"
  | .bool b => if b then "true" else "false"
  | .int n => toString n
  | .float x => floatText x
  | .str s => quote s
  | .arr items => "[" ++ ",".intercalate (compactItems items) ++ "]"
  | .obj fields => "\x7b" ++ ",".intercalate (compactFields fields) ++ "\x7d"

def compactItems : List Json → List String
  | [] => []
  | v :: items => compact v :: compactItems items

def compactFields : List (String × Json) → List String
  | [] => []
  | (k, v) :: fields => (quote k ++ ":" ++ compact v) :: compactFields fields

end

/-- A new line at the given nesting, two spaces for each level. -/
def newline (level : Nat) : String :=
  String.ofList ('\n' :: List.replicate (2 * level) ' ')

/-- Lines between brackets, or the bare brackets if there are none. -/
def block (left right : String) (level : Nat) (lines : List String) : String :=
  if lines.isEmpty then
    left ++ right
  else
    left ++ newline (level + 1) ++ ("," ++ newline (level + 1)).intercalate lines ++
      newline level ++ right

mutual

/-- A value at a nesting level, one item or field a line. -/
def prettyAt (level : Nat) : Json → String
  | .arr items => block "[" "]" level (prettyItems (level + 1) items)
  | .obj fields => block "\x7b" "\x7d" level (prettyFields (level + 1) fields)
  | .null => "null"
  | .bool b => if b then "true" else "false"
  | .int n => toString n
  | .float x => floatText x
  | .str s => quote s

def prettyItems (level : Nat) : List Json → List String
  | [] => []
  | v :: items => prettyAt level v :: prettyItems level items

def prettyFields (level : Nat) : List (String × Json) → List String
  | [] => []
  | (k, v) :: fields => (quote k ++ ": " ++ prettyAt level v) :: prettyFields level fields

end

def pretty (v : Json) : String :=
  prettyAt 0 v

end RollCall.Json
