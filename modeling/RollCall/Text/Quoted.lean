import RollCall.Unicode.Edition
import RollCall.Decimal.Layout

/-!
# Texts quoted in messages

A text in a message stands in double quotes. Quotes, backslashes and the usual control characters
have short escapes, and every other character that a reader could not see is written by its code
point.
-/
namespace RollCall.Text

def hexDigits (n : Nat) : List Char :=
  Nat.toDigits 16 n

def quotedChar (c : Char) : List Char :=
  if c = '"' then ['\\', '"']
  else if c = '\\' then ['\\', '\\']
  else if c = '\n' then ['\\', 'n']
  else if c = '\r' then ['\\', 'r']
  else if c = '\t' then ['\\', 't']
  else if c = '\x00' then ['\\', '0']
  else if !Unicode.isShown c then
    ['\\', 'u', '\x7b'] ++ hexDigits c.toNat ++ ['\x7d']
  else [c]

def quoted (s : String) : String :=
  String.ofList ('"' :: s.toList.flatMap quotedChar ++ ['"'])

end RollCall.Text
