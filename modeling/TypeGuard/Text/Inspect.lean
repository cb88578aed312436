import TypeGuard.Text.Quoted
import TypeGuard.Unicode.Unprintable

/-!
Texts between double quotes as shown to a reader: quotes, backslashes and common control characters
are escaped by a letter, and every other character that does not show on its own by its code point.
-/

namespace TypeGuard.Text

def hexDigits (n : Nat) : List Char := Nat.toDigits 16 n

def inspectChar (c : Char) : List Char :=
  if c = '"' then ['\\', '"']
  else if c = '\\' then ['\\', '\\']
  else if c = '\n' then ['\\', 'n']
  else if c = '\r' then ['\\', 'r']
  else if c = '\t' then ['\\', 't']
  else if c.toNat = 0 then ['\\', '0']
  else if Unicode.isUnprintable c then
    ['\\', 'u', '\x7b'] ++ hexDigits c.toNat ++ ['\x7d']
  else [c]

def inspect (text : String) : String :=
  String.ofList ('"' :: text.toList.flatMap inspectChar ++ ['"'])

end TypeGuard.Text
