import Clearance.Text.Unseen

/-! Text between double quotes, with a backslash before what would end or blur it. -/

namespace Clearance.Text

/-- The hexadecimal digits of a code point, between braces. -/
def codePoint (c : Char) : List Char :=
  ['\\', 'u', '{'] ++ Nat.toDigits 16 c.toNat ++ ['}']

def quoteChar (c : Char) : List Char :=
  if c = '"' then ['\\', '"']
  else if c = '\\' then ['\\', '\\']
  else if c = '\n' then ['\\', 'n']
  else if c = '\r' then ['\\', 'r']
  else if c = '\t' then ['\\', 't']
  else if c = '\x00' then ['\\', '0']
  else if isUnseen c then codePoint c
  else [c]

/-- The text between quotes; a character that is not seen as itself is given by its number. -/
def quoted (s : String) : String :=
  String.ofList (['"'] ++ s.toList.flatMap quoteChar ++ ['"'])

end Clearance.Text
