import StoreAccess.Text.Hex
import StoreAccess.Text.PrintTable

/-! Quoted text: between double quotes, with everything escaped that would be invisible, would join
    the character before it, or would end the quotation. -/

namespace StoreAccess
namespace Text

/-- A character by its code point in hexadecimal between braces. -/
def codePointEscape (c : Char) : List Char :=
  ['\\', 'u', '\x7b'] ++ hex c.toNat ++ ['\x7d']

/-- How one character stands inside quotes. -/
def quotedChar (c : Char) : List Char :=
  if c = '\x00' then ['\\', '0']
  else if c = '\t' then ['\\', 't']
  else if c = '\r' then ['\\', 'r']
  else if c = '\n' then ['\\', 'n']
  else if c = '"' then ['\\', '"']
  else if c = '\\' then ['\\', '\\']
  else if graphemeExtend.contains c || unprintable.contains c then codePointEscape c
  else [c]

def quoted (cs : List Char) : List Char :=
  '"' :: cs.flatMap quotedChar ++ ['"']

/-- The quoted form of a text. -/
def quote (s : String) : String :=
  String.ofList (quoted s.toList)

end Text
end StoreAccess
