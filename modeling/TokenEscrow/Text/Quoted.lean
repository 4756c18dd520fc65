import TokenEscrow.Text.Hidden

/-!
# Quoted text

Text between double quotes, for messages that show a text as it was found.
Quotes and backslashes are escaped, and so is every character that would not be
seen.
-/

namespace TokenEscrow

namespace Quoted

/-- Whether a character shows as itself. -/
def isShown (c : Char) : Bool :=
  if c.toNat < 0x7F then 0x20 ≤ c.toNat else !Hidden.contains c.toNat

/-- One character between quotes. -/
def encodeChar (c : Char) : List Char :=
  if c = '\x00' then ['\\', '0']
  else if c = '\t' then ['\\', 't']
  else if c = '\r' then ['\\', 'r']
  else if c = '\n' then ['\\', 'n']
  else if c = '\\' ∨ c = '"' then ['\\', c]
  else if isShown c then [c]
  else "\\u\x7b".toList ++ Nat.toDigits 16 c.toNat ++ ['\x7d']

/-- One character on its own, between single quotes. -/
def encodeSingle (c : Char) : String :=
  let shown := if c = '"' then ['"'] else if c = '\'' then ['\\', '\''] else encodeChar c
  String.ofList ('\'' :: shown ++ ['\''])

/-- The text between quotes. -/
def encode (text : String) : String :=
  String.ofList ('"' :: text.toList.flatMap encodeChar ++ ['"'])

end Quoted

end TokenEscrow
