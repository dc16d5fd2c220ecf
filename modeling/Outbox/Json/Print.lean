import Outbox.Json.Value

/-!
# JSON as text

The compact form of a value: no blanks, members in the order in which the object holds
them, and in a text only those characters escaped that must be. Every function writes in
front of the characters that follow, so that printing takes time in proportion to the
text.
-/

namespace Outbox.Json

/-- A hexadecimal digit. -/
def hexDigit (n : Nat) : Char :=
  if n < 10 then Char.ofNat ('0'.toNat + n) else Char.ofNat ('a'.toNat + n - 10)

/-- A character inside a quoted text. -/
def escape (c : Char) : List Char :=
  if c = '"' then ['\\', '"']
  else if c = '\\' then ['\\', '\\']
  else if c = '\x08' then ['\\', 'b']
  else if c = '\x0c' then ['\\', 'f']
  else if c = '\n' then ['\\', 'n']
  else if c = '\r' then ['\\', 'r']
  else if c = '\t' then ['\\', 't']
  else if c.toNat < 0x20 then
    ['\\', 'u', '0', '0', hexDigit (c.toNat / 16), hexDigit (c.toNat % 16)]
  else [c]

/-- A quoted text. -/
def quote (s : String) (rest : List Char) : List Char :=
  '"' :: (s.toList.flatMap escape ++ '"' :: rest)

mutual

/-- A value. -/
def write : Json → List Char → List Char
  | null, rest => 'n' :: 'u' :: 'l' :: 'l' :: rest
  | bool true, rest => 't' :: 'r' :: 'u' :: 'e' :: rest
  | bool false, rest => 'f' :: 'a' :: 'l' :: 's' :: 'e' :: rest
  | integer n, rest => (toString n).toList ++ rest
  | float x, rest => x.text.toList ++ rest
  | text s, rest => quote s rest
  | array items, rest => '[' :: writeItems items (']' :: rest)
  | object members, rest => '\x7b' :: writeMembers members ('\x7d' :: rest)

/-- Items with commas between them. -/
def writeItems : List Json → List Char → List Char
  | [], rest => rest
  | [j], rest => write j rest
  | j :: k :: js, rest => write j (',' :: writeItems (k :: js) rest)

/-- Members with commas between them. -/
def writeMembers : List (String × Json) → List Char → List Char
  | [], rest => rest
  | [(k, j)], rest => quote k (':' :: write j rest)
  | (k, j) :: m :: ms, rest => quote k (':' :: write j (',' :: writeMembers (m :: ms) rest))

end

/-- The compact text of a value. -/
def print (j : Json) : String := String.ofList (j.write [])

end Outbox.Json
