import Outbox.Text.Printable
import Outbox.Text.Utf8
import Outbox.Url.Punycode

/-!
# Domain names

A domain name in an address is brought into one form: letters in lower case, full-width
forms as plain ones, invisible marks left out, and each label with characters beyond
ASCII in Punycode behind the mark `xn--`. A label that carries the mark must stand for
such a label. Characters that have a meaning in addresses are forbidden.
-/

namespace Outbox.Domain

open Outbox.Text

/-- A character that may not stand in a domain name. -/
def isForbidden (c : Char) : Bool :=
  c.toNat ≤ 0x20 || c.toNat = 0x7F || "%#/:<>?@[\\]^`\x7b|\x7d".toList.contains c

/-- A mark that changes the look of the character before it. -/
def isMark (c : Char) : Bool :=
  let n := c.toNat
  (0x300 ≤ n && n ≤ 0x36F) || (0x483 ≤ n && n ≤ 0x489) || (0x591 ≤ n && n ≤ 0x5BD) ||
    (0x610 ≤ n && n ≤ 0x61A) || (0x64B ≤ n && n ≤ 0x65F) || (0x93C ≤ n && n ≤ 0x94D) ||
    (0xE31 ≤ n && n ≤ 0xE4E) || (0x1AB0 ≤ n && n ≤ 0x1AFF) || (0x1DC0 ≤ n && n ≤ 0x1DFF) ||
    (0x20D0 ≤ n && n ≤ 0x20F0) || (0x3099 ≤ n && n ≤ 0x309A) || (0xFE20 ≤ n && n ≤ 0xFE2F)

/-- A character that is left out of a name. -/
def isIgnored (c : Char) : Bool :=
  let n := c.toNat
  n = 0xAD || n = 0x34F || n = 0x180F || n = 0x200B || n = 0x2060 || n = 0x2064 ||
    n = 0xFEFF || (0x180B ≤ n && n ≤ 0x180D) || (0xFE00 ≤ n && n ≤ 0xFE0F)

/-- The number of the lower-case form of the letter with a given number. -/
def lowerCode (n : Nat) : Nat :=
  if 0x41 ≤ n && n ≤ 0x5A then n + 0x20
  else if 0xC0 ≤ n && n ≤ 0xDE && n ≠ 0xD7 then n + 0x20
  else if n = 0x178 then 0xFF
  else if n = 0x17F then 0x73
  else if (0x139 ≤ n && n ≤ 0x148) || (0x179 ≤ n && n ≤ 0x17E) then
    (if n % 2 = 1 then n + 1 else n)
  else if 0x100 ≤ n && n ≤ 0x177 && n ≠ 0x131 && n ≠ 0x138 then
    (if n % 2 = 0 then n + 1 else n)
  else if n = 0x386 then 0x3AC
  else if 0x388 ≤ n && n ≤ 0x38A then n + 0x25
  else if n = 0x38C then 0x3CC
  else if n = 0x38E || n = 0x38F then n + 0x3F
  else if 0x391 ≤ n && n ≤ 0x3AB && n ≠ 0x3A2 then n + 0x20
  else if 0x400 ≤ n && n ≤ 0x40F then n + 0x50
  else if 0x410 ≤ n && n ≤ 0x42F then n + 0x20
  else if 0x460 ≤ n && n ≤ 0x481 then (if n % 2 = 0 then n + 1 else n)
  else if 0x48A ≤ n && n ≤ 0x4BF then (if n % 2 = 0 then n + 1 else n)
  else if 0x4D0 ≤ n && n ≤ 0x52F then (if n % 2 = 0 then n + 1 else n)
  else if 0x531 ≤ n && n ≤ 0x556 then n + 0x30
  else if 0x1E00 ≤ n && n ≤ 0x1E95 then (if n % 2 = 0 then n + 1 else n)
  else if 0x1EA0 ≤ n && n ≤ 0x1EFF then (if n % 2 = 0 then n + 1 else n)
  else n

/-- The plain form of a character. -/
def plain (c : Char) : Char :=
  let n := c.toNat
  if n = 0x3002 || n = 0xFF0E || n = 0xFF61 then '.'
  else if 0xFF01 ≤ n && n ≤ 0xFF5E then Char.ofNat (lowerCode (n - 0xFEE0))
  else if n = 0xA0 || n = 0x3000 then ' '
  else Char.ofNat (lowerCode n)

/-- A character that may stand in a name after it is brought into its plain form. -/
def isAllowed (c : Char) : Bool :=
  if c.toNat < 0x80 then !isForbidden c else isPrintable c || isMark c

/-- The parts of a name between its dots. -/
def labels (cs : List Char) : List (List Char) :=
  let (last, done) := cs.foldr
    (fun c (current, done) => if c = '.' then ([], current :: done) else (c :: current, done))
    ([], [])
  last :: done

/-- The mark of a label in Punycode. -/
def mark : List Char := "xn--".toList

/-- A label may be written: a mark does not come first. -/
def isLabel (cs : List Char) : Bool :=
  cs.all isAllowed && !(cs.head?.any isMark)

/-- A label in ASCII. -/
def labelToAscii? (cs : List Char) : Option (List Char) :=
  if cs.all fun c => c.toNat < 0x80 then
    if mark.isPrefixOf cs then
      match Punycode.decode? (cs.drop mark.length) with
      | some name =>
        if isLabel name && name.map plain == name && name.any fun c => 0x80 ≤ c.toNat then some cs
        else none
      | none => none
    else some cs
  else if isLabel cs && !mark.isPrefixOf cs then some (mark ++ Punycode.encode cs)
  else none

/-- A domain name in ASCII, from its bytes. -/
def toAscii? (bytes : List UInt8) : Option (List Char) := do
  let s ← Utf8.decode? bytes
  let cs := (s.toList.filter fun c => !isIgnored c).map plain
  if cs.all isAllowed then
    let ls ← (labels cs).mapM labelToAscii?
    some (List.intercalate ['.'] ls)
  else none

end Outbox.Domain
