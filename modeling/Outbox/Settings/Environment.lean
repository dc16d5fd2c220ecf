import Outbox.Decimal.Parse
import Outbox.Settings.Value
import Outbox.Text.Blank

/-!
# Settings in the environment

The value of a variable is a word: a truth value, a number, a quoted text, a list or a
table; a value that is none of these is the text that it is. A name with points in it
names a field inside a table.
-/

namespace Outbox.Settings.Environment

open Outbox.Text

/-- White space between the parts of a value. -/
def isSpace (c : Char) : Bool :=
  c = ' ' || c = '\t' || c = '\n' || c = '\x0c' || c = '\r'

/-- A text without the white space it begins with. -/
def skip (cs : List Char) : List Char := cs.dropWhile isSpace

/-- The characters that end a word. -/
def isSeparator (c : Char) : Bool := ",\x7b\x7d[]".toList.contains c

/-- A character by its number in hexadecimal digits. -/
def code? (digits : List Char) : Option Char :=
  let value := digits.foldlM
    (fun (n : Nat) c =>
      if c.isDigit then some (16 * n + (c.toNat - '0'.toNat))
      else if 'a' ≤ c.toLower ∧ c.toLower ≤ 'f' then
        some (16 * n + (c.toLower.toNat - 'a'.toNat + 10))
      else none) 0
  value.bind fun n => if n.isValidChar then some (Char.ofNat n) else none

/-- The content of a quoted text without its escapes. -/
def unescape : List Char → Option (List Char)
  | [] => some []
  | '\\' :: 'u' :: a :: b :: c :: d :: rest => do
    let x ← code? [a, b, c, d]
    return x :: (← unescape rest)
  | '\\' :: 'U' :: a :: b :: c :: d :: e :: f :: g :: h :: rest => do
    let x ← code? [a, b, c, d, e, f, g, h]
    return x :: (← unescape rest)
  | '\\' :: c :: rest => do
    let x ← match c with
      | 'b' => some '\x08'
      | 't' => some '\t'
      | 'n' => some '\n'
      | 'f' => some '\x0c'
      | 'r' => some '\r'
      | '"' => some '"'
      | '\\' => some '\\'
      | _ => none
    return x :: (← unescape rest)
  | ['\\'] => none
  | c :: rest => do return c :: (← unescape rest)

/-- The characters of a quoted text up to the quote that ends it, and what follows. -/
def spanQuoted : List Char → Option (List Char × List Char)
  | [] => none
  | '"' :: rest => some ([], rest)
  | '\\' :: c :: rest => (spanQuoted rest).map fun (s, rest) => ('\\' :: c :: s, rest)
  | c :: rest => (spanQuoted rest).map fun (s, rest) => (c :: s, rest)

/-- A quoted text behind its first quote. -/
def quoted? (cs : List Char) : Option (List Char × List Char) := do
  let (inner, rest) ← spanQuoted cs
  let s ← unescape inner
  some (s, rest)

/-- A word as a value. -/
def word (cs : List Char) : Value :=
  let cs := trimChars cs
  let float := if cs.contains '.' then Decimal.parse? cs else none
  match float with
  | some x => .float x
  | none =>
    match Digits.integer? cs with
    | some n =>
      if -9223372036854775808 ≤ n ∧ n ≤ 18446744073709551615 then .integer n
      else .text (String.ofList cs)
    | none => .text (String.ofList cs)

/-- The key of a member of a table. -/
def key? (cs : List Char) : Option (List Char) :=
  match cs with
  | '"' :: rest => (quoted? rest).map (·.2)
  | _ =>
    let isKey (c : Char) : Bool := !isSeparator c && c ≠ '='
    if (cs.takeWhile isKey).isEmpty then none else some (cs.dropWhile isKey)

/-- What may be read of a text, by the place in it. -/
inductive Goal where
  /-- A value. -/
  | value
  /-- The rest of a list. -/
  | items
  /-- The rest of a table. -/
  | members

/-- Reads a value, or the rest of a list or table, and gives what follows. -/
def read : Nat → Goal → List Char → Option (Value × List Char)
  | 0, _, _ => none
  | fuel + 1, .value, cs =>
    match skip cs with
    | 't' :: 'r' :: 'u' :: 'e' :: rest => some (.flag true, skip rest)
    | 'f' :: 'a' :: 'l' :: 's' :: 'e' :: rest => some (.flag false, skip rest)
    | '[' :: rest => read fuel .items rest
    | '\x7b' :: rest => read fuel .members rest
    | '"' :: rest => (quoted? rest).map fun (s, rest) => (.text (String.ofList s), skip rest)
    | '\'' :: c :: '\'' :: rest => some (.text (String.ofList [c]), skip rest)
    | '\'' :: _ => none
    | rest =>
      some (word (rest.takeWhile fun c => !isSeparator c),
        skip (rest.dropWhile fun c => !isSeparator c))
  | fuel + 1, .items, cs =>
    match skip cs with
    | ']' :: rest => some (.compound, skip rest)
    | cs => do
      let (_, rest) ← read fuel .value cs
      match rest with
      | ',' :: rest => read fuel .items rest
      | ']' :: rest => some (.compound, skip rest)
      | _ => none
  | fuel + 1, .members, cs =>
    match skip cs with
    | '\x7d' :: rest => some (.compound, skip rest)
    | cs => do
      let rest ← key? cs
      match skip rest with
      | '=' :: rest => do
        let (_, rest) ← read fuel .value rest
        match rest with
        | ',' :: rest => read fuel .members rest
        | '\x7d' :: rest => some (.compound, skip rest)
        | _ => none
      | _ => none

/-- The value of a variable. -/
def value (s : String) : Value :=
  match read (2 * s.length + 2) .value s.toList with
  | some (v, []) => v
  | _ => .text s

/-- The field that a variable gives a value to. A name with points gives a table. -/
def entry? (name text : String) : Option (String × Value) :=
  let name := (trimChars name.toList).map Char.toLower
  match name.splitOn '.' with
  | [] => none
  | [key] => if key.isEmpty then none else some (String.ofList key, value text)
  | key :: inner :: _ =>
    if key.isEmpty then none
    else some (String.ofList key, if inner.isEmpty then value text else .compound)

end Outbox.Settings.Environment
