import Outbox.Json.Value
import Outbox.Text.Utf8

/-!
# The words of a JSON text

A JSON text is read one character at a time: `Scanner.step` takes the next character
and says which tokens it completes. A character that fits nowhere yields the token
`broken`, after which nothing more is read. A text may come as bytes, and then some of
them may encode no character: `Scanner.stepPiece`.

Three things that are wrong inside a token do not break the text there and then, because
a value that nobody asks for may hold them: an escape for one half of a surrogate pair,
bytes in quotes that encode no character, and a number beyond the range of floating point.
-/

namespace Outbox.Json

/-- What a number in a text stands for. -/
inductive Number where
  /-- A number without point or exponent that fits in 64 bits, signed or not. -/
  | integer (n : Int)
  /-- Any other number in the range of floating point. -/
  | float (x : Binary64)
  /-- A number beyond that range. -/
  | tooLarge
  deriving DecidableEq

/-- A word of a JSON text. -/
inductive Token where
  /-- The word `null`. -/
  | null
  /-- The word `true` or `false`. -/
  | bool (b : Bool)
  /-- A number. -/
  | number (n : Number)
  /-- A quoted text; nothing if an escape in it stands for half a surrogate pair, or bytes
  in it encode no character. -/
  | text (s : Option String)
  /-- The bracket that opens an array. -/
  | openArray
  /-- The bracket that closes an array. -/
  | closeArray
  /-- The brace that opens an object. -/
  | openObject
  /-- The brace that closes an object. -/
  | closeObject
  /-- The comma between two items. -/
  | comma
  /-- The colon after a key. -/
  | colon
  /-- A place where the text is no JSON. -/
  | broken
  deriving DecidableEq

/-! ### Numbers -/

/-- A number as it is written: the digits before the point, those after it and the
exponent, each as far as present. -/
structure Numeral where
  /-- A minus sign stands in front. -/
  negative : Bool := false
  /-- The digits before the point, the last one first. -/
  whole : List Nat := []
  /-- The digits after the point, the last one first; nothing if there is no point. -/
  fraction : Option (List Nat) := none
  /-- The sign and digits of the exponent; nothing if there is none. -/
  exponent : Option (Bool × Nat) := none

namespace Numeral

/-- The greatest whole number of 64 bits. -/
def maxWhole : Nat := 18446744073709551615

/-- The least signed number of 64 bits. -/
def minSigned : Int := -9223372036854775808

/-- Appends digits to a whole number as long as it fits in 64 bits. Gives the number,
how many digits went in and how many are left out. -/
def collect : Nat → List Nat → Nat × Nat × Nat
  | n, [] => (n, 0, 0)
  | n, d :: ds =>
    if 10 * n + d ≤ maxWhole then
      let (n, taken, left) := collect (10 * n + d) ds
      (n, taken + 1, left)
    else (n, 0, ds.length + 1)

/-- The number as floating point: the leading digits that fit in 64 bits, times a power
of ten. -/
def toFloat? (a : Numeral) : Option Binary64 :=
  let (n, _, left) := collect 0 a.whole.reverse
  let (n, taken, _) := collect n (a.fraction.getD []).reverse
  let exponent : Int := match a.exponent with
    | none => 0
    | some (negative, e) => if negative then -(e : Int) else e
  (Binary64.ofDecimal? n (exponent + (left : Int) - (taken : Int))).map (Binary64.mk a.negative)

/-- The integer that a numeral without point and exponent stands for, if it fits. The
negative zero is no integer. -/
def toInteger? (a : Numeral) : Option Int :=
  if a.fraction.isSome || a.exponent.isSome then none
  else
    let n : Nat := a.whole.reverse.foldl (fun n d => 10 * n + d) 0
    if a.negative then
      if n = 0 ∨ -(n : Int) < minSigned then none else some (-(n : Int))
    else if n ≤ maxWhole then some n
    else none

/-- What a numeral stands for. -/
def toNumber (a : Numeral) : Number :=
  match a.toInteger? with
  | some n => .integer n
  | none =>
    match a.toFloat? with
    | some x => .float x
    | none => .tooLarge

end Numeral

/-! ### Scanning -/

/-- Where in a number the scanner stands. -/
inductive NumberPlace where
  /-- After the minus sign: a digit must follow. -/
  | sign
  /-- After a leading zero: no digit may follow. -/
  | zero
  /-- Among the digits before the point. -/
  | whole
  /-- After the point: a digit must follow. -/
  | point
  /-- Among the digits after the point. -/
  | fraction
  /-- After the letter of the exponent: a sign or a digit must follow. -/
  | mark
  /-- After the sign of the exponent: a digit must follow. -/
  | markSign
  /-- Among the digits of the exponent. -/
  | exponent
  deriving DecidableEq

/-- A quoted text as far as it is read. -/
structure Quote where
  /-- Its characters, the last one first. -/
  chars : List Char := []
  /-- The first half of a surrogate pair whose second half must follow. -/
  half : Option Nat := none
  /-- No half of a surrogate pair stood alone so far, and all bytes encoded characters. -/
  paired : Bool := true

namespace Quote

/-- Adds a character. -/
def push (q : Quote) (c : Char) : Quote :=
  { q with chars := c :: q.chars, half := none, paired := q.paired && q.half.isNone }

/-- Adds the character or half of a pair with a given code. -/
def pushCode (q : Quote) (n : Nat) : Quote :=
  match q.half with
  | some h =>
    if 0xDC00 ≤ n ∧ n ≤ 0xDFFF then
      { q with
        chars := Char.ofNat (0x10000 + (h - 0xD800) * 0x400 + (n - 0xDC00)) :: q.chars
        half := none }
    else if 0xD800 ≤ n ∧ n ≤ 0xDBFF then { q with half := some n, paired := false }
    else q.push (Char.ofNat n)
  | none =>
    if 0xD800 ≤ n ∧ n ≤ 0xDBFF then { q with half := some n }
    else if 0xDC00 ≤ n ∧ n ≤ 0xDFFF then { q with paired := false }
    else q.push (Char.ofNat n)

/-- The text that a quote holds, if all its pairs are complete. -/
def content (q : Quote) : Option String :=
  if q.paired && q.half.isNone then some (String.ofList q.chars.reverse) else none

end Quote

/-- What the scanner is reading. -/
inductive Scanner where
  /-- Nothing: the next character begins a token. -/
  | between
  /-- A word of which some letters are still to come. -/
  | word (rest : List Char) (token : Token)
  /-- A number. -/
  | number (place : NumberPlace) (numeral : Numeral)
  /-- A quoted text. -/
  | quote (q : Quote)
  /-- A quoted text, after a backslash. -/
  | escape (q : Quote)
  /-- A quoted text, in an escape of which `left` hexadecimal digits are to come. -/
  | code (q : Quote) (left value : Nat)
  /-- Nothing more: the text is no JSON. -/
  | stopped

namespace Scanner

/-- The value of a hexadecimal digit. -/
def hexValue? (c : Char) : Option Nat :=
  if '0' ≤ c ∧ c ≤ '9' then some (c.toNat - '0'.toNat)
  else if 'a' ≤ c ∧ c ≤ 'f' then some (c.toNat - 'a'.toNat + 10)
  else if 'A' ≤ c ∧ c ≤ 'F' then some (c.toNat - 'A'.toNat + 10)
  else none

/-- The value of a decimal digit. -/
def digit? (c : Char) : Option Nat :=
  if '0' ≤ c ∧ c ≤ '9' then some (c.toNat - '0'.toNat) else none

/-- The four characters that may stand between tokens. -/
def isSpace (c : Char) : Bool := c = ' ' || c = '\n' || c = '\t' || c = '\r'

/-- A character that begins a token. -/
def start (c : Char) : Scanner × List Token :=
  if isSpace c then (between, [])
  else if c = '[' then (between, [.openArray])
  else if c = ']' then (between, [.closeArray])
  else if c = '\x7b' then (between, [.openObject])
  else if c = '\x7d' then (between, [.closeObject])
  else if c = ',' then (between, [.comma])
  else if c = ':' then (between, [.colon])
  else if c = '"' then (quote {}, [])
  else if c = 'n' then (word ['u', 'l', 'l'] .null, [])
  else if c = 't' then (word ['r', 'u', 'e'] (.bool true), [])
  else if c = 'f' then (word ['a', 'l', 's', 'e'] (.bool false), [])
  else if c = '-' then (number .sign { negative := true }, [])
  else
    match digit? c with
    | some 0 => (number .zero { whole := [0] }, [])
    | some d => (number .whole { whole := [d] }, [])
    | none => (stopped, [.broken])

/-- The end of a number before the character that follows it. -/
def finish (a : Numeral) (c : Char) : Scanner × List Token :=
  let (next, tokens) := start c
  (next, .number a.toNumber :: tokens)

/-- A character after some of a number. -/
def inNumber (place : NumberPlace) (a : Numeral) (c : Char) : Scanner × List Token :=
  let broken : Scanner × List Token := (stopped, [.broken])
  let isMark := c = 'e' || c = 'E'
  match place, digit? c with
  | .sign, some 0 => (number .zero { a with whole := [0] }, [])
  | .sign, some d => (number .whole { a with whole := [d] }, [])
  | .sign, none => broken
  | .zero, some _ => broken
  | .whole, some d => (number .whole { a with whole := d :: a.whole }, [])
  | .zero, none | .whole, none =>
    if c = '.' then (number .point { a with fraction := some [] }, [])
    else if isMark then (number .mark a, [])
    else finish a c
  | .point, some d | .fraction, some d =>
    (number .fraction { a with fraction := some (d :: a.fraction.getD []) }, [])
  | .point, none => broken
  | .fraction, none => if isMark then (number .mark a, []) else finish a c
  | .mark, some d => (number .exponent { a with exponent := some (false, d) }, [])
  | .mark, none =>
    if c = '+' then (number .markSign { a with exponent := some (false, 0) }, [])
    else if c = '-' then (number .markSign { a with exponent := some (true, 0) }, [])
    else broken
  | .markSign, some d | .exponent, some d =>
    let (sign, e) := a.exponent.getD (false, 0)
    (number .exponent { a with exponent := some (sign, 10 * e + d) }, [])
  | .markSign, none => broken
  | .exponent, none => finish a c

/-- The character that an escape of one letter stands for. -/
def escaped? (c : Char) : Option Char :=
  if c = '"' ∨ c = '\\' ∨ c = '/' then some c
  else if c = 'b' then some '\x08'
  else if c = 'f' then some '\x0c'
  else if c = 'n' then some '\n'
  else if c = 'r' then some '\r'
  else if c = 't' then some '\t'
  else none

/-- Takes the next character. -/
def step : Scanner → Char → Scanner × List Token
  | between, c => start c
  | word [] token, c =>
    let (next, tokens) := start c
    (next, token :: tokens)
  | word [l] token, c => if c = l then (between, [token]) else (stopped, [.broken])
  | word (l :: rest) token, c =>
    if c = l then (word rest token, []) else (stopped, [.broken])
  | number place a, c => inNumber place a c
  | quote q, c =>
    if c = '"' then (between, [.text q.content])
    else if c = '\\' then (escape q, [])
    else if c.toNat < 0x20 then (stopped, [.broken])
    else (quote (q.push c), [])
  | escape q, c =>
    if c = 'u' then (code q 4 0, [])
    else
      match escaped? c with
      | some d => (quote (q.push d), [])
      | none => (stopped, [.broken])
  | code q left value, c =>
    match hexValue? c with
    | none => (stopped, [.broken])
    | some d =>
      if left ≤ 1 then (quote (q.pushCode (16 * value + d)), [])
      else (code q (left - 1) (16 * value + d), [])
  | stopped, _ => (stopped, [])

/-- Takes the next character, or bytes that encode none. In quotes these are passed over as
part of the text; anywhere else they fit as little as a character that fits nowhere. -/
def stepPiece : Scanner → Text.Utf8.Piece → Scanner × List Token
  | s, some c => s.step c
  | quote q, none => (quote { q with paired := false }, [])
  | s, none => s.step '\ufffd'

/-- The tokens that the end of the text completes. -/
def close : Scanner → List Token
  | between | stopped => []
  | number place a =>
    match place with
    | .zero | .whole | .fraction | .exponent => [.number a.toNumber]
    | _ => [.broken]
  | _ => [.broken]

end Scanner

/-- The tokens of a text, in order, with what the scanner holds at its end. -/
def scan (pieces : List Text.Utf8.Piece) : Scanner × List Token :=
  let (scanner, tokens) := pieces.foldl
    (fun (scanner, tokens) p =>
      let (next, found) := Scanner.stepPiece scanner p
      (next, found.reverse ++ tokens))
    (Scanner.between, [])
  (scanner, tokens.reverse)

/-- The tokens of a text. -/
def tokens (pieces : List Text.Utf8.Piece) : List Token :=
  let (scanner, found) := scan pieces
  found ++ scanner.close

end Outbox.Json
