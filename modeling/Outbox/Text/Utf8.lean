/-!
# UTF-8

Bytes are decoded one at a time. A byte that cannot continue the character in progress
ends it as an error and is then looked at afresh, so each longest start of a character
that breaks off counts as one error. Where errors are tolerated, each becomes one
replacement character.
-/

namespace Outbox.Text.Utf8

/-- The state between two bytes. -/
inductive State where
  /-- Between two characters. -/
  | between
  /-- Inside a character: how many bytes are still to come, the bounds for the next one,
  and the bits so far. -/
  | inside (left low high bits : Nat)

/-- A decoded character, or nothing for an error. -/
abbrev Piece := Option Char

/-- The first byte of a character. -/
def first (b : Nat) : State × List Piece :=
  if b < 0x80 then (.between, [some (Char.ofNat b)])
  else if b < 0xC2 then (.between, [none])
  else if b < 0xE0 then (.inside 1 0x80 0xBF (b - 0xC0), [])
  else if b < 0xF0 then
    (.inside 2 (if b = 0xE0 then 0xA0 else 0x80) (if b = 0xED then 0x9F else 0xBF)
      (b - 0xE0), [])
  else if b < 0xF5 then
    (.inside 3 (if b = 0xF0 then 0x90 else 0x80) (if b = 0xF4 then 0x8F else 0xBF)
      (b - 0xF0), [])
  else (.between, [none])

/-- The next byte. -/
def step : State → Nat → State × List Piece
  | .between, b => first b
  | .inside left low high bits, b =>
    if low ≤ b ∧ b ≤ high then
      let bits := bits * 64 + (b - 0x80)
      if left ≤ 1 then (.between, [some (Char.ofNat bits)])
      else (.inside (left - 1) 0x80 0xBF bits, [])
    else
      let (next, found) := first b
      (next, none :: found)

/-- The end of the bytes. -/
def close : State → List Piece
  | .between => []
  | .inside .. => [none]

/-- The characters and errors of some bytes, in order. -/
def pieces (bytes : List UInt8) : List Piece :=
  let (state, found) := bytes.foldl
    (fun (state, found) b =>
      let (next, more) := step state b.toNat
      (next, more.reverse ++ found))
    (State.between, [])
  found.reverse ++ close state

/-- The text that some bytes encode, if they are valid. -/
def decode? (bytes : List UInt8) : Option String :=
  ((pieces bytes).mapM id).map String.ofList

/-- The text that some bytes encode, with a replacement character for each error. -/
def decodeLossy (bytes : List UInt8) : String :=
  String.ofList ((pieces bytes).map fun p => p.getD '\ufffd')

/-- The bytes of a text. -/
def encode (cs : List Char) : List UInt8 := cs.flatMap String.utf8EncodeChar

end Outbox.Text.Utf8
