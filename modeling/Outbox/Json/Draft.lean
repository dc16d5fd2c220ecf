import Outbox.Json.Token

/-!
# JSON texts as far as they can be read

A `Draft` is the outline of a JSON text. It keeps what the text says in the order in
which it says it, up to the first place that is no JSON: members with the same key are
all there, and a container that is not properly closed is marked as not whole. What a
reader asks of a text may already be refused before that place, so a text with two
faults has the fault that comes first.

The outline is built by a machine that takes one token at a time and holds the open
containers on a stack; there is no limit to how deep they may be nested.
-/

namespace Outbox.Json

/-- A JSON text as far as it can be read. -/
inductive Draft where
  /-- The null value. -/
  | null
  /-- A truth value. -/
  | bool (b : Bool)
  /-- A number. -/
  | number (n : Number)
  /-- A text; nothing if it holds half a surrogate pair, or bytes that encode no
  character. -/
  | text (s : Option String)
  /-- The items of an array, and whether it is closed after them. -/
  | array (items : List Draft) (whole : Bool)
  /-- The members of an object, and whether it is closed after them. -/
  | object (members : List (Option String × Draft)) (whole : Bool)
  /-- An object that has a value of another kind where its first key should be. -/
  | misnamed
  /-- A value that is no JSON from its first character or token on. -/
  | broken

namespace Draft

/-! ### The machine -/

/-- A container that is not closed yet, with the newest of its parts first. -/
inductive Frame where
  /-- An array; a value in progress is its next item. -/
  | array (items : List Draft)
  /-- An object between two members. -/
  | object (members : List (Option String × Draft))
  /-- An object whose member with the given key is in progress. -/
  | member (members : List (Option String × Draft)) (key : Option String)

/-- What must come next inside a container or at the start of the text. -/
inductive Expected where
  /-- A value. -/
  | value
  /-- A value or the end of the array. -/
  | firstItem
  /-- A comma or the end of the array. -/
  | nextItem
  /-- A key or the end of the object. -/
  | firstKey
  /-- A key. -/
  | key
  /-- The colon after a key. -/
  | colon
  /-- A comma or the end of the object. -/
  | nextMember
  deriving DecidableEq

/-- The state of the machine. -/
inductive Machine where
  /-- Reading, with the innermost open container first. -/
  | reading (expected : Expected) (outer : List Frame)
  /-- The value is complete, or broken off; the flag tells that nothing follows it. -/
  | finished (draft : Draft) (alone : Bool)

/-- Breaks off inside the open containers, the innermost of which may hold the start of
one more value. -/
def breakOff : Option Draft → List Frame → Draft
  | d, [] => d.getD broken
  | d, .array items :: outer =>
    breakOff (some (array ((d.toList ++ items).reverse) false)) outer
  | _, .object members :: outer => breakOff (some (object members.reverse false)) outer
  | d, .member members key :: outer =>
    breakOff (some (object ((key, d.getD broken) :: members).reverse false)) outer

namespace Machine

/-- Puts a complete value where it belongs. -/
def deliver (d : Draft) : List Frame → Machine
  | [] => finished d true
  | .array items :: outer => reading .nextItem (.array (d :: items) :: outer)
  | .object members :: outer => reading .nextMember (.object members :: outer)
  | .member members key :: outer =>
    reading .nextMember (.object ((key, d) :: members) :: outer)

/-- Breaks off before a value. -/
def missing (outer : List Frame) : Machine := finished (breakOff (some broken) outer) false

/-- Breaks off between two values. -/
def cut (outer : List Frame) : Machine := finished (breakOff none outer) false

/-- The first token of a value. -/
def begin (t : Token) (outer : List Frame) : Machine :=
  match t with
  | .null => deliver null outer
  | .bool b => deliver (bool b) outer
  | .number n => deliver (number n) outer
  | .text s => deliver (text s) outer
  | .openArray => reading .firstItem (.array [] :: outer)
  | .openObject => reading .firstKey (.object [] :: outer)
  | .closeArray | .closeObject | .comma | .colon | .broken => missing outer

/-- Closes an array. -/
def closeArray : List Frame → Machine
  | .array items :: outer => deliver (array items.reverse true) outer
  | outer => cut outer

/-- Closes an object. -/
def closeObject : List Frame → Machine
  | .object members :: outer => deliver (object members.reverse true) outer
  | outer => cut outer

/-- Takes the key of a member. -/
def enter (key : Option String) : List Frame → Machine
  | .object members :: outer => reading .colon (.member members key :: outer)
  | outer => cut outer

/-- Breaks off at a value in the place of the first key of an object. -/
def misname : List Frame → Machine
  | .object _ :: outer => finished (breakOff (some misnamed) outer) false
  | outer => cut outer

/-- Takes the next token. -/
def step : Machine → Token → Machine
  | finished d _, _ => finished d false
  | reading .value outer, t => begin t outer
  | reading .firstItem outer, t =>
    match t with
    | .closeArray => closeArray outer
    | t => begin t outer
  | reading .nextItem outer, t =>
    match t with
    | .comma => reading .value outer
    | .closeArray => closeArray outer
    | _ => cut outer
  | reading .firstKey outer, t =>
    match t with
    | .text key => enter key outer
    | .closeObject => closeObject outer
    | .null | .bool _ | .openArray | .openObject => misname outer
    | .number (.integer _) | .number (.float _) => misname outer
    | _ => cut outer
  | reading .key outer, t =>
    match t with
    | .text key => enter key outer
    | _ => cut outer
  | reading .colon outer, t =>
    match t with
    | .colon => reading .value outer
    | _ => missing outer
  | reading .nextMember outer, t =>
    match t with
    | .comma => reading .key outer
    | .closeObject => closeObject outer
    | _ => cut outer

/-- The outline at the end of the text, and whether the value stands alone in it. -/
def close : Machine → Draft × Bool
  | finished d alone => (d, alone)
  | reading .value outer | reading .firstItem outer | reading .colon outer =>
    (breakOff (some broken) outer, false)
  | reading _ outer => (breakOff none outer, false)

end Machine

/-- The outline of a list of tokens, and whether its value stands alone there. -/
def ofTokens (ts : List Token) : Draft × Bool :=
  (ts.foldl Machine.step (.reading .value [])).close

/-- The outline of a text, and whether its value stands alone there. -/
def ofText (cs : List Char) : Draft × Bool := ofTokens (tokens (cs.map some))

/-- The outline of a text that comes as bytes, and whether its value stands alone there. -/
def ofBytes (bytes : List UInt8) : Draft × Bool := ofTokens (tokens (Text.Utf8.pieces bytes))

/-! ### Values that are at hand already -/

mutual

/-- The outline of a value. -/
def ofJson : Json → Draft
  | .null => null
  | .bool b => bool b
  | .integer n => number (.integer n)
  | .float x => number (.float x)
  | .text s => text (some s)
  | .array items => array (ofItems items) true
  | .object members => object (ofMembers members) true

/-- The outlines of some values. -/
def ofItems : List Json → List Draft
  | [] => []
  | j :: js => ofJson j :: ofItems js

/-- The outlines of some members. -/
def ofMembers : List (String × Json) → List (Option String × Draft)
  | [] => []
  | (k, j) :: ms => (some k, ofJson j) :: ofMembers ms

end

end Draft

end Outbox.Json
