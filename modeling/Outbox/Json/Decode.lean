import Outbox.Json.Draft
import Outbox.Time.Span
import Outbox.Time.Timestamp

/-!
# Decoding JSON

A decoder takes the outline of a JSON text and asks it for a value of some type. It
goes through the text in the order of writing and stops at the first fault, which is one
of two kinds: the text is no JSON there, or it is JSON of the wrong shape.

A record is read from an object, with its fields by name, or from an array, with its
fields in order. Members with unknown names are passed over, a name that occurs twice is
a fault, and each field says what it means when it is absent.

Values that are asked for may be nested 127 deep; those passed over have no limit.
-/

namespace Outbox.Json

/-- What is wrong with a text. -/
inductive Fault where
  /-- It is no JSON. -/
  | malformed
  /-- It is JSON of the wrong shape. -/
  | mismatch
  deriving DecidableEq, Repr

/-- How deep the values may be nested that are asked for. -/
def maxDepth : Nat := 127

/-- Reads a value, given how many levels of containers it may still open. -/
abbrev Decoder (α : Type) := Nat → Draft → Except Fault α

namespace Draft

mutual

/-- The outline has no place that is no JSON. -/
def isWhole : Draft → Bool
  | broken | misnamed => false
  | array items whole => allWhole items && whole
  | object members whole => membersWhole members && whole
  | null | bool _ | number _ | text _ => true

/-- All of some outlines are whole. -/
def allWhole : List Draft → Bool
  | [] => true
  | d :: ds => isWhole d && allWhole ds

/-- The values of some members are all whole. -/
def membersWhole : List (Option String × Draft) → Bool
  | [] => true
  | (_, d) :: ms => isWhole d && membersWhole ms

end

/-- The fault of a value of another kind than the one asked for. A value has to be read
before its kind is known, so a fault inside a text or number comes first. -/
def refuse : Draft → Fault
  | broken | text none | number .tooLarge => .malformed
  | _ => .mismatch

end Draft

namespace Decoder

/-! ### Plain values -/

/-- A text. -/
def text : Decoder String
  | _, .text (some s) => .ok s
  | _, d => .error d.refuse

/-- A truth value. -/
def bool : Decoder Bool
  | _, .bool b => .ok b
  | _, d => .error d.refuse

/-- An integer between two bounds. -/
def integer (low high : Int) : Decoder Int
  | _, .number (.integer n) => if low ≤ n ∧ n ≤ high then .ok n else .error .mismatch
  | _, d => .error d.refuse

/-- A natural number up to a bound. -/
def natural (high : Nat) : Decoder Nat := fun depth d =>
  (integer 0 high depth d).map Int.toNat

/-- A number in floating point. -/
def float : Decoder Binary64
  | _, .number (.integer n) => .ok (.ofInt n)
  | _, .number (.float x) => .ok x
  | _, d => .error d.refuse

/-- An instant. -/
def instant : Decoder Instant := fun depth d => do
  let s ← text depth d
  match Instant.ofTimestamp? s with
  | some t => .ok t
  | none => .error .mismatch

/-- A value or null. -/
def optional {α : Type} (decode : Decoder α) : Decoder (Option α)
  | _, .null => .ok none
  | depth, d => (decode depth d).map some

/-- A name out of a list, as a text or as the only key of an object with a null. Nothing
else can begin a name, so a value of another kind breaks the text; where the key should be
it is of the wrong shape. -/
def name {α : Type} (ofName? : String → Option α) : Decoder α
  | _, .text (some s) => (ofName? s).elim (.error .mismatch) .ok
  | 0, .object _ _ | 0, .misnamed => .error .malformed
  | _, .misnamed => .error .mismatch
  | _, .object ((some s, d) :: rest) whole =>
    match ofName? s with
    | none => .error .mismatch
    | some a =>
      match d with
      | .null => if rest.isEmpty && whole then .ok a else .error .malformed
      | d => .error d.refuse
  | _, _ => .error .malformed

mutual

/-- Any value. -/
def json : Decoder Json
  | _, .null => .ok .null
  | _, .bool b => .ok (.bool b)
  | _, .number (.integer n) => .ok (.integer n)
  | _, .number (.float x) => .ok (.float x)
  | _, .number .tooLarge => .error .malformed
  | _, .text (some s) => .ok (.text s)
  | _, .text none => .error .malformed
  | 0, .array _ _ => .error .malformed
  | depth + 1, .array items whole => do
    let items ← jsonItems depth items
    if whole then .ok (.array items) else .error .malformed
  | 0, .object _ _ => .error .malformed
  | depth + 1, .object members whole => do
    let members ← jsonMembers depth members
    if whole then .ok (Json.ofMembers members) else .error .malformed
  | _, .misnamed | _, .broken => .error .malformed

/-- The items of an array. -/
def jsonItems (depth : Nat) : List Draft → Except Fault (List Json)
  | [] => .ok []
  | d :: ds => do
    let j ← json depth d
    let js ← jsonItems depth ds
    .ok (j :: js)

/-- The members of an object. -/
def jsonMembers (depth : Nat) :
    List (Option String × Draft) → Except Fault (List (String × Json))
  | [] => .ok []
  | (none, _) :: _ => .error .malformed
  | (some k, d) :: ms => do
    let j ← json depth d
    let rest ← jsonMembers depth ms
    .ok ((k, j) :: rest)

end

end Decoder

/-! ### Records -/

/-- What a field means that is absent. -/
inductive Omission where
  /-- The record is refused. -/
  | refused
  /-- The field keeps what the record starts with if the record is an object. -/
  | inObject
  /-- The field keeps what the record starts with. -/
  | anywhere
  deriving DecidableEq

/-- A field of a record. -/
structure Field (σ : Type) where
  /-- The names by which it goes in an object. -/
  names : List String
  /-- Reads its value and puts it into the record. -/
  read : Nat → Draft → σ → Except Fault σ
  /-- What its absence means. -/
  omission : Omission

namespace Field

/-- A field that has to be there. -/
def required {σ α : Type} (name : String) (decode : Decoder α) (put : α → σ → σ) : Field σ :=
  ⟨[name], fun depth d r => (decode depth d).map fun a => put a r, .refused⟩

/-- A field that is nothing when it is null, or absent from an object. -/
def nullable {σ α : Type} (name : String) (decode : Decoder α) (put : Option α → σ → σ) :
    Field σ :=
  ⟨[name], fun depth d r => (Decoder.optional decode depth d).map fun a => put a r, .inObject⟩

/-- A field that may be left out. -/
def defaulted {σ α : Type} (names : List String) (decode : Decoder α) (put : α → σ → σ) :
    Field σ :=
  ⟨names, fun depth d r => (decode depth d).map fun a => put a r, .anywhere⟩

/-- Where among some fields the one with a given name stands. -/
def index? {σ : Type} (fields : List (Field σ)) (name : String) : Option Nat :=
  fields.findIdx? fun f => f.names.contains name

/-- Reads the members of an object; `strict` refuses unknown names. Gives the record and
the places of the fields that were there. -/
def readMembers {σ : Type} (fields : List (Field σ)) (strict : Bool) (depth : Nat) :
    List (Option String × Draft) → List Nat → σ → Except Fault (σ × List Nat)
  | [], seen, r => .ok (r, seen)
  | (none, _) :: _, _, _ => .error .malformed
  | (some k, d) :: rest, seen, r =>
    match index? fields k with
    | none =>
      if strict then .error .mismatch
      else if d.isWhole then readMembers fields strict depth rest seen r
      else .error .malformed
    | some i =>
      if i ∈ seen then .error .mismatch
      else
        match fields[i]? with
        | none => .error .mismatch
        | some f => do
          let r ← f.read depth d r
          readMembers fields strict depth rest (i :: seen) r

/-- Reads the items of an array that is `whole` or not. -/
def readItems {σ : Type} (depth : Nat) (whole : Bool) :
    List (Field σ) → List Draft → σ → Except Fault σ
  | [], [], r => if whole then .ok r else .error .malformed
  | [], _ :: _, _ => .error .malformed
  | f :: fields, [], r =>
    if !whole then .error .malformed
    else if f.omission = .anywhere then readItems depth whole fields [] r
    else .error .mismatch
  | f :: fields, d :: ds, r => do
    let r ← f.read depth d r
    readItems depth whole fields ds r

/-- Every field that must be there was there. -/
def complete {σ : Type} (fields : List (Field σ)) (seen : List Nat) : Bool :=
  fields.zipIdx.all fun (f, i) => f.omission ≠ .refused || seen.contains i

/-- Reads a record that starts out as `r`. -/
def record {σ : Type} (fields : List (Field σ)) (strict : Bool) (r : σ) : Decoder σ
  | 0, .array _ _ | 0, .object _ _ => .error .malformed
  | depth + 1, .array items whole => readItems depth whole fields items r
  | depth + 1, .object members whole => do
    let (r, seen) ← readMembers fields strict depth members [] r
    if !whole then .error .malformed
    else if complete fields seen then .ok r
    else .error .mismatch
  | _, .misnamed => .error .malformed
  | _, d => .error d.refuse

end Field

namespace Decoder

/-- A record with fields of any other name passed over. -/
def record {σ : Type} (fields : List (Field σ)) (start : σ) : Decoder σ :=
  Field.record fields false start

/-- A span of time: seconds and nanoseconds. A thousand million nanoseconds and more are
carried into the seconds. -/
def span : Decoder Span := fun depth d => do
  let (seconds, nanos) ← Field.record (σ := Nat × Nat)
    [ .required "secs" (natural 18446744073709551615) fun s r => (s, r.2),
      .required "nanos" (natural 4294967295) fun n r => (r.1, n) ]
    true (0, 0) depth d
  match Span.ofNanos? (seconds * nanosPerSecond + nanos) with
  | some a => .ok a
  | none => .error .mismatch

end Decoder

/-! ### Whole texts -/

/-- The value that an outline is of, which must stand alone. -/
def decodeDraft {α : Type} (decode : Decoder α) (d : Draft × Bool) : Except Fault α := do
  let a ← decode maxDepth d.1
  if d.2 then .ok a else .error .malformed

/-- The value that a whole text holds. -/
def decodeText {α : Type} (decode : Decoder α) (s : String) : Except Fault α :=
  decodeDraft decode (Draft.ofText s.toList)

/-- The value that a whole text holds that comes as bytes. -/
def decodeBytes {α : Type} (decode : Decoder α) (bytes : List UInt8) : Except Fault α :=
  decodeDraft decode (Draft.ofBytes bytes)

/-- The value that a value at hand stands for. -/
def decodeJson {α : Type} (decode : Decoder α) (j : Json) : Except Fault α :=
  decode maxDepth (Draft.ofJson j)

/-- The JSON value that a text holds, if it is JSON. -/
def parse? (s : String) : Option Json := (decodeText Decoder.json s).toOption

end Outbox.Json
