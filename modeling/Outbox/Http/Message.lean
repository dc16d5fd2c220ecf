import Outbox.Json.Value
import Outbox.Text.Percent

/-!
# Requests and responses

A request as a client sends it, and a response as it gets it. The address is split into
a path and a query; what follows a number sign never reaches the server. A body is any
sequence of bytes, whether or not they are those of a text.
-/

namespace Outbox.Http

/-- Some bytes. -/
abbrev Bytes := List UInt8

/-- A text is sent as the bytes that encode it. -/
instance : Coe String Bytes := ⟨fun s => Text.Utf8.encode s.toList⟩

/-- A request. -/
structure Request where
  /-- The method. -/
  method : String
  /-- The path and query. -/
  target : String
  /-- The content type, if the header is there. -/
  contentType : Option String := none
  /-- The body. -/
  body : Bytes := []

namespace Request

/-- The characters of the target up to a number sign. -/
def visible (r : Request) : List Char := r.target.toList.takeWhile (· ≠ '#')

/-- The path. -/
def path (r : Request) : List Char := r.visible.takeWhile (· ≠ '?')

/-- The query, without the question mark. -/
def query (r : Request) : List Char := (r.visible.dropWhile (· ≠ '?')).drop 1

end Request

/-! ### Queries -/

/-- Splits a list at every occurrence of a character. -/
def splitAt (sep : Char) (cs : List Char) : List (List Char) :=
  let (last, done) := cs.foldr
    (fun c (current, done) => if c = sep then ([], current :: done) else (c :: current, done))
    ([], [])
  last :: done

/-- A name or value of a query: plus signs are spaces, and what is percent-encoded is
decoded. -/
def formText (cs : List Char) : String :=
  Text.Utf8.decodeLossy (Text.Percent.decode (cs.map fun c => if c = '+' then ' ' else c))

/-- The names and values of a query, in order. -/
def formPairs (query : List Char) : List (String × String) :=
  ((splitAt '&' query).filter fun part => !part.isEmpty).map fun part =>
    (formText (part.takeWhile (· ≠ '=')), formText ((part.dropWhile (· ≠ '=')).drop 1))

/-! ### Responses -/

/-- What a response carries. -/
inductive Body where
  /-- Nothing. -/
  | empty
  /-- A JSON value. -/
  | json (j : Json)
  /-- A text that says why a request was not understood. -/
  | text (s : String)
  deriving DecidableEq

/-- A response. -/
structure Response where
  /-- The status code. -/
  status : Nat
  /-- What the response carries. -/
  body : Body := .empty
  /-- The methods that the path allows, where another one was used. -/
  allow : Option String := none
  /-- The content type; it stays when the body is left out. -/
  contentType : Option String := none
  deriving DecidableEq

namespace Response

/-- A response with a JSON value. -/
def json (status : Nat) (j : Json) : Response :=
  { status := status, body := .json j, contentType := some "application/json" }

/-- A response with a text. -/
def text (status : Nat) (s : String) : Response :=
  { status := status, body := .text s, contentType := some "text/plain; charset=utf-8" }

/-- A response that carries nothing. -/
def empty (status : Nat) : Response := { status := status }

/-- The response without what it carries. -/
def headOnly (r : Response) : Response := { r with body := .empty }

end Response

end Outbox.Http
