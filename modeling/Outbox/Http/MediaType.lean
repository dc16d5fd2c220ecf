import Outbox.Text.Blank

/-!
# Media types

The value of a content type header: a type, a subtype and parameters. What a parameter
says does not matter here, but a value that is written wrongly names no type at all.
-/

namespace Outbox.Http

/-- A type and subtype in lower case. -/
structure MediaType where
  /-- What comes before the slash. -/
  type : List Char
  /-- What comes after it, up to the parameters. -/
  subtype : List Char
  deriving DecidableEq

namespace MediaType

/-- The characters of a token. -/
def isToken (c : Char) : Bool :=
  c.isAlphanum || "!#$%&'*+-.^_`|~".toList.contains c

/-- The characters that may stand in a quoted value. -/
def isQuotable (c : Char) : Bool := 0x20 ≤ c.toNat && c.toNat ≠ 0x7F

/-- Where in the parameters a reader stands. -/
inductive Place where
  /-- Before a parameter or the end. -/
  | before
  /-- In the name of a parameter. -/
  | name
  /-- Right after the equals sign. -/
  | start
  /-- In a value without quotes; the flag tells that it has begun. -/
  | value
  /-- In a value with quotes; the flag tells that it has begun. -/
  | quoted (begun : Bool)
  /-- After a value with quotes. -/
  | after
  deriving DecidableEq

/-- Takes the next character of the parameters. -/
def Place.step : Place → Char → Option Place
  | before, c => if c = ' ' then some before else if isToken c then some name else none
  | name, c => if isToken c then some name else if c = '=' then some start else none
  | start, c => if c = '"' then some (quoted false) else if isToken c then some value else none
  | value, c => if isToken c then some value else if c = ';' then some before else none
  | quoted begun, c =>
    if c = '"' ∧ begun then some after else if isQuotable c then some (quoted true) else none
  | after, c => if c = ';' then some before else if c = ' ' then some after else none

/-- The parameters may end here. -/
def Place.mayEnd : Place → Bool
  | before | start | value | after => true
  | name | quoted _ => false

/-- A list of parameters is written correctly. -/
def parametersOk (cs : List Char) : Bool :=
  (cs.foldlM Place.step Place.before).any Place.mayEnd

/-- The media type that a header value names. -/
def parse? (s : String) : Option MediaType :=
  let cs := s.toList
  let type := cs.takeWhile isToken
  match cs.dropWhile isToken with
  | '/' :: rest =>
    let subtype := rest.takeWhile isToken
    if type.isEmpty || subtype.isEmpty then none
    else
      let found : MediaType := ⟨type.map Char.toLower, subtype.map Char.toLower⟩
      match rest.dropWhile isToken with
      | [] => some found
      | ';' :: parameters => if parametersOk parameters then some found else none
      | _ => none
  | _ => none

/-- A subtype up to its last plus sign, and what follows it. A plus sign that comes first
belongs to the subtype. -/
def splitSuffix (subtype : List Char) : List Char × Option (List Char) :=
  let reversed := subtype.reverse
  let suffix := (reversed.takeWhile (· ≠ '+')).reverse
  match reversed.dropWhile (· ≠ '+') with
  | _ :: base@(_ :: _) => (base.reverse, some suffix)
  | _ => (subtype, none)

/-- The media type is JSON, or a format that is written as JSON. -/
def isJson (m : MediaType) : Bool :=
  let (base, suffix) := splitSuffix m.subtype
  m.type == "application".toList && (base == "json".toList || suffix == some "json".toList)

end MediaType

end Outbox.Http
