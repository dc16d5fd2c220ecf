import Outbox.Text.Blank
import Outbox.Url.Host

/-!
# Addresses of resources

An absolute address is read into its parts and written in one normal form. Tabs and line
ends in it are dropped, and so are controls and spaces around it. For the schemes that
are known to have a host and a path of segments, a backslash counts as a slash and any
number of slashes may come before the host.

A path is a list of segments; a path that ends in a slash has an empty last segment. A
segment of one dot, plain or percent-encoded, says nothing, and one of two dots takes
back the segment before it.
-/

namespace Outbox.Url

/-- A path. -/
inductive Path where
  /-- Text that is no path of segments. -/
  | rootless (text : List Char)
  /-- Segments, each percent-encoded. -/
  | segments (parts : List (List Char))
  deriving DecidableEq, Repr

end Outbox.Url

namespace Outbox

/-- An absolute address. -/
structure Url where
  /-- The scheme, in lower case. -/
  scheme : List Char
  /-- The user name, percent-encoded. -/
  username : List Char := []
  /-- The password, percent-encoded. -/
  password : List Char := []
  /-- The host, if there is one. -/
  host : Option Url.Host := none
  /-- The port, if it is not the usual one of the scheme. -/
  port : Option Nat := none
  /-- The path. -/
  path : Url.Path
  /-- The query, percent-encoded. -/
  query : Option (List Char) := none
  /-- The fragment, percent-encoded. -/
  fragment : Option (List Char) := none
  deriving DecidableEq, Repr

namespace Url

/-! ### Which characters are percent-encoded -/

/-- Characters that are encoded in a fragment. -/
def reservedInFragment (c : Char) : Bool := isControl c || " \"<>`".toList.contains c

/-- Characters that are encoded in a path. -/
def reservedInPath (c : Char) : Bool :=
  reservedInFragment c || "#?\x7b\x7d".toList.contains c

/-- Characters that are encoded in a segment that is added to a path. -/
def reservedInSegment (c : Char) : Bool := reservedInPath c || "/%\\".toList.contains c

/-- Characters that are encoded in a user name or password. -/
def reservedInUser (c : Char) : Bool := reservedInPath c || "/:;=@[\\]^|".toList.contains c

/-- Characters that are encoded in a query. -/
def reservedInQuery (known : Bool) (c : Char) : Bool :=
  isControl c || " \"#<>".toList.contains c || (known && c = '\'')

/-! ### Paths -/

/-- A segment that stands for the place where it is. -/
def isDot (segment : List Char) : Bool :=
  ["."].contains (Text.lower (String.ofList segment)) ||
    Text.lower (String.ofList segment) == "%2e"

/-- A segment that stands for the place above. -/
def isDoubleDot (segment : List Char) : Bool :=
  ["..", "%2e%2e", "%2e.", ".%2e"].contains (Text.lower (String.ofList segment))

/-- Adds a segment to those before it, which are given in reverse; `last` tells that no
slash follows it. -/
def addSegment (before : List (List Char)) (segment : List Char) (last : Bool) :
    List (List Char) :=
  if isDoubleDot segment then (if last then [] :: before.drop 1 else before.drop 1)
  else if isDot segment then (if last then [] :: before else before)
  else segment :: before

/-- Adds segments to those before them, which are given in reverse. -/
def addSegments (before : List (List Char)) : List (List Char) → List (List Char)
  | [] => before
  | [s] => addSegment before s true
  | s :: t :: rest => addSegments (addSegment before s false) (t :: rest)

/-- Splits a text at every character that a test holds of. -/
def splitWhere (test : Char → Bool) (cs : List Char) : List (List Char) :=
  let (last, done) := cs.foldr
    (fun c (current, done) => if test c then ([], current :: done) else (c :: current, done))
    ([], [])
  last :: done

/-- The segments of a path behind its first slash. -/
def readSegments (isSlash : Char → Bool) (cs : List Char) : List (List Char) :=
  (addSegments [] ((splitWhere isSlash cs).map (Text.Percent.encode reservedInPath))).reverse

/-! ### Reading -/

/-- The schemes whose addresses have a host, and their usual ports. -/
def usualPort? (scheme : List Char) : Option (Option Nat) :=
  match String.ofList scheme with
  | "http" | "ws" => some (some 80)
  | "https" | "wss" => some (some 443)
  | "ftp" => some (some 21)
  | _ => none

/-- The scheme of an address, in lower case, and what follows the colon. -/
def readScheme? (cs : List Char) : Option (List Char × List Char) :=
  let isPart (c : Char) : Bool := c.isAlphanum || c = '+' || c = '-' || c = '.'
  match cs.dropWhile isPart with
  | ':' :: rest =>
    if cs.head?.any Char.isAlpha then some ((cs.takeWhile isPart).map Char.toLower, rest)
    else none
  | _ => none

/-- The user name and password in front of an at sign. -/
def readUser (cs : List Char) : List Char × List Char :=
  ( Text.Percent.encode reservedInUser (cs.takeWhile (· ≠ ':')),
    Text.Percent.encode reservedInUser ((cs.dropWhile (· ≠ ':')).drop 1) )

/-- The characters of a host up to its port; a colon between brackets belongs to it. -/
def spanHost : Bool → List Char → List Char × List Char
  | _, [] => ([], [])
  | inside, c :: cs =>
    if c = ':' && !inside then ([], c :: cs)
    else
      let inside := if c = '[' then true else if c = ']' then false else inside
      let (host, rest) := spanHost inside cs
      (c :: host, rest)

/-- The port behind a host. -/
def readPort (usual : Option Nat) (cs : List Char) : Except Error (Option Nat) :=
  match cs with
  | [] => .ok none
  | _ :: digits =>
    let value := digits.foldl (fun n c => 10 * n + (c.toNat - '0'.toNat)) 0
    if !digits.all Char.isDigit then .error .invalidPort
    else if 65535 < value then .error .invalidPort
    else if digits.isEmpty || some value = usual then .ok none
    else .ok (some value)

/-- A user name, a password, a host and a port. -/
structure Authority where
  /-- The user name. -/
  username : List Char
  /-- The password. -/
  password : List Char
  /-- The host. -/
  host : Host
  /-- The port, if it is not the usual one. -/
  port : Option Nat

/-- Reads what stands between the slashes and the path. An address of a `known` scheme
must have a host. -/
def readAuthority (known : Bool) (usual : Option Nat) (cs : List Char) :
    Except Error Authority := do
  let reversed := cs.reverse
  let place := (reversed.takeWhile (· ≠ '@')).reverse
  let hasUser := cs.contains '@'
  let (username, password) := readUser ((reversed.dropWhile (· ≠ '@')).drop 1).reverse
  let (name, rest) := spanHost false place
  if hasUser && place.isEmpty && (cs.length = 1) then throw .emptyHost
  if known && name.isEmpty then throw .emptyHost
  let host ← if known then Host.parse name else Host.parseOther name
  if name.isEmpty && !rest.isEmpty then throw .emptyHost
  let port ← readPort usual rest
  return ⟨username, password, host, port⟩

/-- The query and fragment of an address, with the question mark and number sign. -/
def readTail (known : Bool) (cs : List Char) : Option (List Char) × Option (List Char) :=
  let fragment := match cs.dropWhile (· ≠ '#') with
    | [] => none
    | _ :: rest => some (Text.Percent.encode reservedInFragment rest)
  let query := match cs.takeWhile (· ≠ '#') with
    | '?' :: rest => some (Text.Percent.encode (reservedInQuery known) rest)
    | _ => none
  (query, fragment)

/-- The end of a path. -/
def endsPath (c : Char) : Bool := c = '?' || c = '#'

/-- Reads an address behind a scheme that is known to have a host. -/
def readKnown (scheme : List Char) (usual : Option Nat) (cs : List Char) : Except Error Url := do
  let isSlash (c : Char) : Bool := c = '/' || c = '\\'
  let cs := cs.dropWhile isSlash
  let ends (c : Char) : Bool := isSlash c || endsPath c
  let a ← readAuthority true usual (cs.takeWhile fun c => !ends c)
  let rest := cs.dropWhile fun c => !ends c
  let path := rest.takeWhile fun c => !endsPath c
  let (query, fragment) := readTail true (rest.dropWhile fun c => !endsPath c)
  return {
    scheme := scheme, username := a.username, password := a.password
    host := some a.host, port := a.port
    path := .segments (readSegments isSlash (path.drop 1))
    query := query, fragment := fragment }

/-- Reads an address of a file. -/
def readFile (scheme : List Char) (cs : List Char) : Except Error Url := do
  let isSlash (c : Char) : Bool := c = '/' || c = '\\'
  let body := cs.takeWhile fun c => !endsPath c
  let (query, fragment) := readTail true (cs.dropWhile fun c => !endsPath c)
  let slashes := (body.takeWhile isSlash).length
  let (host, path) : List Char × List Char :=
    if 2 ≤ slashes then
      let rest := body.drop 2
      (rest.takeWhile fun c => !isSlash c, (rest.dropWhile fun c => !isSlash c).drop 1)
    else ([], if slashes = 1 then body.drop 1 else body)
  let host ← if host.isEmpty then pure (Host.domain []) else Host.parse host
  let host := if host = .domain "localhost".toList then Host.domain [] else host
  return {
    scheme := scheme, host := some host, path := .segments (readSegments isSlash path)
    query := query, fragment := fragment }

/-- Reads an address behind any other scheme. -/
def readOther (scheme : List Char) (cs : List Char) : Except Error Url := do
  let isSlash (c : Char) : Bool := c = '/'
  let body := cs.takeWhile fun c => !endsPath c
  let (query, fragment) := readTail false (cs.dropWhile fun c => !endsPath c)
  match body with
  | '/' :: '/' :: rest =>
    let a ← readAuthority false none (rest.takeWhile fun c => !isSlash c)
    let path := rest.dropWhile fun c => !isSlash c
    return {
      scheme := scheme, username := a.username, password := a.password
      host := some a.host, port := a.port
      path := .segments (if path.isEmpty then [] else readSegments isSlash (path.drop 1))
      query := query, fragment := fragment }
  | '/' :: rest =>
    return {
      scheme := scheme, path := .segments (readSegments isSlash rest)
      query := query, fragment := fragment }
  | _ =>
    return {
      scheme := scheme, path := .rootless (Text.Percent.encode isControl body)
      query := query, fragment := fragment }

/-- A character that is dropped wherever it stands. -/
def isDropped (c : Char) : Bool := c = '\t' || c = '\n' || c = '\r'

/-- A character that is dropped at both ends. -/
def isPadding (c : Char) : Bool := c.toNat ≤ 0x20

/-- Reads an absolute address. -/
def parse (s : String) : Except Error Url :=
  let cs := ((s.toList.dropWhile isPadding).reverse.dropWhile isPadding).reverse
  match readScheme? (cs.filter fun c => !isDropped c) with
  | none => .error .relativeWithoutBase
  | some (scheme, rest) =>
    match usualPort? scheme with
    | some usual => readKnown scheme usual rest
    | none => if scheme = "file".toList then readFile scheme rest else readOther scheme rest

/-! ### Writing -/

/-- The user name and password in front of the host. -/
def userText (u : Url) : List Char :=
  if u.username.isEmpty && u.password.isEmpty then []
  else u.username ++ (if u.password.isEmpty then [] else ':' :: u.password) ++ ['@']

/-- The path as it stands in an address. -/
def pathText (u : Url) : List Char :=
  match u.path with
  | .rootless cs => cs
  | .segments parts =>
    let text := parts.flatMap fun s => '/' :: s
    if u.host.isNone && 1 < parts.length && parts.head? == some [] then ['/', '.'] ++ text
    else text

/-- An address in its normal form. -/
def write (u : Url) : List Char :=
  let authority := match u.host with
    | none => []
    | some h =>
      ['/', '/'] ++ u.userText ++ h.write ++
        (match u.port with | none => [] | some n => ':' :: Nat.toDigits 10 n)
  let tail (mark : Char) (part : Option (List Char)) : List Char := match part with
    | none => []
    | some cs => mark :: cs
  u.scheme ++ [':'] ++ authority ++ u.pathText ++ tail '?' u.query ++ tail '#' u.fragment

/-- An address as text. -/
def text (u : Url) : String := String.ofList u.write

/-! ### Adding to a path -/

/-- The address without user name and password. -/
def withoutUser (u : Url) : Url := { u with username := [], password := [] }

/-- The address has no path of segments. -/
def cannotBeBase (u : Url) : Bool :=
  match u.path with
  | .rootless _ => true
  | .segments _ => false

/-- Segments without the empty one at their end, unless it is the only one. -/
def popIfEmpty (parts : List (List Char)) : List (List Char) :=
  if 1 < parts.length && parts.getLast? == some [] then parts.dropLast else parts

/-- Adds one segment. A segment of one or two dots adds nothing. Where it has to be, the
segment is percent-encoded, and tabs and line ends are dropped; what is left is added by
the rules for paths. -/
def pushSegment (parts : List (List Char)) (segment : List Char) : List (List Char) :=
  if segment = ['.'] || segment = ['.', '.'] then parts
  else
    let parts := if parts = [[]] then [] else parts
    let written := Text.Percent.encode reservedInSegment (segment.filter fun c => !isDropped c)
    (addSegment parts.reverse written true).reverse

/-- The address with segments added to its path, in place of an empty last one. -/
def addPath (u : Url) (segments : List (List Char)) : Url :=
  match u.path with
  | .rootless _ => u
  | .segments parts => { u with path := .segments (segments.foldl pushSegment (popIfEmpty parts)) }

end Url

end Outbox
