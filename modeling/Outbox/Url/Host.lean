import Outbox.Text.Percent
import Outbox.Url.Domain

/-!
# Hosts

The host of an address: a domain name, or a number address of four or of sixteen bytes.
A name whose last label is a number has to be a number address, which may be written in
fewer than four parts and in octal or hexadecimal.
-/

namespace Outbox.Url

/-- Why an address is refused. -/
inductive Error where
  /-- It has no scheme and nothing to be relative to. -/
  | relativeWithoutBase
  /-- It has no host. -/
  | emptyHost
  /-- Its host is no domain name. -/
  | invalidDomain
  /-- A character may not stand in its host. -/
  | invalidDomainCharacter
  /-- Its port is no number of 16 bits. -/
  | invalidPort
  /-- Its host is no address of four bytes. -/
  | invalidIpv4
  /-- Its host is no address of sixteen bytes. -/
  | invalidIpv6
  deriving DecidableEq, Repr

namespace Error

/-- The wording of an error. -/
def message : Error → String
  | relativeWithoutBase => "relative URL without a base"
  | emptyHost => "empty host"
  | invalidDomain => "invalid international domain name"
  | invalidDomainCharacter => "invalid domain character"
  | invalidPort => "invalid port number"
  | invalidIpv4 => "invalid IPv4 address"
  | invalidIpv6 => "invalid IPv6 address"

end Error

/-- A host. -/
inductive Host where
  /-- A domain name, or what stands for one. -/
  | domain (name : List Char)
  /-- An address of four bytes. -/
  | ipv4 (address : Nat)
  /-- An address of eight pieces of two bytes. -/
  | ipv6 (pieces : List Nat)
  deriving DecidableEq, Repr

/-! ### Addresses of four bytes -/

/-- A number in a given base; nothing if another character occurs. -/
def number? (base : Nat) (cs : List Char) : Option Nat :=
  cs.foldlM
    (fun n c => (Text.Percent.hexValue? c).bind fun d =>
      if d < base then some (base * n + d) else none)
    0

/-- A part of an address: in hexadecimal behind `0x`, in octal behind `0`. -/
def ipv4Part? (cs : List Char) : Option Nat :=
  match cs with
  | [] => none
  | '0' :: 'x' :: rest | '0' :: 'X' :: rest => number? 16 rest
  | '0' :: c :: rest => number? 8 (c :: rest)
  | _ => number? 10 cs

/-- The last label of a name is a number. -/
def endsInNumber (name : List Char) : Bool :=
  let ls := (Domain.labels name).reverse
  let last? := match ls with
    | [] :: l :: _ => some l
    | [] :: [] => none
    | l :: _ => some l
    | [] => none
  match last? with
  | none => false
  | some l =>
    (!l.isEmpty && l.all Char.isDigit) ||
      ((l.take 2 == ['0', 'x'] || l.take 2 == ['0', 'X']) && (ipv4Part? l).isSome)

/-- An address of four bytes in one to four parts; the last part fills what is left. -/
def ipv4? (name : List Char) : Option Nat := do
  let ls := Domain.labels name
  let ls := if ls.getLast? == some [] then ls.dropLast else ls
  if 4 < ls.length then none
  else
    let parts ← ls.mapM ipv4Part?
    let last ← parts.getLast?
    let first := parts.dropLast
    if last < Nat.pow 256 (4 - first.length) ∧ first.all (· ≤ 255) then
      some (first.zipIdx.foldl (fun sum (n, i) => sum + n * Nat.pow 256 (3 - i)) last)
    else none

/-! ### Addresses of sixteen bytes -/

/-- A piece of up to four hexadecimal digits at the front of a text, and the rest. -/
def piece? (cs : List Char) : Option (Nat × List Char) :=
  let digits := (cs.take 4).takeWhile fun c => (Text.Percent.hexValue? c).isSome
  if digits.isEmpty then none
  else (number? 16 digits).map fun n => (n, cs.drop digits.length)

/-- Four decimal bytes at the end of an address, as two pieces. -/
def embedded? (cs : List Char) : Option (List Nat) := do
  let parts := Domain.labels cs
  let bytes ← parts.mapM fun p =>
    if p.isEmpty || 3 < p.length || (1 < p.length && p.head? == some '0') then none
    else (number? 10 p).filter (· ≤ 255)
  match bytes with
  | [a, b, c, d] => some [256 * a + b, 256 * c + d]
  | _ => none

/-- The pieces of a text with a colon between each two, with four decimal bytes allowed
for the last two. -/
def pieces? : Nat → List Char → Option (List Nat)
  | 0, _ => none
  | fuel + 1, cs =>
    match embedded? cs with
    | some ps => some ps
    | none => do
      let (n, rest) ← piece? cs
      match rest with
      | [] => some [n]
      | ':' :: rest => (pieces? fuel rest).map (n :: ·)
      | _ => none

/-- The places at which a text has two colons in a row, at most the first two of them. -/
def splitGap : List Char → List Char × Option (List Char)
  | [] => ([], none)
  | ':' :: ':' :: rest => ([], some rest)
  | c :: rest =>
    let (before, after) := splitGap rest
    (c :: before, after)

/-- An address of sixteen bytes. Two colons in a row stand for one or more zero pieces. -/
def ipv6? (cs : List Char) : Option (List Nat) :=
  let side (cs : List Char) : Option (List Nat) :=
    if cs.isEmpty then some [] else pieces? 9 cs
  match splitGap cs with
  | (_, none) => (side cs).filter fun ps => ps.length = 8
  | (before, some after) => do
    if before.contains '.' then none
    else
      let front ← side before
      let back ← side after
      if front.length + back.length ≤ 7 then
        some (front ++ List.replicate (8 - front.length - back.length) 0 ++ back)
      else none

/-! ### Reading -/

/-- A character that may not stand in a host of any kind. -/
def isForbiddenHost (c : Char) : Bool :=
  c.toNat = 0 || c = '\t' || c = '\n' || c = '\r' || c = ' ' ||
    "#/:<>?@[\\]^|".toList.contains c

/-- A character that is percent-encoded everywhere. -/
def isControl (c : Char) : Bool := c.toNat < 0x20 || c.toNat = 0x7F

namespace Host

/-- An address of sixteen bytes between brackets. -/
def bracketed (rest : List Char) : Except Error Host :=
  match rest.getLast? with
  | some ']' =>
    match ipv6? rest.dropLast with
    | some ps => .ok (.ipv6 ps)
    | none => .error .invalidIpv6
  | _ => .error .invalidIpv6

/-- The host of an address whose scheme is known. -/
def parse (cs : List Char) : Except Error Host :=
  match cs with
  | '[' :: rest => bracketed rest
  | _ =>
    match Domain.toAscii? (Text.Percent.decode cs) with
    | none => .error .invalidDomain
    | some [] => .error .emptyHost
    | some name =>
      if endsInNumber name then
        match ipv4? name with
        | some n => .ok (.ipv4 n)
        | none => .error .invalidIpv4
      else .ok (.domain name)

/-- The host of an address of any other scheme. -/
def parseOther (cs : List Char) : Except Error Host :=
  match cs with
  | '[' :: rest => bracketed rest
  | _ =>
    if cs.any isForbiddenHost then .error .invalidDomainCharacter
    else .ok (.domain (Text.Percent.encode isControl cs))

/-! ### Writing -/

/-- The longest run of at least two zero pieces, as its place and length; of equally long
ones the first. -/
def longestGap (ps : List Nat) : Option (Nat × Nat) :=
  let runs := (List.range ps.length).map fun i => (i, ((ps.drop i).takeWhile (· = 0)).length)
  let best := runs.foldl
    (fun (best : Nat × Nat) (run : Nat × Nat) => if best.2 < run.2 then run else best) (0, 0)
  if 2 ≤ best.2 then some best else none

/-- A piece in hexadecimal. -/
def pieceText (n : Nat) : List Char := Nat.toDigits 16 n

/-- An address of sixteen bytes, with its longest run of zero pieces left out. -/
def ipv6Text (ps : List Nat) : List Char :=
  let join (ps : List Nat) : List Char := List.intercalate [':'] (ps.map pieceText)
  match longestGap ps with
  | none => join ps
  | some (i, n) => join (ps.take i) ++ [':', ':'] ++ join (ps.drop (i + n))

/-- An address of four bytes. -/
def ipv4Text (n : Nat) : List Char :=
  List.intercalate ['.']
    ([n / 16777216 % 256, n / 65536 % 256, n / 256 % 256, n % 256].map fun b => Nat.toDigits 10 b)

/-- A host as it stands in an address. -/
def write : Host → List Char
  | domain name => name
  | ipv4 n => ipv4Text n
  | ipv6 ps => '[' :: (ipv6Text ps ++ [']'])

end Host

end Outbox.Url
