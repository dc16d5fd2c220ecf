import Outbox.Settings.Basic
import Outbox.Text.Digits
import Outbox.Url.Host

/-!
# The address to listen at

A host and a port make a socket address if the host is four decimal bytes, or an address
of sixteen bytes between brackets, with a scope if need be. A name is no such host.
-/

namespace Outbox

/-- An address to listen at. -/
inductive SocketAddress where
  /-- Four bytes and a port. -/
  | four (bytes : List Nat) (port : Nat)
  /-- Eight pieces of two bytes, a scope and a port. -/
  | six (pieces : List Nat) (scope port : Nat)
  deriving DecidableEq, Repr

namespace SocketAddress

/-- A byte in decimal, without zeros in front. -/
def byte? (cs : List Char) : Option Nat :=
  if cs.isEmpty || 3 < cs.length || (1 < cs.length && cs.head? == some '0') then none
  else if cs.all Char.isDigit then some (Digits.toNat cs) |>.filter (· ≤ 255)
  else none

/-- Four bytes with points between them. -/
def four? (cs : List Char) : Option (List Nat) :=
  ((cs.splitOn '.').mapM byte?).filter fun bytes => bytes.length = 4

/-- A scope: a number of 32 bits. -/
def scope? (cs : List Char) : Option Nat :=
  if !cs.isEmpty && cs.all Char.isDigit then some (Digits.toNat cs) |>.filter (· ≤ Settings.max32)
  else none

/-- The pieces and scope between brackets. -/
def six? (cs : List Char) : Option (List Nat × Nat) := do
  let pieces ← Url.ipv6? (cs.takeWhile (· ≠ '%'))
  match cs.dropWhile (· ≠ '%') with
  | [] => some (pieces, 0)
  | _ :: scope => (scope? scope).map fun n => (pieces, n)

/-- The address of a host and a port. -/
def ofHost? (host : String) (port : Nat) : Option SocketAddress :=
  match host.toList with
  | '[' :: rest =>
    if rest.getLast? == some ']' then (six? rest.dropLast).map fun (ps, s) => six ps s port
    else none
  | cs => (four? cs).map fun bytes => four bytes port

/-- Four bytes in decimal. -/
def fourText (bytes : List Nat) : String := String.intercalate "." (bytes.map toString)

/-- Eight pieces in hexadecimal; four bytes that are carried in the last two pieces stay
in decimal. -/
def sixText (pieces : List Nat) : String :=
  match pieces with
  | [0, 0, 0, 0, 0, 0xFFFF, a, b] =>
    "::ffff:" ++ fourText [a / 256, a % 256, b / 256, b % 256]
  | _ => String.ofList (Url.Host.ipv6Text pieces)

/-- An address as text. -/
def text : SocketAddress → String
  | four bytes port => fourText bytes ++ ":" ++ toString port
  | six pieces scope port =>
    let scopeText := if scope = 0 then "" else "%" ++ toString scope
    "[" ++ sixText pieces ++ scopeText ++ "]:" ++ toString port

end SocketAddress

namespace Settings

/-- The address to listen at. -/
def address? (s : Settings) : Option SocketAddress := SocketAddress.ofHost? s.host s.port

/-- What is said where there is no such address. -/
def invalidAddress : String := "Invalid server address"

end Settings

end Outbox
