import Outbox.Decimal.Parse
import Outbox.Settings.Value
import Outbox.Time.Calendar

/-!
# Settings in a file

A file of settings is written in TOML: lines with a key and a value, and headers that
open tables. Only the values at the top are asked for, but the whole file must be well
formed, and no key may be given twice.
-/

namespace Outbox.Settings.Toml

/-! ### Characters -/

/-- A blank inside a line. -/
def isBlank (c : Char) : Bool := c = ' ' || c = '\t'

/-- A character that may stand in a text or comment. -/
def isPlain (c : Char) : Bool := c = '\t' || (0x20 ≤ c.toNat && c.toNat ≠ 0x7F)

/-- A character of a bare key. -/
def isBare (c : Char) : Bool := c.isAlphanum || c = '_' || c = '-'

/-- A text without the blanks it begins with. -/
def skip (cs : List Char) : List Char := cs.dropWhile isBlank

/-- The end of a line at the front of a text. -/
def newline? : List Char → Option (List Char)
  | '\n' :: rest => some rest
  | '\r' :: '\n' :: rest => some rest
  | _ => none

/-- What follows a comment at the front of a text, if it is well formed. -/
def comment? (cs : List Char) : Option (List Char) :=
  match cs with
  | '#' :: rest =>
    let rest := rest.dropWhile isPlain
    if rest.isEmpty || (newline? rest).isSome then some rest else none
  | _ => some cs

/-- What follows the rest of a line, which may hold a comment only. -/
def endLine? (cs : List Char) : Option (List Char) := do
  let rest ← comment? (skip cs)
  if rest.isEmpty then some [] else newline? rest

/-- What follows blanks, ends of lines and comments. -/
def skipLines : Nat → List Char → Option (List Char)
  | 0, _ => none
  | fuel + 1, cs => do
    let rest ← comment? (skip cs)
    match newline? rest with
    | some rest => skipLines fuel rest
    | none => some rest

/-! ### Texts -/

/-- The character with a number in so many hexadecimal digits. -/
def code? (digits : List Char) (width : Nat) : Option Char :=
  if digits.length = width then
    let value := digits.foldlM
      (fun (n : Nat) c =>
        if c.isDigit then some (16 * n + (c.toNat - '0'.toNat))
        else if 'a' ≤ c.toLower ∧ c.toLower ≤ 'f' then
          some (16 * n + (c.toLower.toNat - 'a'.toNat + 10))
        else none) 0
    value.bind fun n => if n.isValidChar then some (Char.ofNat n) else none
  else none

/-- The character that an escape of one letter stands for. -/
def escape? (c : Char) : Option Char :=
  match c with
  | 'b' => some '\x08'
  | 't' => some '\t'
  | 'n' => some '\n'
  | 'f' => some '\x0c'
  | 'r' => some '\r'
  | '"' => some '"'
  | '\\' => some '\\'
  | _ => none

/-- A text behind its quotes, up to the same quotes; `long` texts have three of them and
may hold ends of lines, and only texts between double quotes have escapes. -/
def text? (quote : Char) (long : Bool) : Nat → List Char → Option (List Char × List Char)
  | 0, _ => none
  | _ + 1, [] => none
  | fuel + 1, c :: rest =>
    if c = quote then
      if !long then some ([], rest)
      else
        let run := (c :: rest).takeWhile (· = quote)
        let n := run.length
        if n < 3 then
          (text? quote long (fuel - n) ((c :: rest).drop n)).map fun (s, more) => (run ++ s, more)
        else if 5 < n then none
        else some (run.drop 3, (c :: rest).drop n)
    else if c = '\\' ∧ quote = '"' then
      match rest with
      | 'u' :: rest => do
        let x ← code? (rest.take 4) 4
        let (s, more) ← text? quote long fuel (rest.drop 4)
        some (x :: s, more)
      | 'U' :: rest => do
        let x ← code? (rest.take 8) 8
        let (s, more) ← text? quote long fuel (rest.drop 8)
        some (x :: s, more)
      | d :: rest =>
        match escape? d with
        | some x => (text? quote long fuel rest).map fun (s, more) => (x :: s, more)
        | none =>
          if long then
            match newline? (skip (d :: rest)) with
            | some rest =>
              text? quote long fuel
                (rest.dropWhile fun c => isBlank c || c = '\n' || c = '\r')
            | none => none
          else none
      | [] => none
    else if isPlain c then (text? quote long fuel rest).map fun (s, more) => (c :: s, more)
    else if long then
      match newline? (c :: rest) with
      | some rest => (text? quote long fuel rest).map fun (s, more) => ('\n' :: s, more)
      | none => none
    else none

/-- A text with its quotes, and what follows. -/
def quoted? (cs : List Char) : Option (List Char × List Char) :=
  let fuel := cs.length + 1
  let start (rest : List Char) : List Char := (newline? rest).getD rest
  match cs with
  | '"' :: '"' :: '"' :: rest => text? '"' true fuel (start rest)
  | '\'' :: '\'' :: '\'' :: rest => text? '\'' true fuel (start rest)
  | '"' :: rest => text? '"' false fuel rest
  | '\'' :: rest => text? '\'' false fuel rest
  | _ => none

/-! ### Keys -/

/-- One part of a key, and what follows. -/
def keyPart? (cs : List Char) : Option (String × List Char) :=
  match cs with
  | '"' :: rest => (text? '"' false (rest.length + 1) rest).map fun (s, r) => (String.ofList s, r)
  | '\'' :: rest =>
    (text? '\'' false (rest.length + 1) rest).map fun (s, r) => (String.ofList s, r)
  | _ =>
    let bare := cs.takeWhile isBare
    if bare.isEmpty then none else some (String.ofList bare, cs.dropWhile isBare)

/-- The parts of a key with points between them, and what follows. -/
def key? : Nat → List Char → Option (List String × List Char)
  | 0, _ => none
  | fuel + 1, cs => do
    let (part, rest) ← keyPart? (skip cs)
    match skip rest with
    | '.' :: rest => (key? fuel rest).map fun (parts, rest) => (part :: parts, rest)
    | rest => some ([part], rest)

/-! ### Numbers and dates -/

/-- Digits with single underscores between them. -/
def digits? (isDigit : Char → Bool) (cs : List Char) : Option (List Char) :=
  let parts := cs.splitOn '_'
  if parts.all fun p => !p.isEmpty && p.all isDigit then some parts.flatten else none

/-- Decimal digits without a zero in front. -/
def decimal? (cs : List Char) : Option (List Char) :=
  (digits? Char.isDigit cs).filter fun ds => ds.length = 1 || ds.head? != some '0'

/-- A number in a base that is a power of two. -/
def based? (base : Nat) (cs : List Char) : Option Nat := do
  let value (c : Char) : Option Nat :=
    let n :=
      if c.isDigit then c.toNat - '0'.toNat
      else if 'a' ≤ c.toLower ∧ c.toLower ≤ 'f' then c.toLower.toNat - 'a'.toNat + 10
      else 16
    if n < base then some n else none
  let ds ← digits? (fun c => (value c).isSome) cs
  ds.foldlM (fun n c => (value c).map fun d => base * n + d) 0

/-- A whole number of 64 bits with sign. -/
def integer? (cs : List Char) : Option Int := do
  let n ← match cs with
    | '0' :: 'x' :: ds => (based? 16 ds).map Int.ofNat
    | '0' :: 'o' :: ds => (based? 8 ds).map Int.ofNat
    | '0' :: 'b' :: ds => (based? 2 ds).map Int.ofNat
    | _ =>
      let (negative, ds) := Decimal.sign cs
      (decimal? ds).map fun ds =>
        if negative then -(Digits.toNat ds : Int) else (Digits.toNat ds : Int)
  if -9223372036854775808 ≤ n ∧ n ≤ 9223372036854775807 then some n else none

/-- A number with a point or an exponent, or one of the words for infinity and for no
number. -/
def float? (cs : List Char) : Option Binary64 := do
  let (_, body) := Decimal.sign cs
  if body = "inf".toList ∨ body = "nan".toList then Decimal.parse? cs
  else
    let isMark (c : Char) : Bool := c = 'e' || c = 'E'
    let mantissa := body.takeWhile fun c => !isMark c
    let exponent := body.dropWhile fun c => !isMark c
    let whole ← decimal? (mantissa.takeWhile (· ≠ '.'))
    let fraction ← match mantissa.dropWhile (· ≠ '.') with
      | [] => some []
      | _ :: ds => digits? Char.isDigit ds
    let power ← match exponent with
      | [] => some 0
      | _ :: ds =>
        let (negative, ds) := Decimal.sign ds
        (digits? Char.isDigit ds).map fun ds =>
          if negative then -(Digits.toNat ds : Int) else (Digits.toNat ds : Int)
    if fraction.isEmpty && exponent.isEmpty then none
    else
      some (Decimal.round (Decimal.sign cs).1 (Digits.toNat (whole ++ fraction))
        (power - fraction.length))

/-- Two digits between two bounds at the front of a text. -/
def two? (low high : Nat) (cs : List Char) : Option (List Char) :=
  let ds := cs.take 2
  if ds.length = 2 && ds.all Char.isDigit && low ≤ Digits.toNat ds && Digits.toNat ds ≤ high then
    some (cs.drop 2)
  else none

/-- What follows a time of day. -/
def time? (cs : List Char) : Option (List Char) := do
  let cs ← two? 0 23 cs
  let ':' :: cs := cs | none
  let cs ← two? 0 59 cs
  let ':' :: cs := cs | none
  let cs ← two? 0 60 cs
  match cs with
  | '.' :: rest =>
    if rest.head?.any Char.isDigit then some (rest.dropWhile Char.isDigit) else none
  | _ => some cs

/-- What follows a date. -/
def date? (cs : List Char) : Option (List Char) :=
  let year := cs.take 4
  match cs.drop 4 with
  | '-' :: rest => do
    let days ← two? 1 12 rest
    let '-' :: day := days | none
    let after ← two? 1 31 day
    let date : Date :=
      ⟨Digits.toNat year, Digits.toNat (rest.take 2), Digits.toNat (day.take 2)⟩
    if year.length = 4 && year.all Char.isDigit && date.isValid then some after else none
  | _ => none

/-- A date, a time, or both, with an offset after both. -/
def isDateTime (cs : List Char) : Bool :=
  match date? cs with
  | none => time? cs == some []
  | some [] => true
  | some (c :: rest) =>
    if c = 'T' ∨ c = 't' ∨ c = ' ' then
      match time? rest with
      | some [] | some ['Z'] | some ['z'] => true
      | some (s :: rest) =>
        (s = '+' || s = '-') &&
          match two? 0 24 rest with
          | some (':' :: rest) => two? 0 59 rest == some []
          | _ => false
      | none => false
    else false

/-- A word that is no quoted text. -/
def word? (cs : List Char) : Option Value :=
  if cs = "true".toList then some (.flag true)
  else if cs = "false".toList then some (.flag false)
  else
    match integer? cs with
    | some n => some (.integer n)
    | none =>
      match float? cs with
      | some x => some (.float x)
      | none => if isDateTime cs then some .compound else none

/-- The characters of such a word. A blank belongs to it between a date and a time. -/
def spanWord (cs : List Char) : List Char × List Char :=
  let isWord (c : Char) : Bool := c.isAlphanum || "+-._:".toList.contains c
  let word := cs.takeWhile isWord
  match cs.dropWhile isWord with
  | ' ' :: rest =>
    if date? word == some [] && rest.head?.any Char.isDigit then
      (word ++ ' ' :: rest.takeWhile isWord, rest.dropWhile isWord)
    else (word, ' ' :: rest)
  | rest => (word, rest)

/-! ### Tables -/

/-- How a table came about. -/
inductive Origin where
  /-- By a header of its own. -/
  | header
  /-- By a header of a table inside it. -/
  | inside
  /-- By a key with points. -/
  | dotted
  deriving DecidableEq

/-- What a key of a file stands for. -/
inductive Node where
  /-- A value. -/
  | leaf (v : Value)
  /-- A table. -/
  | table (origin : Origin) (members : List (String × Node))
  /-- A list of tables, of which the last one is open. -/
  | tables (last : List (String × Node))

/-- What a table holds under a key. -/
def lookup (key : String) (members : List (String × Node)) : Option Node :=
  (members.find? fun m => m.1 == key).map (·.2)

/-- Puts something into a table, in place of what has its key. -/
def assign (key : String) (node : Node) (members : List (String × Node)) :
    List (String × Node) :=
  if members.any fun m => m.1 == key then
    members.map fun m => if m.1 == key then (key, node) else m
  else members ++ [(key, node)]

/-- Gives a value to a key. -/
def give (v : Value) : List String → List (String × Node) → Option (List (String × Node))
  | [], _ => none
  | [key], members =>
    if (lookup key members).isSome then none else some (assign key (.leaf v) members)
  | key :: keys, members =>
    match lookup key members with
    | none => (give v keys []).map fun inner => assign key (.table .dotted inner) members
    | some (.table .dotted inner) =>
      (give v keys inner).map fun inner => assign key (.table .dotted inner) members
    | some (.table .inside inner) =>
      (give v keys inner).map fun inner => assign key (.table .inside inner) members
    | some _ => none

/-- Changes the table that a path leads to. -/
def change (f : List (String × Node) → Option (List (String × Node))) :
    List String → List (String × Node) → Option (List (String × Node))
  | [], members => f members
  | key :: keys, members =>
    match lookup key members with
    | none => (change f keys []).map fun inner => assign key (.table .inside inner) members
    | some (.table origin inner) =>
      (change f keys inner).map fun inner => assign key (.table origin inner) members
    | some (.tables last) =>
      (change f keys last).map fun last => assign key (.tables last) members
    | some (.leaf _) => none

/-- Opens a table. -/
def openTable (key : String) (members : List (String × Node)) : Option (List (String × Node)) :=
  match lookup key members with
  | none => some (assign key (.table .header []) members)
  | some (.table .inside inner) => some (assign key (.table .header inner) members)
  | some _ => none

/-- Opens one more table of a list. -/
def openItem (key : String) (members : List (String × Node)) : Option (List (String × Node)) :=
  match lookup key members with
  | none => some (assign key (.tables []) members)
  | some (.tables _) => some (assign key (.tables []) members)
  | some _ => none

/-! ### Values -/

/-- What may be read of a file, by the place in it. -/
inductive Goal where
  /-- A value. -/
  | value
  /-- The rest of a list. -/
  | items
  /-- The rest of a table in braces, of which some members are read. -/
  | members (done : List (String × Node))

/-- Reads a value, or the rest of a list or table, and gives what follows. -/
def read : Nat → Goal → List Char → Option (Value × List Char)
  | 0, _, _ => none
  | fuel + 1, .value, cs =>
    match cs with
    | '"' :: _ | '\'' :: _ => (quoted? cs).map fun (s, rest) => (.text (String.ofList s), rest)
    | '[' :: rest => read fuel .items rest
    | '\x7b' :: rest =>
      match skip rest with
      | '\x7d' :: rest => some (.compound, rest)
      | rest => read fuel (.members []) rest
    | _ =>
      let (word, rest) := spanWord cs
      (word? word).map fun v => (v, rest)
  | fuel + 1, .items, cs => do
    let cs ← skipLines (fuel + 1) cs
    match cs with
    | ']' :: rest => some (.compound, rest)
    | _ => do
      let (_, rest) ← read fuel .value cs
      let rest ← skipLines (fuel + 1) rest
      match rest with
      | ',' :: rest => read fuel .items rest
      | ']' :: rest => some (.compound, rest)
      | _ => none
  | fuel + 1, .members done, cs => do
    let (key, rest) ← key? (fuel + 1) cs
    match rest with
    | '=' :: rest => do
      let (v, rest) ← read fuel .value (skip rest)
      let done ← give v key done
      match skip rest with
      | ',' :: rest => read fuel (.members done) rest
      | '\x7d' :: rest => some (.compound, rest)
      | _ => none
    | _ => none

/-! ### Files -/

/-- What is read of a file: the tables and the path of the open one. -/
structure Reader where
  /-- What the file says so far. -/
  root : List (String × Node) := []
  /-- The table that is open. -/
  path : List String := []

/-- Opens the table of a header that is behind its brackets. -/
def header? (fuel : Nat) (r : Reader) (item : Bool) (cs : List Char) :
    Option (Reader × List Char) := do
  let (key, rest) ← key? fuel cs
  let last ← key.getLast?
  let rest ← match item, rest with
    | true, ']' :: ']' :: rest => some rest
    | false, ']' :: rest => some rest
    | _, _ => none
  let root ← change (if item then openItem last else openTable last) key.dropLast r.root
  let rest ← endLine? rest
  some (⟨root, key⟩, rest)

/-- Reads a line with a key and a value. -/
def entry? (fuel : Nat) (r : Reader) (cs : List Char) : Option (Reader × List Char) := do
  let (key, rest) ← key? fuel cs
  let '=' :: rest := rest | none
  let (v, rest) ← read fuel .value (skip rest)
  let root ← change (give v key) r.path r.root
  let rest ← endLine? rest
  some ({ r with root := root }, rest)

/-- Reads line by line. -/
def lines : Nat → Reader → List Char → Option Reader
  | 0, _, _ => none
  | fuel + 1, r, cs => do
    let cs ← skipLines (fuel + 1) cs
    match cs with
    | [] => some r
    | '[' :: '[' :: rest => do
      let (r, rest) ← header? (fuel + 1) r true rest
      lines fuel r rest
    | '[' :: rest => do
      let (r, rest) ← header? (fuel + 1) r false rest
      lines fuel r rest
    | _ => do
      let (r, rest) ← entry? (fuel + 1) r cs
      lines fuel r rest

/-- What stands at the top of a file, by key; nothing if the file is not well formed. -/
def parse? (s : String) : Option (List (String × Value)) := do
  let cs := match s.toList with
    | '\ufeff' :: rest => rest
    | cs => cs
  let r ← lines (2 * cs.length + 2) {} cs
  some (r.root.map fun (key, node) =>
    match node with
    | .leaf v => (key, v)
    | .table .. | .tables _ => (key, .compound))

end Outbox.Settings.Toml
