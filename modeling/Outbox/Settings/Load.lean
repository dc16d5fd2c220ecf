import Outbox.Settings.Address
import Outbox.Settings.Environment
import Outbox.Settings.Toml

/-!
# Loading settings

Settings come from three sources, each of which takes precedence over those before it:
the defaults, a file and the environment. What they say is put together by key, and then
the fields are filled in the order of the keys; the first key that does not fit is the
one that is reported.
-/

namespace Outbox.Settings

/-- Where settings come from. -/
structure Sources where
  /-- The variables of the environment, in order. -/
  environment : List (String × String) := []
  /-- The text of the file, if there is one. -/
  file : Option String := none

/-- Why settings cannot be loaded. -/
inductive LoadError where
  /-- A value is of the wrong kind. -/
  | invalidType (key : String)
  /-- A number is out of bounds. -/
  | invalidValue (key : String)
  /-- A field is given under both of its names. -/
  | duplicateField (name : String)
  /-- The file is not well formed. -/
  | unreadableFile
  /-- The settings break a rule. -/
  | refused (r : Refusal)
  deriving DecidableEq

namespace LoadError

/-- What is said where the sources do not fit. -/
def sourcesUnreadable : String := "Failed to load configuration"

/-- The wording of an error. -/
def message : LoadError → String
  | refused r => r.message
  | _ => sourcesUnreadable

end LoadError

/-- Puts a value under a key, in the order of the keys. -/
def placeValue (key : String) (v : Value) : List (String × Value) → List (String × Value)
  | [] => [(key, v)]
  | (k, w) :: rest =>
    if key < k then (key, v) :: (k, w) :: rest
    else if key = k then (key, v) :: rest
    else (k, w) :: placeValue key v rest

/-- Puts the values of a source over those that are there. -/
def overlay (values : List (String × Value)) (source : List (String × Value)) :
    List (String × Value) :=
  source.foldl (fun values (key, v) => placeValue key v values) values

/-- The field that a key names, by either of its names. -/
def slot? (key : String) : Option (String × Slot) :=
  slots.find? fun (name, _) => (spellings name).contains key

/-- Puts a value into a field. -/
def fill (key : String) (slot : Slot) (v : Value) (s : Settings) : Except LoadError Settings :=
  match slot, v with
  | .text put, .text t => .ok (put t s)
  | .natural most put, .integer n =>
    if 0 ≤ n ∧ n ≤ most then .ok (put n.toNat s) else .error (.invalidValue key)
  | .flag put, .flag b => .ok (put b s)
  | .fraction put, .float x => .ok (put x s)
  | .fraction put, .integer n => .ok (put (.ofInt n) s)
  | _, _ => .error (.invalidType key)

/-- The values that the defaults give. Only their keys count: a field that another source
names in upper case is given twice. -/
def defaultKeys : List String := slots.map (·.1)

/-- The keys of the defaults that no other source gives, with those that are given. -/
def withDefaults (values : List (String × Value)) : List (String × Option Value) :=
  let given := values.map fun (key, v) => (key, some v)
  let missing := (defaultKeys.filter fun key => !values.any fun w => w.1 == key).map
    fun key => (key, none)
  (given ++ missing).mergeSort fun a b => a.1 ≤ b.1

/-- Fills the fields in the order of the keys; `seen` holds the fields that are filled. A
key without a value keeps the default. -/
def fillOver : List (String × Option Value) → List String → Settings → Except LoadError Settings
  | [], _, s => .ok s
  | (key, v) :: rest, seen, s =>
    match slot? key with
    | none => fillOver rest seen s
    | some (name, slot) =>
      if name ∈ seen then .error (.duplicateField name)
      else
        match v with
        | none => fillOver rest (name :: seen) s
        | some v => do
          let s ← fill name slot v s
          fillOver rest (name :: seen) s

/-- The settings that the sources give, before they are checked. -/
def read (sources : Sources) : Except LoadError Settings :=
  let file := match sources.file with
    | none => some []
    | some text => Toml.parse? text
  match file with
  | none => .error .unreadableFile
  | some file =>
    let environment := sources.environment.filterMap fun (name, v) => Environment.entry? name v
    fillOver (withDefaults (overlay (overlay [] file) environment)) [] {}

/-- The settings that the sources give, if they break no rule. -/
def load (sources : Sources) : Except LoadError Settings := do
  let s ← read sources
  match s.refusal? with
  | some r => .error (.refused r)
  | none => .ok s

end Outbox.Settings
