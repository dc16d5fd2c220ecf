import Outbox.Decimal.Binary64

/-!
# Values of settings

What a source of settings may say of a field. Texts that hold a number are told apart
from numbers by the source, not by the field.
-/

namespace Outbox.Settings

/-- A value that a source gives. -/
inductive Value where
  /-- A truth value. -/
  | flag (b : Bool)
  /-- A whole number. -/
  | integer (n : Int)
  /-- A number in floating point. -/
  | float (x : Binary64)
  /-- A text. -/
  | text (s : String)
  /-- A list, a table or a date. -/
  | compound
  deriving DecidableEq

end Outbox.Settings
