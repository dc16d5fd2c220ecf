/-!
# Blank text

Names, identifiers and settings are compared after the blanks around them are
dropped. A blank is a character with the White_Space property, so a no-break
space or an ideographic space counts and a zero-width space does not.
-/

namespace Outbox.Text

/-- The characters with the White_Space property. -/
def isBlank (c : Char) : Bool :=
  let n := c.toNat
  (0x09 ≤ n && n ≤ 0x0D) || n == 0x20 || n == 0x85 || n == 0xA0 || n == 0x1680 ||
    (0x2000 ≤ n && n ≤ 0x200A) || n == 0x2028 || n == 0x2029 || n == 0x202F ||
    n == 0x205F || n == 0x3000

/-- A list of characters without the blanks it begins with. -/
def dropBlanks (cs : List Char) : List Char := cs.dropWhile isBlank

/-- A list of characters without the blanks it begins and ends with. -/
def trimChars (cs : List Char) : List Char :=
  (dropBlanks (dropBlanks cs).reverse).reverse

/-- A text without the blanks it begins and ends with. -/
def trim (s : String) : String := String.ofList (trimChars s.toList)

/-- A text that holds nothing but blanks. -/
def isBlankText (s : String) : Bool := s.toList.all isBlank

/-! ### Letters

Keywords and names are compared without regard to case in the ASCII letters only. -/

/-- A text with its ASCII letters in upper case. -/
def upper (s : String) : String := String.ofList (s.toList.map Char.toUpper)

/-- A text with its ASCII letters in lower case. -/
def lower (s : String) : String := String.ofList (s.toList.map Char.toLower)

/-- A character that some blank text is made of is a blank. -/
theorem isBlankText_iff (s : String) :
    isBlankText s = true ↔ ∀ c ∈ s.toList, isBlank c = true := by
  simp [isBlankText, List.all_eq_true]

/-- Dropping blanks leaves nothing exactly when there was nothing else. -/
theorem dropBlanks_eq_nil_iff (cs : List Char) :
    dropBlanks cs = [] ↔ ∀ c ∈ cs, isBlank c = true := by
  induction cs with
  | nil => simp [dropBlanks]
  | cons c cs ih =>
    by_cases h : isBlank c = true <;> simp_all [dropBlanks]

end Outbox.Text
