import Outbox.Json.Print
import Outbox.Proofs.Json.Basic
import Outbox.Proofs.Text.Numeral
import Mathlib.Tactic.IntervalCases

/-!
# The words of a printed value

A value is printed as the words that it consists of. Nothing but the end of a number needs a
look at the character behind it, and what stands behind a number inside a value or at the end of
the text is always a comma, a closing bracket or nothing.
-/

namespace Outbox.Json

namespace Scanner

/-- The tokens that a scanner finds in the rest of a text. -/
def reads : Scanner → List Char → List Token
  | s, [] => s.close
  | s, c :: cs => (s.step c).2 ++ reads (s.step c).1 cs

end Scanner

open Scanner

/-- The tokens of a text are those that a scanner finds from its start on. -/
theorem tokens_map_some (cs : List Char) : tokens (cs.map some) = between.reads cs := by
  have h (state : Scanner × List Token) :
      let last := (cs.map some).foldl
        (fun state p => ((stepPiece state.1 p).1, (stepPiece state.1 p).2.reverse ++ state.2)) state
      last.2.reverse ++ last.1.close = state.2.reverse ++ state.1.reads cs := by
    induction cs generalizing state with
    | nil => rfl
    | cons c cs ih =>
      rw [List.map_cons, List.foldl_cons]
      refine (ih _).trans ?_
      rw [reads, List.reverse_append, List.reverse_reverse, List.append_assoc]
      rfl
  exact h (between, [])

namespace Scanner

/-! ### Numbers -/

/-- What stands behind a number: a comma, a closing bracket or nothing. -/
def EndsNumber (rest : List Char) : Prop :=
  ∀ c ∈ rest.head?, c = ',' ∨ c = ']' ∨ c = '\x7d'

/-- A number that could go on ends there. -/
theorem reads_number_of_ends {place : NumberPlace} {a : Numeral} {rest : List Char}
    (hplace : place = .zero ∨ place = .whole) (h : EndsNumber rest) :
    (number place a).reads rest = .number a.toNumber :: between.reads rest := by
  cases rest with
  | nil => rcases hplace with rfl | rfl <;> rfl
  | cons c rest =>
    rcases h c rfl with rfl | rfl | rfl <;> rcases hplace with rfl | rfl <;> rfl

/-- The value of a digit. -/
def digit (c : Char) : Nat := (Digits.value? c).getD 0

theorem digit?_of_isDigit {c : Char} (h : c.isDigit = true) : digit? c = some (digit c) := by
  have hvalue : Digits.value? c = some (c.toNat - '0'.toNat) :=
    Digits.value?_eq_some_iff.2 ⟨h, rfl⟩
  rw [digit, hvalue, Option.getD_some, ← hvalue]
  rfl

/-- Every digit is one of ten. -/
theorem exists_ofNat_of_isDigit {c : Char} (h : c.isDigit = true) :
    ∃ d < 10, c = Char.ofNat ('0'.toNat + d) := by
  obtain ⟨hlow, hhigh⟩ := Digits.toNat_bounds_of_isDigit h
  refine ⟨c.toNat - 48, by omega, ?_⟩
  have hcode : '0'.toNat + (c.toNat - 48) = c.toNat := Nat.add_sub_of_le hlow
  rw [hcode, Char.ofNat_toNat]

/-- A digit begins a number. -/
theorem start_of_isDigit {c : Char} (h : c.isDigit = true) : start c =
    (number (if c = '0' then .zero else .whole) { whole := [digit c] }, []) := by
  obtain ⟨d, hd, rfl⟩ := exists_ofNat_of_isDigit h
  interval_cases d <;> rfl

/-- A digit begins a number behind a minus sign as well. -/
theorem inNumber_sign_of_isDigit {c : Char} (a : Numeral) (h : c.isDigit = true) :
    inNumber .sign a c =
      (number (if c = '0' then .zero else .whole) { a with whole := [digit c] }, []) := by
  obtain ⟨d, hd, rfl⟩ := exists_ofNat_of_isDigit h
  interval_cases d <;> rfl

/-- Further digits go into the number. -/
theorem reads_whole_append {ds rest : List Char} (a : Numeral)
    (h : ∀ c ∈ ds, c.isDigit = true) :
    (number .whole a).reads (ds ++ rest) =
      (number .whole { a with whole := (ds.map digit).reverse ++ a.whole }).reads rest := by
  induction ds generalizing a with
  | nil => rfl
  | cons d ds ih =>
    obtain ⟨hd, hds⟩ := List.forall_mem_cons.1 h
    have hstep : (number .whole a).step d =
        (number .whole { a with whole := digit d :: a.whole }, []) := by
      show inNumber .whole a d = _
      unfold inNumber
      rw [digit?_of_isDigit hd]
    rw [List.cons_append, reads, hstep, List.nil_append, ih _ hds]
    simp

/-- Only the number zero begins with a zero. -/
theorem toDigits_of_head?_zero {n : Nat} (h : (Nat.toDigits 10 n).head? = some '0') :
    Nat.toDigits 10 n = ['0'] := by
  induction n using Nat.strongRecOn with
  | ind n ih =>
    by_cases hsmall : n < 10
    · rw [Nat.toDigits_of_lt_base hsmall] at h ⊢
      rw [Option.some.inj h]
    · -- The digits in front of the last one are those of a smaller number, which is not zero.
      rw [Nat.toDigits_of_base_le (by decide) (by omega),
        List.head?_append_of_ne_nil _ Nat.toDigits_ne_nil] at h
      have hfront := ih (n / 10) (by omega) h
      have hzero := Nat.ofDigitChars_ten_toDigits (n := n / 10)
      rw [hfront] at hzero
      have : n / 10 = 0 := hzero.symm
      omega

/-- The digits of a number behind the first one, up to where the number ends. -/
theorem reads_digits {n : Nat} {c : Char} {ds rest : List Char} (a : Numeral)
    (h : Nat.toDigits 10 n = c :: ds) (hrest : EndsNumber rest) :
    (number (if c = '0' then .zero else .whole) { a with whole := [digit c] }).reads (ds ++ rest) =
      .number { a with whole := ((Nat.toDigits 10 n).map digit).reverse }.toNumber ::
        between.reads rest := by
  by_cases hzero : c = '0'
  · have hone : Nat.toDigits 10 n = ['0'] := toDigits_of_head?_zero (by rw [h, hzero]; rfl)
    rw [hone] at h ⊢
    obtain ⟨rfl, rfl⟩ := List.cons.inj h
    exact reads_number_of_ends (.inl rfl) hrest
  · have hdigits := (Digits.areDigits_toDigits n).2
    rw [h] at hdigits
    rw [if_neg hzero, reads_whole_append _ (List.forall_mem_cons.1 hdigits).2,
      reads_number_of_ends (.inr rfl) hrest, h, List.map_cons, List.reverse_cons]

/-- The digits of a number stand for the number. -/
theorem foldl_digits (n : Nat) :
    ((Nat.toDigits 10 n).map digit).foldl (fun n d => 10 * n + d) 0 = n := by
  rw [List.foldl_map]
  refine (Digits.toNat_eq_ofDigitChars (Digits.areDigits_toDigits n).2).trans ?_
  exact Nat.ofDigitChars_ten_toDigits

/-- An integer of 64 bits, signed or not, is scanned as a whole. -/
theorem reads_integer {n : Int} (hmin : Numeral.minSigned ≤ n) (hmax : n ≤ Numeral.maxWhole)
    {rest : List Char} (hrest : EndsNumber rest) :
    between.reads ((toString n).toList ++ rest) =
      .number (.integer n) :: between.reads rest := by
  cases n with
  | ofNat k =>
    obtain ⟨c, ds, hdigits, hc⟩ := Digits.exists_toDigits_eq_cons k
    have hvalue : Numeral.toNumber { whole := ((Nat.toDigits 10 k).map digit).reverse } =
        .integer k := by
      have hbound : k ≤ Numeral.maxWhole := by
        rw [Int.ofNat_eq_natCast] at hmax
        omega
      simp [Numeral.toNumber, Numeral.toInteger?, foldl_digits, hbound]
    rw [Digits.toList_toString_ofNat, hdigits, List.cons_append, reads]
    show (start c).2 ++ (start c).1.reads (ds ++ rest) = _
    rw [start_of_isDigit hc, List.nil_append, reads_digits {} hdigits hrest, hvalue]
    rfl
  | negSucc k =>
    obtain ⟨c, ds, hdigits, hc⟩ := Digits.exists_toDigits_eq_cons (k + 1)
    have hvalue : Numeral.toNumber
        { negative := true, whole := ((Nat.toDigits 10 (k + 1)).map digit).reverse } =
        .integer (Int.negSucc k) := by
      have hbound : ¬ (-1 : Int) < Numeral.minSigned + k := by
        rw [Int.negSucc_eq] at hmin
        omega
      simp [Numeral.toNumber, Numeral.toInteger?, foldl_digits, hbound, Int.negSucc_eq]
    rw [Digits.toList_toString_negSucc, hdigits, List.cons_append, List.cons_append, reads, reads]
    show (inNumber .sign { negative := true } c).2 ++
      (inNumber .sign { negative := true } c).1.reads (ds ++ rest) = _
    rw [inNumber_sign_of_isDigit _ hc, List.nil_append,
      reads_digits { negative := true } hdigits hrest, hvalue]

/-! ### Texts -/

theorem hexValue?_hexDigit : ∀ n < 16, hexValue? (hexDigit n) = some n := by decide

/-- A hexadecimal digit of an escape, which may be the last one. -/
theorem reads_code {q : Quote} {left value d : Nat} {c : Char} {cs : List Char}
    (h : hexValue? c = some d) : (code q left value).reads (c :: cs) =
      if left ≤ 1 then (quote (q.pushCode (16 * value + d))).reads cs
      else (code q (left - 1) (16 * value + d)).reads cs := by
  rw [reads, step, h]
  simp only []
  split
  · rfl
  · rfl

/-- A character is scanned from its escaped form. -/
theorem reads_escape (q : Quote) (hhalf : q.half = none) (c : Char) (rest : List Char) :
    (quote q).reads (Json.escape c ++ rest) = (quote (q.push c)).reads rest := by
  unfold Json.escape
  -- Seven characters have an escape of one letter.
  iterate 7
    split
    · next h =>
      subst h
      rfl
  split
  · next h =>
    -- An escape with the code of the character.
    have hzero : hexValue? '0' = some 0 := by decide
    have hhigh := hexValue?_hexDigit (c.toNat / 16) (by omega)
    have hlow := hexValue?_hexDigit (c.toNat % 16) (by omega)
    have hcode : 16 * (16 * (16 * (16 * 0 + 0) + 0) + c.toNat / 16) + c.toNat % 16 = c.toNat := by
      omega
    have hpush : q.pushCode c.toNat = q.push c := by
      rw [Quote.pushCode, hhalf]
      simp only []
      rw [if_neg (by omega), if_neg (by omega), Char.ofNat_toNat]
    show (code q 4 0).reads ('0' :: '0' :: hexDigit (c.toNat / 16) ::
      hexDigit (c.toNat % 16) :: rest) = _
    rw [reads_code hzero, if_neg (by decide), reads_code hzero, if_neg (by decide),
      reads_code hhigh, if_neg (by decide), reads_code hlow, if_pos (by decide), hcode, hpush]
  · next hquote hslash _ _ _ _ _ hcontrol =>
    rw [List.cons_append, List.nil_append, reads, step, if_neg hquote, if_neg hslash,
      if_neg hcontrol]
    rfl

theorem reads_escapes (chars cs rest : List Char) :
    (quote { chars := chars }).reads (cs.flatMap Json.escape ++ rest) =
      (quote { chars := cs.reverse ++ chars }).reads rest := by
  induction cs generalizing chars with
  | nil => rfl
  | cons c cs ih =>
    rw [List.flatMap_cons, List.append_assoc, reads_escape _ rfl, List.reverse_cons,
      List.append_assoc]
    exact ih (c :: chars)

/-- A quoted text is scanned as a whole. -/
theorem reads_quote (s : String) (rest : List Char) :
    between.reads (Json.quote s rest) = .text (some s) :: between.reads rest := by
  show (quote {}).reads (s.toList.flatMap Json.escape ++ '"' :: rest) = _
  rw [reads_escapes]
  show .text (some (String.ofList (s.toList.reverse ++ []).reverse)) :: between.reads rest = _
  rw [List.append_nil, List.reverse_reverse, String.ofList_toList]

end Scanner

/-! ### Values -/

mutual

/-- The words of a value. -/
def words : Json → List Token
  | null => [.null]
  | bool b => [.bool b]
  | integer n => [.number (.integer n)]
  | float x => [.number (.float x)]
  | text s => [.text (some s)]
  | array items => .openArray :: (itemWords items ++ [.closeArray])
  | object members => .openObject :: (memberWords members ++ [.closeObject])

/-- The words of some items with commas between them. -/
def itemWords : List Json → List Token
  | [] => []
  | [j] => j.words
  | j :: k :: js => j.words ++ .comma :: itemWords (k :: js)

/-- The words of some members with commas between them. -/
def memberWords : List (String × Json) → List Token
  | [] => []
  | [(k, j)] => .text (some k) :: .colon :: j.words
  | (k, j) :: m :: ms => .text (some k) :: .colon :: (j.words ++ .comma :: memberWords (m :: ms))

end

mutual

/-- A value that is printed is scanned as its words. -/
theorem reads_write : ∀ (j : Json) {rest : List Char}, j.all isExact = true → EndsNumber rest →
    between.reads (j.write rest) = j.words ++ between.reads rest
  | null, _, _, _ => rfl
  | bool true, _, _, _ => rfl
  | bool false, _, _, _ => rfl
  | integer n, rest, h, hrest => by
    obtain ⟨hmin, hmax⟩ : Numeral.minSigned ≤ n ∧ n ≤ Numeral.maxWhole := of_decide_eq_true h
    exact reads_integer hmin hmax hrest
  | float _, _, h, _ => nomatch h
  | text s, rest, _, _ => reads_quote s rest
  | array items, rest, h, _ => by
    rw [all, Bool.and_eq_true] at h
    have hend : EndsNumber (']' :: rest) := by simp [EndsNumber]
    show .openArray :: between.reads (writeItems items (']' :: rest)) = _
    rw [reads_writeItems items h.2 hend, words, List.cons_append, List.append_assoc]
    rfl
  | object members, rest, h, _ => by
    rw [all, Bool.and_eq_true] at h
    have hend : EndsNumber ('\x7d' :: rest) := by simp [EndsNumber]
    show .openObject :: between.reads (writeMembers members ('\x7d' :: rest)) = _
    rw [reads_writeMembers members h.2 hend, words, List.cons_append, List.append_assoc]
    rfl

theorem reads_writeItems : ∀ (items : List Json) {rest : List Char},
    allItems isExact items = true → EndsNumber rest →
    between.reads (writeItems items rest) = itemWords items ++ between.reads rest
  | [], _, _, _ => rfl
  | [j], rest, h, hrest => by
    rw [allItems, Bool.and_eq_true] at h
    exact reads_write j h.1 hrest
  | j :: k :: js, rest, h, hrest => by
    rw [allItems, Bool.and_eq_true] at h
    have hnext := reads_writeItems (k :: js) h.2 hrest
    rw [writeItems, reads_write j h.1 (by simp [EndsNumber]), itemWords, List.append_assoc,
      List.cons_append, ← hnext]
    rfl

theorem reads_writeMembers : ∀ (members : List (String × Json)) {rest : List Char},
    allMembers isExact members = true → EndsNumber rest →
    between.reads (writeMembers members rest) = memberWords members ++ between.reads rest
  | [], _, _, _ => rfl
  | [(k, j)], rest, h, hrest => by
    rw [allMembers, Bool.and_eq_true] at h
    rw [writeMembers, reads_quote, memberWords, List.cons_append, List.cons_append,
      ← reads_write j h.1 hrest]
    rfl
  | (k, j) :: m :: ms, rest, h, hrest => by
    rw [allMembers, Bool.and_eq_true] at h
    have hnext := reads_writeMembers (m :: ms) h.2 hrest
    have hend : EndsNumber (',' :: writeMembers (m :: ms) rest) := by simp [EndsNumber]
    rw [writeMembers, reads_quote, memberWords]
    show _ :: .colon :: between.reads (j.write (',' :: writeMembers (m :: ms) rest)) = _
    rw [reads_write j h.1 hend, List.cons_append, List.cons_append, List.append_assoc,
      List.cons_append, ← hnext]
    rfl

end

/-- The words of a value are the tokens of its text. -/
theorem tokens_print {j : Json} (h : j.all isExact = true) :
    tokens (j.print.toList.map some) = j.words := by
  rw [tokens_map_some, print, String.toList_ofList, reads_write j h (by simp [EndsNumber])]
  exact List.append_nil _

/-! ### The tokens of any text -/

/-- An integer among the numbers fits in 64 bits. -/
def Number.Fits : Number → Prop
  | .integer n => Numeral.minSigned ≤ n ∧ n ≤ Numeral.maxWhole
  | _ => True

/-- An integer among the tokens fits in 64 bits. -/
def Token.Fits : Token → Prop
  | .number n => n.Fits
  | _ => True

theorem Numeral.toInteger?_fits {a : Numeral} {n : Int} (h : a.toInteger? = some n) :
    minSigned ≤ n ∧ n ≤ maxWhole := by
  have hmin : minSigned ≤ 0 := by decide
  unfold toInteger? at h
  split at h
  · exact absurd h nofun
  · simp only [] at h
    generalize a.whole.reverse.foldl (fun n d => 10 * n + d) 0 = k at h
    split at h
    · split at h
      · exact absurd h nofun
      · obtain rfl := Option.some.inj h
        omega
    · split at h
      · obtain rfl := Option.some.inj h
        omega
      · exact absurd h nofun

theorem Numeral.toNumber_fits (a : Numeral) : a.toNumber.Fits := by
  unfold toNumber
  split
  · next h => exact toInteger?_fits h
  · split
    · trivial
    · trivial

namespace Scanner

/-- The word that a scanner is about to complete fits. -/
def Fits : Scanner → Prop
  | word _ token => token.Fits
  | _ => True

/-- What a step yields fits, and so does what the scanner holds after it. -/
def FitsAfter (r : Scanner × List Token) : Prop := r.1.Fits ∧ ∀ t ∈ r.2, t.Fits

theorem FitsAfter.ite {p : Prop} [Decidable p] {a b : Scanner × List Token} (ha : FitsAfter a)
    (hb : FitsAfter b) : FitsAfter (if p then a else b) := by
  split
  · exact ha
  · exact hb

/-- Most steps go on inside a token and complete none. -/
theorem FitsAfter.silent {s : Scanner} (h : s.Fits) : FitsAfter (s, []) := ⟨h, by simp⟩

/-- A step that completes one token. -/
theorem FitsAfter.single {s : Scanner} {t : Token} (h : s.Fits) (ht : t.Fits) :
    FitsAfter (s, [t]) := ⟨h, by simpa using ht⟩

theorem FitsAfter.broken : FitsAfter (stopped, [.broken]) := .single trivial trivial

/-- A step that completes a token before a character that begins another one. -/
theorem FitsAfter.cons {r : Scanner × List Token} {t : Token} (ht : t.Fits) (h : FitsAfter r) :
    FitsAfter (r.1, t :: r.2) := ⟨h.1, List.forall_mem_cons.2 ⟨ht, h.2⟩⟩

theorem fitsAfter_start (c : Char) : FitsAfter (start c) := by
  unfold start
  refine .ite (.silent trivial) ?_
  iterate 6 refine .ite (.single trivial trivial) ?_
  iterate 5 refine .ite (.silent trivial) ?_
  split
  · exact .silent trivial
  · exact .silent trivial
  · exact .broken

theorem fitsAfter_finish (a : Numeral) (c : Char) : FitsAfter (finish a c) :=
  .cons a.toNumber_fits (fitsAfter_start c)

theorem fitsAfter_inNumber (place : NumberPlace) (a : Numeral) (c : Char) :
    FitsAfter (inNumber place a c) := by
  have hfinish := fitsAfter_finish a c
  simp only [inNumber]
  split
  -- A character goes on with the number, breaks it, or stands behind it.
  all_goals first
    | exact .silent trivial
    | exact .broken
    | exact hfinish
    | exact .ite (.silent trivial) hfinish
    | exact .ite (.silent trivial) (.ite (.silent trivial) hfinish)
    | exact .ite (.silent trivial) (.ite (.silent trivial) .broken)

theorem fitsAfter_step {s : Scanner} (h : s.Fits) (c : Char) : FitsAfter (s.step c) := by
  cases s with
  | between => exact fitsAfter_start c
  | word rest token =>
    match rest with
    | [] => exact .cons h (fitsAfter_start c)
    | [l] => exact .ite (.single trivial h) .broken
    | l :: k :: rest => exact .ite (.silent h) .broken
  | number place a => exact fitsAfter_inNumber place a c
  | quote q =>
    exact .ite (.single trivial trivial) (.ite (.silent trivial) (.ite .broken (.silent trivial)))
  | escape q =>
    refine .ite (.silent trivial) ?_
    split
    · exact .silent trivial
    · exact .broken
  | code q left value =>
    rw [step]
    split
    · exact .broken
    · exact .ite (.silent trivial) (.silent trivial)
  | stopped => exact .silent trivial

theorem fits_of_mem_close {s : Scanner} {t : Token} (h : t ∈ s.close) : t.Fits := by
  unfold close at h
  split at h
  · exact absurd h List.not_mem_nil
  · exact absurd h List.not_mem_nil
  · split at h
    all_goals
      rw [List.mem_singleton.1 h]
      first
      | exact Numeral.toNumber_fits _
      | trivial
  · rw [List.mem_singleton.1 h]
    trivial

/-- Every token that a scanner finds fits. -/
theorem fits_of_mem_reads {s : Scanner} (h : s.Fits) {cs : List Char} :
    ∀ t ∈ s.reads cs, t.Fits := by
  induction cs generalizing s with
  | nil => exact fun t => fits_of_mem_close
  | cons c cs ih =>
    obtain ⟨hnext, htokens⟩ := fitsAfter_step h c
    intro t ht
    rcases List.mem_append.1 ht with ht | ht
    · exact htokens t ht
    · exact ih hnext t ht

end Scanner

end Outbox.Json
