import Outbox.Text.Digits
import Outbox.Text.Percent
import Mathlib.Data.List.Basic

/-!
# Numerals

A `Numeral` is a whole number as it is written: some decimal digits, perhaps with zeros in
front, and perhaps a sign. `integer?_eq_some_iff` says that these are the texts that are read as
integers, with the values that they have.

In an address a numeral may be spelled with percent signs. What it spells consists of ASCII
characters, each a byte of its own, so that decoding gives the numeral back.
-/

namespace Outbox

namespace Digits

/-! ### Digits -/

theorem value?_eq_some_iff {c : Char} {n : Nat} :
    value? c = some n ↔ c.isDigit = true ∧ c.toNat - '0'.toNat = n := by
  have hdigit : c.isDigit = true ↔ '0' ≤ c ∧ c ≤ '9' := by
    simp [Char.isDigit, Char.le_def]
  rw [value?, hdigit]
  split
  · next h => simp [h]
  · next h => exact iff_of_false nofun fun k => h k.1

/-- The codes of the digits. -/
theorem toNat_bounds_of_isDigit {c : Char} (h : c.isDigit = true) :
    48 ≤ c.toNat ∧ c.toNat ≤ 57 := by
  simpa [Char.isDigit, UInt32.le_iff_toNat_le] using h

theorem isSome_value? (c : Char) : (value? c).isSome = c.isDigit := by
  rw [Bool.eq_iff_iff, Option.isSome_iff_exists]
  simp [value?_eq_some_iff]

/-- Digits stand for the number of which they are the digits in base ten. -/
theorem toNat_eq_ofDigitChars {cs : List Char} (h : ∀ c ∈ cs, c.isDigit = true) :
    toNat cs = Nat.ofDigitChars 10 cs 0 := by
  rw [toNat, Nat.ofDigitChars_eq_foldl]
  refine List.foldl_ext _ _ _ fun n c hc => ?_
  rw [value?_eq_some_iff.2 ⟨h c hc, rfl⟩]
  rfl

/-- Some digits, at least one. -/
def AreDigits (cs : List Char) : Prop := cs ≠ [] ∧ ∀ c ∈ cs, c.isDigit = true

/-- The digits of a number. -/
theorem areDigits_toDigits (n : Nat) : AreDigits (Nat.toDigits 10 n) :=
  ⟨Nat.toDigits_ne_nil, fun _ hc => Nat.isDigit_of_mem_toDigits (by decide) (by decide) hc⟩

theorem exists_toDigits_eq_cons (n : Nat) :
    ∃ c ds, Nat.toDigits 10 n = c :: ds ∧ c.isDigit = true := by
  obtain ⟨hne, hdigits⟩ := areDigits_toDigits n
  obtain ⟨c, ds, hcons⟩ := List.exists_cons_of_ne_nil hne
  exact ⟨c, ds, hcons, hdigits c (hcons ▸ List.mem_cons_self)⟩

/-- A whole number as it is written. -/
inductive Numeral : List Char → Int → Prop where
  /-- Without a sign. -/
  | plain {cs : List Char} : AreDigits cs → Numeral cs (Nat.ofDigitChars 10 cs 0)
  /-- With a plus sign. -/
  | plus {cs : List Char} : AreDigits cs → Numeral ('+' :: cs) (Nat.ofDigitChars 10 cs 0)
  /-- With a minus sign. -/
  | minus {cs : List Char} : AreDigits cs → Numeral ('-' :: cs) (-(Nat.ofDigitChars 10 cs 0))

theorem toList_toString_ofNat (n : Nat) :
    (toString (Int.ofNat n)).toList = Nat.toDigits 10 n := by
  rw [show toString (Int.ofNat n) = n.repr from rfl, Nat.repr_eq_ofList_toDigits,
    String.toList_ofList]

theorem toList_toString_negSucc (n : Nat) :
    (toString (Int.negSucc n)).toList = '-' :: Nat.toDigits 10 (n + 1) := by
  rw [show toString (Int.negSucc n) = "-" ++ (n + 1).repr from rfl,
    Nat.repr_eq_ofList_toDigits, String.toList_append, String.toList_ofList]
  simp

/-- An integer is written as a numeral of its own. -/
theorem numeral_toString (n : Int) : Numeral (toString n).toList n := by
  cases n with
  | ofNat k =>
    have h := Numeral.plain (areDigits_toDigits k)
    rw [Nat.ofDigitChars_ten_toDigits] at h
    rw [toList_toString_ofNat]
    exact h
  | negSucc k =>
    have h := Numeral.minus (areDigits_toDigits (k + 1))
    rw [Nat.ofDigitChars_ten_toDigits] at h
    rw [toList_toString_negSucc, Int.negSucc_eq]
    exact h

/-! ### Reading -/

theorem AreDigits.not_cons {cs : List Char} {c : Char} (h : AreDigits (c :: cs))
    (hc : c.isDigit = false) : False := by
  simpa [hc] using h.2 c List.mem_cons_self

theorem ite_all_eq_some_iff {d : Char} {ds : List Char} {n : Nat} :
    (if (d :: ds).all fun c => (value? c).isSome then some (toNat (d :: ds)) else none) = some n ↔
      AreDigits (d :: ds) ∧ n = Nat.ofDigitChars 10 (d :: ds) 0 := by
  have hall : (d :: ds).all (fun c => (value? c).isSome) = true ↔ AreDigits (d :: ds) := by
    simp [AreDigits, isSome_value?]
  simp only [Option.ite_none_right_eq_some, hall, Option.some.injEq, @eq_comm _ n]
  exact and_congr_right fun h => by rw [toNat_eq_ofDigitChars h.2]

theorem number?_plus_eq_some_iff {ds : List Char} {n : Nat} :
    number? ('+' :: ds) = some n ↔ AreDigits ds ∧ n = Nat.ofDigitChars 10 ds 0 := by
  cases ds with
  | nil => exact iff_of_false nofun fun h => h.1.1 rfl
  | cons d ds => exact ite_all_eq_some_iff

theorem number?_of_ne_plus {cs : List Char} {n : Nat} (h : ∀ ds, cs ≠ '+' :: ds) :
    number? cs = some n ↔ AreDigits cs ∧ n = Nat.ofDigitChars 10 cs 0 := by
  unfold number?
  split
  · next ds => exact absurd rfl (h ds)
  · cases cs with
    | nil => exact iff_of_false nofun fun h => h.1.1 rfl
    | cons d ds => exact ite_all_eq_some_iff

/-- A number is read from its digits, with a plus sign or without. -/
theorem number?_eq_some_iff {cs : List Char} {n : Nat} :
    number? cs = some n ↔
      ∃ ds, AreDigits ds ∧ (cs = ds ∨ cs = '+' :: ds) ∧ n = Nat.ofDigitChars 10 ds 0 := by
  by_cases hplus : ∃ ds, cs = '+' :: ds
  · obtain ⟨rest, rfl⟩ := hplus
    rw [number?_plus_eq_some_iff]
    constructor
    · exact fun ⟨h, hn⟩ => ⟨rest, h, .inr rfl, hn⟩
    · rintro ⟨ds, h, rfl | hcs, hn⟩
      · exact (h.not_cons (by decide)).elim
      · obtain rfl := (List.cons.inj hcs).2
        exact ⟨h, hn⟩
  · have hne : ∀ ds, cs ≠ '+' :: ds := fun ds hcs => hplus ⟨ds, hcs⟩
    rw [number?_of_ne_plus hne]
    constructor
    · exact fun ⟨h, hn⟩ => ⟨cs, h, .inl rfl, hn⟩
    · rintro ⟨ds, h, rfl | hcs, hn⟩
      · exact ⟨h, hn⟩
      · exact absurd hcs (hne ds)

/-- The texts that are read as integers are the numerals. -/
theorem integer?_eq_some_iff {cs : List Char} {n : Int} :
    integer? cs = some n ↔ Numeral cs n := by
  unfold integer?
  split
  · next rest =>
    have hfront : AreDigits rest → atFront rest = true := by
      cases rest with
      | nil => exact fun h => absurd rfl h.1
      | cons c rest => simpa [atFront, isSome_value?] using fun h => h.2 c List.mem_cons_self
    constructor
    · intro h
      simp only [Option.ite_none_right_eq_some, Option.map_eq_some_iff] at h
      obtain ⟨hdigit, k, hk, rfl⟩ := h
      obtain ⟨a, ha, hak⟩ := Option.bind_eq_some_iff.1 hk
      obtain rfl := Option.some.inj hak
      obtain ⟨ds, hds, rfl | rfl, rfl⟩ := number?_eq_some_iff.1 ha
      · exact .minus hds
      · simp [atFront, value?] at hdigit
    · intro h
      generalize hcs : '-' :: rest = cs at h
      cases h with
      | plain h => exact ((hcs ▸ h).not_cons (by decide)).elim
      | plus h => simp at hcs
      | minus h =>
        obtain rfl := (List.cons.inj hcs).2
        rw [if_pos (hfront h), number?_eq_some_iff.2 ⟨_, h, .inl rfl, rfl⟩]
        rfl
  · next hminus =>
    constructor
    · intro h
      obtain ⟨k, hk, rfl⟩ := Option.map_eq_some_iff.1 h
      obtain ⟨ds, hds, rfl | rfl, rfl⟩ := number?_eq_some_iff.1 hk
      · exact .plain hds
      · exact .plus hds
    · intro h
      cases h with
      | plain h => rw [number?_eq_some_iff.2 ⟨_, h, .inl rfl, rfl⟩]; rfl
      | plus h => rw [number?_eq_some_iff.2 ⟨_, h, .inr rfl, rfl⟩]; rfl
      | minus h => exact (hminus _ rfl).elim

end Digits

namespace Text

/-! ### Bytes -/

/-- Characters that are bytes of their own. -/
def AreAscii (cs : List Char) : Prop := ∀ c ∈ cs, c.toNat < 0x80

theorem utf8EncodeChar_of_ascii {c : Char} (h : c.toNat < 0x80) :
    String.utf8EncodeChar c = [UInt8.ofNat c.toNat] := by
  rw [String.utf8EncodeChar]
  exact if_pos (Nat.le_of_lt_succ h)

theorem toNat_ofNat_of_ascii {c : Char} (h : c.toNat < 0x80) :
    (UInt8.ofNat c.toNat).toNat = c.toNat :=
  UInt8.toNat_ofNat_of_lt' (Nat.lt_trans h (by decide))

namespace Utf8

theorem encode_of_ascii {cs : List Char} (h : AreAscii cs) :
    encode cs = cs.map fun c => UInt8.ofNat c.toNat := by
  induction cs with
  | nil => rfl
  | cons c cs ih =>
    have hcs := ih fun d hd => h d (List.mem_cons_of_mem _ hd)
    rw [encode] at hcs
    rw [encode, List.flatMap_cons, hcs, utf8EncodeChar_of_ascii (h c List.mem_cons_self)]
    rfl

/-- Bytes of ASCII characters, read one at a time, give these characters. -/
theorem foldl_ascii {read : State × List Piece → UInt8 → State × List Piece} {cs : List Char}
    (hread : ∀ found c, c.toNat < 0x80 →
      read (.between, found) (UInt8.ofNat c.toNat) = (.between, some c :: found))
    (h : AreAscii cs) (found : List Piece) :
    (cs.map fun c => UInt8.ofNat c.toNat).foldl read (.between, found) =
      (.between, (cs.map some).reverse ++ found) := by
  induction cs generalizing found with
  | nil => rfl
  | cons c cs ih =>
    have hcs : AreAscii cs := fun d hd => h d (List.mem_cons_of_mem _ hd)
    rw [List.map_cons, List.foldl_cons, hread found c (h c List.mem_cons_self), ih hcs]
    simp

theorem pieces_encode_of_ascii {cs : List Char} (h : AreAscii cs) :
    pieces (encode cs) = cs.map some := by
  have hstep : ∀ c : Char, c.toNat < 0x80 → step .between c.toNat = (.between, [some c]) := by
    intro c hc
    rw [step, first, if_pos hc, Char.ofNat_toNat]
  rw [encode_of_ascii h, pieces, foldl_ascii (fun found c hc => ?_) h]
  · simp [close]
  · simp [toNat_ofNat_of_ascii hc, hstep c hc]

theorem decode?_encode_of_ascii {cs : List Char} (h : AreAscii cs) :
    decode? (encode cs) = some (String.ofList cs) := by
  have hall : (cs.map some).mapM id = some cs := by
    induction cs with
    | nil => rfl
    | cons c cs ih =>
      rw [List.map_cons, List.mapM_cons, ih fun d hd => h d (List.mem_cons_of_mem _ hd)]
      rfl
  rw [decode?, pieces_encode_of_ascii h, hall]
  rfl

end Utf8

namespace Percent

theorem hexValue?_slash : hexValue? '/' = none := by decide

/-- What stands for a slash among the bytes may be spelled in other ways, but a slash always
does. -/
theorem slash_mem_decode {cs : List Char} (h : '/' ∈ cs) : 0x2F ∈ decode cs := by
  fun_induction decode cs with
  | case1 a b rest x y hx hy ih =>
    have hne : '/' ∉ ['%', a, b] := by
      rintro hmem
      simp only [List.mem_cons, List.not_mem_nil, or_false] at hmem
      rcases hmem with hmem | rfl | rfl
      · exact absurd hmem (by decide)
      · exact absurd (hexValue?_slash.symm.trans ‹hexValue? '/' = some _›) nofun
      · exact absurd (hexValue?_slash.symm.trans ‹hexValue? '/' = some _›) nofun
    have hrest : '/' ∈ rest := by simp_all
    exact List.mem_cons_of_mem _ (ih hrest)
  | case2 a b rest hnot ih =>
    have hrest : '/' ∈ a :: b :: rest := by simpa using h
    exact List.mem_cons_of_mem _ (ih hrest)
  | case3 c rest hnot ih =>
    rcases List.mem_cons.1 h with rfl | hrest
    · exact List.mem_append_left _ (by decide)
    · exact List.mem_append_right _ (ih hrest)
  | case4 => exact absurd h List.not_mem_nil

theorem decode_of_not_percent_mem {cs : List Char} (h : '%' ∉ cs) :
    decode cs = Utf8.encode cs := by
  fun_induction decode cs with
  | case1 a b rest x y hx hy ih => exact absurd List.mem_cons_self h
  | case2 a b rest hnot ih => exact absurd List.mem_cons_self h
  | case3 c rest hnot ih => rw [ih fun hmem => h (List.mem_cons_of_mem _ hmem)]; rfl
  | case4 => rfl

end Percent

end Text

namespace Digits

theorem AreDigits.areAscii {cs : List Char} (h : AreDigits cs) : Text.AreAscii cs := by
  intro c hc
  have hbounds := toNat_bounds_of_isDigit (h.2 c hc)
  omega

theorem Numeral.areAscii {cs : List Char} {n : Int} (h : Numeral cs n) : Text.AreAscii cs := by
  cases h with
  | plain h => exact h.areAscii
  | plus h => exact List.forall_mem_cons.2 ⟨by decide, h.areAscii⟩
  | minus h => exact List.forall_mem_cons.2 ⟨by decide, h.areAscii⟩

/-- A numeral is no more than its digits and a sign. -/
theorem Numeral.not_mem {cs : List Char} {n : Int} (h : Numeral cs n) {c : Char}
    (hdigit : c.isDigit = false) (hplus : c ≠ '+') (hminus : c ≠ '-') : c ∉ cs := by
  have hdigits : ∀ {ds : List Char}, AreDigits ds → c ∉ ds := fun h hmem => by
    simpa [hdigit] using h.2 c hmem
  cases h with
  | plain h => exact hdigits h
  | plus h => simpa [hplus] using hdigits h
  | minus h => simpa [hminus] using hdigits h

theorem Numeral.ne_nil {cs : List Char} {n : Int} (h : Numeral cs n) : cs ≠ [] := by
  cases h with
  | plain h => exact h.1
  | plus h => exact List.cons_ne_nil _ _
  | minus h => exact List.cons_ne_nil _ _

/-- Some characters spell a number in an address: they are a numeral, or become one when the
percent signs are decoded. -/
def Spells (cs : List Char) (n : Int) : Prop :=
  ∃ numeral, Numeral numeral n ∧ Text.Percent.decode cs = Text.Utf8.encode numeral

/-- Each integer is spelled by its numeral as it stands. -/
theorem spells_toString (n : Int) : Spells (toString n).toList n := by
  have hnumeral := numeral_toString n
  have hpercent := hnumeral.not_mem (c := '%') (by decide) (by decide) (by decide)
  exact ⟨_, hnumeral, Text.Percent.decode_of_not_percent_mem hpercent⟩

theorem Spells.ne_nil {cs : List Char} {n : Int} (h : Spells cs n) : cs ≠ [] := by
  rintro rfl
  obtain ⟨numeral, hnumeral, hdecode⟩ := h
  rw [Text.Utf8.encode_of_ascii hnumeral.areAscii] at hdecode
  exact hnumeral.ne_nil (List.map_eq_nil_iff.1 hdecode.symm)

theorem Spells.not_slash_mem {cs : List Char} {n : Int} (h : Spells cs n) : '/' ∉ cs := by
  intro hslash
  obtain ⟨numeral, hnumeral, hdecode⟩ := h
  have hbyte := Text.Percent.slash_mem_decode hslash
  rw [hdecode, Text.Utf8.encode_of_ascii hnumeral.areAscii] at hbyte
  obtain ⟨c, hc, hcode⟩ := List.mem_map.1 hbyte
  have hnat : c.toNat = '/'.toNat := by
    rw [← Text.toNat_ofNat_of_ascii (hnumeral.areAscii c hc), hcode]
    rfl
  obtain rfl := Char.toNat_inj.1 hnat
  exact hnumeral.not_mem (by decide) (by decide) (by decide) hc

/-- What spells a number is read as the number. -/
theorem Spells.integer?_eq {cs : List Char} {n : Int} (h : Spells cs n) :
    ∃ s, Text.Utf8.decode? (Text.Percent.decode cs) = some s ∧ integer? s.toList = some n := by
  obtain ⟨numeral, hnumeral, hdecode⟩ := h
  refine ⟨String.ofList numeral, ?_, ?_⟩
  · rw [hdecode, Text.Utf8.decode?_encode_of_ascii hnumeral.areAscii]
  · rw [String.toList_ofList, integer?_eq_some_iff]
    exact hnumeral

end Digits

end Outbox
