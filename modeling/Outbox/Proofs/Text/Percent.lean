import Outbox.Proofs.Text.Numeral
import Mathlib.Logic.Function.Basic

/-!
# Percent-encoding and back

Percent-decoding takes back what percent-encoding has done, as long as the percent sign
itself is among the reserved characters (`decode_encode`). Together with the fact that bytes
determine the text that they encode, this makes the encoding of a text its own
(`encode_injective`).

Which characters occur in an encoding is told by `mem_encode`: percent signs, digits and
characters that are not reserved.
-/

namespace Outbox.Text

namespace Utf8

/-- Texts with the same bytes are the same. -/
theorem encode_injective : Function.Injective encode := by
  intro cs ds h
  have hbytes : cs.utf8Encode = ds.utf8Encode := congrArg List.toByteArray h
  have hread := congrArg ByteArray.utf8Decode? hbytes
  rw [List.utf8Decode?_utf8Encode, List.utf8Decode?_utf8Encode] at hread
  exact List.toArray_inj (Option.some.inj hread)

end Utf8

namespace Percent

theorem hexValue?_hexDigit : ∀ n < 16, hexValue? (hexDigit n) = some n := by decide

theorem hexDigit_ne_slash : ∀ n < 16, hexDigit n ≠ '/' := by decide

/-! ### Decoding -/

theorem decode_cons_of_ne {c : Char} (h : c ≠ '%') (rest : List Char) :
    decode (c :: rest) = String.utf8EncodeChar c ++ decode rest := by
  rw [decode]
  rintro a b rest' rfl
  exact absurd rfl h

theorem decode_encodeByte_append (b : UInt8) (rest : List Char) :
    decode (encodeByte b ++ rest) = b :: decode rest := by
  have hb : b.toNat < 256 := b.toNat_lt
  have hhigh : hexValue? (hexDigit (b.toNat / 16)) = some (b.toNat / 16) :=
    hexValue?_hexDigit _ (by omega)
  have hlow : hexValue? (hexDigit (b.toNat % 16)) = some (b.toNat % 16) :=
    hexValue?_hexDigit _ (by omega)
  rw [encodeByte, List.cons_append, List.cons_append, List.cons_append, List.nil_append, decode]
  simp only [hhigh, hlow]
  rw [Nat.div_add_mod, UInt8.ofNat_toNat]

theorem decode_encodeBytes_append (bs : List UInt8) (rest : List Char) :
    decode (bs.flatMap encodeByte ++ rest) = bs ++ decode rest := by
  induction bs with
  | nil => rfl
  | cons b bs ih => rw [List.flatMap_cons, List.append_assoc, decode_encodeByte_append, ih]; rfl

section

variable {reserved : Char → Bool}

theorem decode_encodeChar_append (hpercent : reserved '%' = true) (c : Char)
    (rest : List Char) :
    decode (encodeChar reserved c ++ rest) = String.utf8EncodeChar c ++ decode rest := by
  rw [encodeChar]
  split
  · exact decode_encodeBytes_append _ _
  · next hplain =>
    have hne : c ≠ '%' := by
      rintro rfl
      simp [hpercent] at hplain
    exact decode_cons_of_ne hne rest

/-- Decoding gives the bytes of the text that was encoded. -/
theorem decode_encode (hpercent : reserved '%' = true) (cs : List Char) :
    decode (encode reserved cs) = Utf8.encode cs := by
  induction cs with
  | nil => rfl
  | cons c cs ih =>
    rw [encode, List.flatMap_cons, decode_encodeChar_append hpercent, ← encode, ih]
    rfl

theorem encode_injective (hpercent : reserved '%' = true) :
    Function.Injective (encode reserved) := by
  intro cs ds h
  have hbytes := congrArg decode h
  rw [decode_encode hpercent, decode_encode hpercent] at hbytes
  exact Utf8.encode_injective hbytes

/-! ### What an encoding consists of -/

theorem mem_encode {cs : List Char} {d : Char} (h : d ∈ encode reserved cs) :
    d = '%' ∨ (∃ n < 16, d = hexDigit n) ∨ (d ∈ cs ∧ reserved d = false) := by
  obtain ⟨c, hc, hd⟩ := List.mem_flatMap.1 h
  rw [encodeChar] at hd
  split at hd
  · obtain ⟨b, -, hd⟩ := List.mem_flatMap.1 hd
    have hb : b.toNat < 256 := b.toNat_lt
    simp only [encodeByte, List.mem_cons, List.not_mem_nil, or_false] at hd
    rcases hd with rfl | rfl | rfl
    · exact .inl rfl
    · exact .inr (.inl ⟨b.toNat / 16, by omega, rfl⟩)
    · exact .inr (.inl ⟨b.toNat % 16, by omega, rfl⟩)
  · next hplain =>
    obtain rfl := List.mem_singleton.1 hd
    simp only [Bool.or_eq_true, not_or, Bool.not_eq_true] at hplain
    exact .inr (.inr ⟨hc, hplain.1⟩)

/-- A slash is in an encoding only if it was in the text and is not reserved. -/
theorem slash_mem_encode {cs : List Char} (h : '/' ∈ encode reserved cs) :
    '/' ∈ cs ∧ reserved '/' = false := by
  rcases mem_encode h with hpercent | ⟨n, hn, hdigit⟩ | hplain
  · exact absurd hpercent (by decide)
  · exact absurd hdigit.symm (hexDigit_ne_slash n hn)
  · exact hplain

end

end Percent

end Outbox.Text
