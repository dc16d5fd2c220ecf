import Outbox.Proofs.Text.Percent
import Outbox.Url.Basic
import Mathlib.Data.List.Basic

/-!
# Paths of segments

What an address is read from decides how its path is made: behind a scheme that is known to
have a host it consists of segments without slashes, at least one (`segmented_of_parse`).

A segment that is added to a path is there afterwards as it was, percent-encoded, but for
three kinds of it (`pushSegment_of_ne_dots`). Tabs and line ends are dropped; where this
leaves one dot, an empty segment is added; and where it leaves two, an empty segment takes
the place of the segment before. Dots that are spelled with percent signs make no difference
here, since the percent sign is encoded as well (`isDot_encode`, `isDoubleDot_encode`).
-/

namespace Outbox.Url

open Text

/-! ### Dots -/

theorem eq_or_toNat_eq_of_toLower_eq {c d : Char} (h : c.toLower = d) :
    c = d ∨ (65 ≤ c.toNat ∧ d.toNat = c.toNat + 32) := by
  subst h
  by_cases hc : c.val ≥ 'A'.val ∧ c.val ≤ 'Z'.val
  · have hle : c.val.toNat ≤ 90 := hc.2
    have hcode : c.toLower.val = c.val + 32 := congrArg Char.val (dif_pos hc)
    refine .inr ⟨hc.1, ?_⟩
    change c.toLower.val.toNat = c.val.toNat + 32
    rw [hcode, UInt32.toNat_add]
    exact Nat.mod_eq_of_lt (show c.val.toNat + 32 < 2 ^ 32 by omega)
  · have hsame : c.toLower = c := dif_neg hc
    exact .inl hsame.symm

/-- What comes before the small letters has no other case. -/
theorem eq_of_toLower_eq {c d : Char} (h : c.toLower = d) (hd : d.toNat < 97) : c = d := by
  rcases eq_or_toNat_eq_of_toLower_eq h with rfl | ⟨hle, hcode⟩
  · rfl
  · omega

/-- A dot as it may be spelled in a path, in lower case. -/
def Dot (cs : List Char) : Prop := cs = ['.'] ∨ cs = ['%', '2', 'e']

/-- A dot at the front is the byte of a dot, however it is spelled. -/
theorem decode_of_map_toLower_eq {cs dot t : List Char} (hdot : Dot dot)
    (h : cs.map Char.toLower = dot ++ t) :
    ∃ cs', cs'.map Char.toLower = t ∧ Percent.decode cs = 0x2E :: Percent.decode cs' := by
  obtain ⟨front, cs', rfl, hfront, hrest⟩ := List.map_eq_append_iff.1 h
  refine ⟨cs', hrest, ?_⟩
  rcases hdot with rfl | rfl
  · obtain ⟨c, cs, rfl, hc, hcs⟩ := List.map_eq_cons_iff.1 hfront
    obtain rfl := List.map_eq_nil_iff.1 hcs
    obtain rfl := eq_of_toLower_eq hc (by decide)
    exact Percent.decode_cons_of_ne (by decide) _
  · obtain ⟨c₁, cs, rfl, h₁, hcs⟩ := List.map_eq_cons_iff.1 hfront
    obtain ⟨c₂, cs, rfl, h₂, hcs⟩ := List.map_eq_cons_iff.1 hcs
    obtain ⟨c₃, cs, rfl, h₃, hcs⟩ := List.map_eq_cons_iff.1 hcs
    obtain rfl := List.map_eq_nil_iff.1 hcs
    obtain rfl := eq_of_toLower_eq h₁ (by decide)
    obtain rfl := eq_of_toLower_eq h₂ (by decide)
    have hvalue : Percent.hexValue? c₃ = some 14 := by
      rcases eq_or_toNat_eq_of_toLower_eq h₃ with rfl | ⟨-, hcode⟩
      · decide
      · have hcode : c₃.toNat = 'E'.toNat := by
          change c₃.toNat = 69
          have : 'e'.toNat = 101 := rfl
          omega
        obtain rfl := Char.toNat_inj.1 hcode
        decide
    have htwo : Percent.hexValue? '2' = some 2 := by decide
    simp only [List.cons_append, List.nil_append, Percent.decode, htwo, hvalue]
    rfl

theorem isDot_iff {segment : List Char} :
    isDot segment = true ↔ Dot (segment.map Char.toLower) := by
  simp only [isDot, lower, String.toList_ofList, Bool.or_eq_true, List.contains_iff_mem,
    List.mem_singleton, beq_iff_eq, ← String.toList_inj]
  exact Iff.rfl

theorem exists_dots_of_isDoubleDot {segment : List Char} (h : isDoubleDot segment = true) :
    ∃ one two, Dot one ∧ Dot two ∧ segment.map Char.toLower = one ++ two := by
  simp only [isDoubleDot, lower, String.toList_ofList, List.contains_iff_mem, List.mem_cons,
    List.not_mem_nil, or_false, ← String.toList_inj] at h
  rcases h with h | h | h | h
  · exact ⟨['.'], ['.'], .inl rfl, .inl rfl, h⟩
  · exact ⟨['%', '2', 'e'], ['%', '2', 'e'], .inr rfl, .inr rfl, h⟩
  · exact ⟨['%', '2', 'e'], ['.'], .inr rfl, .inl rfl, h⟩
  · exact ⟨['.'], ['%', '2', 'e'], .inl rfl, .inr rfl, h⟩

/-- One dot is the only segment that an encoding turns into one. -/
theorem isDot_encode {reserved : Char → Bool} (hpercent : reserved '%' = true)
    {cs : List Char} (h : isDot (Percent.encode reserved cs) = true) : cs = ['.'] := by
  obtain ⟨rest, hrest, hdecode⟩ := decode_of_map_toLower_eq (t := []) (isDot_iff.1 h)
    (List.append_nil _).symm
  obtain rfl := List.map_eq_nil_iff.1 hrest
  rw [Percent.decode_encode hpercent] at hdecode
  exact Utf8.encode_injective hdecode

/-- Two dots are the only segment that an encoding turns into them. -/
theorem isDoubleDot_encode {reserved : Char → Bool} (hpercent : reserved '%' = true)
    {cs : List Char} (h : isDoubleDot (Percent.encode reserved cs) = true) :
    cs = ['.', '.'] := by
  obtain ⟨one, two, hone, htwo, hsplit⟩ := exists_dots_of_isDoubleDot h
  obtain ⟨rest, hrest, hdecode⟩ := decode_of_map_toLower_eq hone hsplit
  obtain ⟨rest', hrest', hdecode'⟩ := decode_of_map_toLower_eq (t := []) htwo
    (hrest.trans (List.append_nil _).symm)
  obtain rfl := List.map_eq_nil_iff.1 hrest'
  rw [Percent.decode_encode hpercent, hdecode'] at hdecode
  exact Utf8.encode_injective hdecode

/-! ### Adding a segment -/

/-- What is left of a segment when tabs and line ends are dropped. -/
def kept (segment : List Char) : List Char := segment.filter fun c => !isDropped c

/-- Segments that others are added to: a path that is a slash only has none. -/
def stem (parts : List (List Char)) : List (List Char) := if parts = [[]] then [] else parts

theorem stem_append_of_ne_nil (before : List (List Char)) {s : List Char} (hs : s ≠ []) :
    stem (before ++ [s]) = before ++ [s] :=
  if_neg fun h => hs (by simpa using congrArg List.getLast? h)

/-- How a segment is added that is not one or two dots as it stands. -/
theorem pushSegment_of_ne_dots {parts : List (List Char)} {segment : List Char}
    (hone : segment ≠ ['.']) (htwo : segment ≠ ['.', '.']) :
    pushSegment parts segment =
      if kept segment = ['.', '.'] then (stem parts).dropLast ++ [[]]
      else if kept segment = ['.'] then stem parts ++ [[]]
      else stem parts ++ [Percent.encode reservedInSegment (kept segment)] := by
  have hnot : ¬ (segment = ['.'] || segment = ['.', '.']) = true := by simp [hone, htwo]
  rw [pushSegment, if_neg hnot]
  change (addSegment (stem parts).reverse
    (Percent.encode reservedInSegment (kept segment)) true).reverse = _
  have hpercent : reservedInSegment '%' = true := by decide
  rw [addSegment]
  by_cases hkept₂ : kept segment = ['.', '.']
  · have : isDoubleDot (Percent.encode reservedInSegment ['.', '.']) = true := by decide
    rw [hkept₂, if_pos this, if_pos rfl, if_pos rfl, List.reverse_cons, List.drop_one,
      List.tail_reverse, List.reverse_reverse]
  · rw [if_neg fun h => hkept₂ (isDoubleDot_encode hpercent h), if_neg hkept₂]
    by_cases hkept₁ : kept segment = ['.']
    · have : isDot (Percent.encode reservedInSegment ['.']) = true := by decide
      rw [hkept₁, if_pos this, if_pos rfl, if_pos rfl, List.reverse_cons,
        List.reverse_reverse]
    · rw [if_neg fun h => hkept₁ (isDot_encode hpercent h), if_neg hkept₁, List.reverse_cons,
        List.reverse_reverse]

theorem slash_not_mem_encode (cs : List Char) : '/' ∉ Percent.encode reservedInSegment cs :=
  fun h => absurd (Percent.slash_mem_encode h).2 (by decide)

/-! ### The text of a path -/

/-- Segments as text. -/
def joined (parts : List (List Char)) : List Char := parts.flatMap fun s => '/' :: s

@[simp] theorem joined_nil : joined [] = [] := rfl

@[simp] theorem joined_cons (s : List Char) (parts : List (List Char)) :
    joined (s :: parts) = '/' :: s ++ joined parts := List.flatMap_cons

@[simp] theorem joined_append (parts more : List (List Char)) :
    joined (parts ++ more) = joined parts ++ joined more := List.flatMap_append

/-- A text without the slash that it ends in. -/
def withoutSlash (cs : List Char) : List Char :=
  if cs.getLast? = some '/' then cs.dropLast else cs

theorem withoutSlash_append_slash (cs : List Char) : withoutSlash (cs ++ ['/']) = cs := by
  rw [withoutSlash, if_pos List.getLast?_concat, List.dropLast_concat]

theorem withoutSlash_of_not_mem {cs s : List Char} (hne : s ≠ []) (hs : '/' ∉ s) :
    withoutSlash (cs ++ s) = cs ++ s := by
  refine if_neg fun hlast => hs ?_
  rw [List.getLast?_append_of_ne_nil _ hne] at hlast
  exact List.mem_of_getLast? hlast

/-- Two slashes are the text of two empty segments only. -/
theorem joined_eq_slashes_iff {parts : List (List Char)} (hslash : ∀ s ∈ parts, '/' ∉ s) :
    joined parts = ['/', '/'] ↔ parts = [[], []] := by
  constructor
  · intro h
    match parts, hslash, h with
    | [s], hslash, h =>
      obtain rfl : s = ['/'] := by simpa using h
      exact absurd List.mem_cons_self (hslash _ List.mem_cons_self)
    | s :: t :: rest, hslash, h =>
      have hlength := congrArg List.length h
      simp only [joined_cons, List.length_append, List.length_cons, List.length_nil] at hlength
      obtain rfl : s = [] := List.length_eq_zero_iff.1 (by omega)
      obtain rfl : t = [] := List.length_eq_zero_iff.1 (by omega)
      cases rest with
      | nil => rfl
      | cons r rest => simp at h
  · rintro rfl
    rfl

theorem popIfEmpty_append_nil {before : List (List Char)} (hne : before ≠ []) :
    popIfEmpty (before ++ [[]]) = before := by
  have hlength := List.length_pos_iff.2 hne
  simp [popIfEmpty, hlength]

theorem popIfEmpty_append_of_ne_nil (before : List (List Char)) {s : List Char} (hs : s ≠ []) :
    popIfEmpty (before ++ [s]) = before ++ [s] := by
  simp [popIfEmpty, hs]

/-- The segments before those that are added have the text of the path, less a slash at its
end. Of two slashes both are lost. -/
theorem joined_stem_popIfEmpty {parts : List (List Char)} (hne : parts ≠ [])
    (hslash : ∀ s ∈ parts, '/' ∉ s) (htwo : parts ≠ [[], []]) :
    joined (stem (popIfEmpty parts)) = withoutSlash (joined parts) := by
  obtain ⟨before, s, rfl⟩ := (List.eq_nil_or_concat' parts).resolve_left hne
  rcases eq_or_ne s [] with rfl | hs
  · have htext : joined (before ++ [[]]) = joined before ++ ['/'] := joined_append _ _
    rw [htext, withoutSlash_append_slash]
    rcases eq_or_ne before [] with rfl | hbefore
    · rfl
    · have hstem : before ≠ [[]] := by
        rintro rfl
        exact htwo rfl
      rw [popIfEmpty_append_nil hbefore, stem, if_neg hstem]
  · have htext : joined (before ++ [s]) = joined before ++ ['/'] ++ s := by simp
    rw [popIfEmpty_append_of_ne_nil _ hs, stem_append_of_ne_nil _ hs, htext,
      withoutSlash_of_not_mem hs]
    exact hslash s (List.mem_append_right _ List.mem_cons_self)

/-! ### The path of an address that was read -/

/-- An address with a host, and segments as its path. -/
structure Segmented (u : Url) (parts : List (List Char)) : Prop where
  /-- There is a host. -/
  host : u.host ≠ none
  /-- The path consists of the segments. -/
  path : u.path = .segments parts
  /-- There is a segment. -/
  ne_nil : parts ≠ []
  /-- A slash only stands before a segment. -/
  not_slash_mem : ∀ s ∈ parts, '/' ∉ s

theorem pathText_of_host {u : Url} {parts : List (List Char)} (hhost : u.host ≠ none)
    (hpath : u.path = .segments parts) : u.pathText = joined parts := by
  have hnone : u.host.isNone = false :=
    Option.isNone_eq_false_iff.2 (Option.isSome_iff_ne_none.2 hhost)
  simp only [pathText, hpath, hnone, Bool.false_and]
  rfl

namespace Segmented

variable {u : Url} {parts : List (List Char)} (h : u.Segmented parts)

include h

theorem pathText_eq_slashes_iff : u.pathText = ['/', '/'] ↔ parts = [[], []] := by
  rw [pathText_of_host h.host h.path]
  exact joined_eq_slashes_iff h.not_slash_mem

theorem joined_stem (htwo : u.pathText ≠ ['/', '/']) :
    joined (stem (popIfEmpty parts)) = withoutSlash u.pathText := by
  rw [pathText_of_host h.host h.path]
  exact joined_stem_popIfEmpty h.ne_nil h.not_slash_mem (mt h.pathText_eq_slashes_iff.2 htwo)

end Segmented

theorem splitWhere_cons (test : Char → Bool) (c : Char) (cs : List Char) :
    ∃ first rest, splitWhere test cs = first :: rest ∧
      splitWhere test (c :: cs) =
        if test c then [] :: first :: rest else (c :: first) :: rest := by
  refine ⟨_, _, rfl, ?_⟩
  cases h : test c with
  | true => simp only [splitWhere, List.foldr_cons, h, if_true]
  | false => simp only [splitWhere, List.foldr_cons, h, Bool.false_eq_true, if_false]

theorem splitWhere_ne_nil (test : Char → Bool) (cs : List Char) : splitWhere test cs ≠ [] :=
  List.cons_ne_nil _ _

/-- What splits a text is in none of its pieces. -/
theorem eq_false_of_mem_splitWhere {test : Char → Bool} {cs s : List Char}
    (hs : s ∈ splitWhere test cs) {c : Char} (hc : c ∈ s) : test c = false := by
  induction cs generalizing s with
  | nil =>
    obtain rfl := List.mem_singleton.1 hs
    exact absurd hc List.not_mem_nil
  | cons d cs ih =>
    obtain ⟨first, rest, hcs, hcons⟩ := splitWhere_cons test d cs
    rw [hcs] at ih
    rw [hcons] at hs
    split at hs
    · rcases List.mem_cons.1 hs with rfl | hs
      · exact absurd hc List.not_mem_nil
      · exact ih hs hc
    · next hd =>
      rcases List.mem_cons.1 hs with rfl | hs
      · rcases List.mem_cons.1 hc with rfl | hc
        · exact Bool.not_eq_true _ ▸ hd
        · exact ih List.mem_cons_self hc
      · exact ih (List.mem_cons_of_mem _ hs) hc

theorem mem_addSegment {before : List (List Char)} {segment s : List Char} {last : Bool}
    (h : s ∈ addSegment before segment last) : s = [] ∨ s ∈ before ∨ s = segment := by
  have hdrop : s ∈ before.drop 1 → s ∈ before := List.mem_of_mem_drop
  rw [addSegment] at h
  split at h
  · split at h
    · exact (List.mem_cons.1 h).imp_right fun h => .inl (hdrop h)
    · exact .inr (.inl (hdrop h))
  · split at h
    · split at h
      · exact (List.mem_cons.1 h).imp_right .inl
      · exact .inr (.inl h)
    · exact .inr (List.mem_cons.1 h).symm

/-- A path has the segments that it is made of, and perhaps empty ones. -/
theorem mem_addSegments {before segments : List (List Char)} {s : List Char}
    (h : s ∈ addSegments before segments) : s = [] ∨ s ∈ before ∨ s ∈ segments := by
  fun_induction addSegments before segments with
  | case1 before => exact .inr (.inl h)
  | case2 before segment =>
    exact (mem_addSegment h).imp_right (Or.imp_right List.mem_singleton.2)
  | case3 before segment next rest ih =>
    rcases ih h with hnil | hbefore | hrest
    · exact .inl hnil
    · refine (mem_addSegment hbefore).imp_right (Or.imp_right ?_)
      rintro rfl
      exact List.mem_cons_self
    · exact .inr (.inr (List.mem_cons_of_mem _ hrest))

/-- The last segment leaves one, if only an empty one. -/
theorem addSegments_ne_nil {before segments : List (List Char)} (h : segments ≠ []) :
    addSegments before segments ≠ [] := by
  fun_induction addSegments before segments with
  | case1 before => exact absurd rfl h
  | case2 before segment =>
    rw [addSegment]
    split
    · exact List.cons_ne_nil _ _
    · split
      · exact List.cons_ne_nil _ _
      · exact List.cons_ne_nil _ _
  | case3 before segment next rest ih => exact ih (List.cons_ne_nil _ _)

theorem readSegments_ne_nil (isSlash : Char → Bool) (cs : List Char) :
    readSegments isSlash cs ≠ [] := by
  refine List.reverse_ne_nil_iff.2 (addSegments_ne_nil ?_)
  exact mt List.map_eq_nil_iff.1 (splitWhere_ne_nil _ _)

theorem not_slash_mem_of_mem_readSegments {isSlash : Char → Bool} (hslash : isSlash '/' = true)
    {cs s : List Char} (hs : s ∈ readSegments isSlash cs) : '/' ∉ s := by
  rcases mem_addSegments (List.mem_reverse.1 hs) with rfl | hbefore | hs
  · exact List.not_mem_nil
  · exact absurd hbefore List.not_mem_nil
  · obtain ⟨piece, hpiece, rfl⟩ := List.mem_map.1 hs
    intro hmem
    have htest := eq_false_of_mem_splitWhere hpiece (Percent.slash_mem_encode hmem).1
    exact absurd (hslash.symm.trans htest) nofun

theorem segmented_of_readKnown {scheme cs : List Char} {usual : Option Nat} {u : Url}
    (h : readKnown scheme usual cs = .ok u) : ∃ parts, u.Segmented parts := by
  simp only [readKnown, bind, Except.bind] at h
  split at h
  · cases h
  · cases h
    refine ⟨_, nofun, rfl, readSegments_ne_nil _ _, fun s hs => ?_⟩
    exact not_slash_mem_of_mem_readSegments rfl hs

theorem scheme_of_readFile {scheme cs : List Char} {u : Url}
    (h : readFile scheme cs = .ok u) : u.scheme = scheme := by
  simp only [readFile, bind, Except.bind, pure, Except.pure] at h
  generalize (if 2 ≤ ((cs.takeWhile fun c => !endsPath c).takeWhile fun c =>
    c = '/' || c = '\\').length then _ else _ : List Char × List Char) = place at h
  split at h
  · cases h
    rfl
  · split at h
    · cases h
    · cases h
      rfl

theorem scheme_of_readOther {scheme cs : List Char} {u : Url}
    (h : readOther scheme cs = .ok u) : u.scheme = scheme := by
  simp only [readOther, bind, Except.bind] at h
  split at h
  · split at h
    · cases h
    · cases h
      rfl
  · cases h
    rfl
  · cases h
    rfl

/-- An address of a scheme that is known to have a host has one, and a path of segments. -/
theorem segmented_of_parse {s : String} {u : Url} (h : parse s = .ok u)
    (hknown : usualPort? u.scheme ≠ none) : ∃ parts, u.Segmented parts := by
  rw [parse] at h
  split at h
  · cases h
  · split at h
    · exact segmented_of_readKnown h
    · next hnone =>
      split at h
      · rw [scheme_of_readFile h] at hknown
        exact absurd hnone hknown
      · rw [scheme_of_readOther h] at hknown
        exact absurd hnone hknown

end Outbox.Url
