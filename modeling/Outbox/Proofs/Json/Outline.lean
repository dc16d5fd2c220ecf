import Outbox.Json.Draft
import Outbox.Proofs.Json.Scan

/-!
# The outline of a printed value

The machine that builds outlines takes the words of a value and has its outline, whatever
containers are open around it. So the text of an exact value has the outline of the value and
nothing else (`ofText_print`).

The other way round, the integers of any text fit in 64 bits where it is a value: no token holds
any other, and the machine makes none.
-/

namespace Outbox.Json

namespace Draft

open Machine

/-! ### From the words of a value -/

/-- The first item of an array is read like any other value. -/
theorem run_itemWords_firstItem (j : Json) (js : List Json) (outer : List Frame)
    (ts : List Token) :
    (itemWords (j :: js) ++ ts).foldl step (reading .firstItem outer) =
      (itemWords (j :: js) ++ ts).foldl step (reading .value outer) := by
  obtain ⟨rest, hrest⟩ : ∃ rest, itemWords (j :: js) = j.words ++ rest := by
    cases js with
    | nil => exact ⟨[], (List.append_nil _).symm⟩
    | cons k js => exact ⟨_, rfl⟩
  rw [hrest, List.append_assoc]
  cases j <;> rfl

mutual

/-- The words of a value make its outline. -/
theorem run_words : ∀ (j : Json) (outer : List Frame) (ts : List Token),
    (j.words ++ ts).foldl step (reading .value outer) = ts.foldl step (deliver (ofJson j) outer)
  | .null, _, _ => rfl
  | .bool _, _, _ => rfl
  | .integer _, _, _ => rfl
  | .float _, _, _ => rfl
  | .text _, _, _ => rfl
  | .array [], _, _ => rfl
  | .array (j :: js), outer, ts => by
    have h := run_itemWords (j :: js) (by simp) [] outer ts
    rw [← run_itemWords_firstItem] at h
    rw [words, List.cons_append, List.append_assoc]
    exact h
  | .object [], _, _ => rfl
  | .object ((k, j) :: ms), outer, ts => by
    have h := run_memberWords ((k, j) :: ms) (by simp) [] outer ts
    rw [words, List.cons_append, List.append_assoc]
    cases ms with
    | nil => exact h
    | cons m ms => exact h

/-- The words of some items and of the end of their array make the array. -/
theorem run_itemWords : ∀ (items : List Json), items ≠ [] → ∀ (done : List Draft)
    (outer : List Frame) (ts : List Token),
    (itemWords items ++ .closeArray :: ts).foldl step (reading .value (.array done :: outer)) =
      ts.foldl step (deliver (array (done.reverse ++ ofItems items) true) outer)
  | [], h, _, _, _ => absurd rfl h
  | [j], _, done, outer, ts => by
    rw [itemWords, run_words]
    show ts.foldl step (deliver (array (ofJson j :: done).reverse true) outer) = _
    rw [List.reverse_cons]
    rfl
  | j :: k :: js, _, done, outer, ts => by
    have h := run_itemWords (k :: js) (by simp) (ofJson j :: done) outer ts
    rw [List.reverse_cons, List.append_assoc] at h
    rw [itemWords, List.append_assoc, run_words]
    exact h

/-- The words of some members and of the end of their object make the object. -/
theorem run_memberWords : ∀ (members : List (String × Json)), members ≠ [] →
    ∀ (done : List (Option String × Draft)) (outer : List Frame) (ts : List Token),
    (memberWords members ++ .closeObject :: ts).foldl step
        (reading .key (.object done :: outer)) =
      ts.foldl step (deliver (object (done.reverse ++ ofMembers members) true) outer)
  | [], h, _, _, _ => absurd rfl h
  | [(k, j)], _, done, outer, ts => by
    rw [memberWords]
    show (j.words ++ .closeObject :: ts).foldl step
      (reading .value (.member done (some k) :: outer)) = _
    rw [run_words]
    show ts.foldl step (deliver (object ((some k, ofJson j) :: done).reverse true) outer) = _
    rw [List.reverse_cons]
    rfl
  | (k, j) :: m :: ms, _, done, outer, ts => by
    have h := run_memberWords (m :: ms) (by simp) ((some k, ofJson j) :: done) outer ts
    rw [List.reverse_cons, List.append_assoc] at h
    rw [memberWords]
    show (j.words ++ .comma :: memberWords (m :: ms) ++ .closeObject :: ts).foldl step
      (reading .value (.member done (some k) :: outer)) = _
    rw [List.append_assoc, run_words]
    exact h

end

/-- The text of an exact value has the outline of the value, and nothing besides. -/
theorem ofText_print {j : Json} (h : j.all isExact = true) :
    ofText j.print.toList = (ofJson j, true) := by
  have hrun := run_words j [] []
  rw [List.append_nil] at hrun
  rw [ofText, ofTokens, tokens_print h, hrun]
  rfl

/-! ### From any tokens -/

/-- Every integer inside an outline fits in 64 bits. -/
inductive Fits : Draft → Prop where
  /-- The null value. -/
  | null : Fits null
  /-- A truth value. -/
  | bool (b : Bool) : Fits (bool b)
  /-- A number. -/
  | number {n : Number} (h : n.Fits) : Fits (number n)
  /-- A text. -/
  | text (s : Option String) : Fits (text s)
  /-- An array, closed or not. -/
  | array {items : List Draft} (h : ∀ d ∈ items, Fits d) (whole : Bool) : Fits (array items whole)
  /-- An object, closed or not. -/
  | object {members : List (Option String × Draft)} (h : ∀ m ∈ members, Fits m.2) (whole : Bool) :
    Fits (object members whole)
  /-- An object without a first key. -/
  | misnamed : Fits misnamed
  /-- No value. -/
  | broken : Fits broken

/-- Every integer inside a container that is not closed yet fits in 64 bits. -/
def Frame.Fits : Frame → Prop
  | .array items => ∀ d ∈ items, d.Fits
  | .object members => ∀ m ∈ members, m.2.Fits
  | .member members _ => ∀ m ∈ members, m.2.Fits

/-- Every integer that the machine has taken fits in 64 bits. Where the text is broken off
nothing is said. -/
def Machine.Fits : Machine → Prop
  | reading _ outer => ∀ f ∈ outer, f.Fits
  | finished d alone => alone = true → d.Fits

namespace Machine

theorem fits_deliver {d : Draft} (hd : d.Fits) {outer : List Frame} (h : ∀ f ∈ outer, f.Fits) :
    (deliver d outer).Fits := by
  cases outer with
  | nil => exact fun _ => hd
  | cons f outer =>
    obtain ⟨hf, houter⟩ := List.forall_mem_cons.1 h
    cases f with
    | array items => exact List.forall_mem_cons.2 ⟨List.forall_mem_cons.2 ⟨hd, hf⟩, houter⟩
    | object members => exact h
    | member members key =>
      exact List.forall_mem_cons.2 ⟨List.forall_mem_cons.2 ⟨hd, hf⟩, houter⟩

theorem fits_missing (outer : List Frame) : (missing outer).Fits := nofun

theorem fits_cut (outer : List Frame) : (cut outer).Fits := nofun

/-- Opening a container adds one that is empty. -/
theorem fits_begin {t : Token} (ht : t.Fits) {outer : List Frame} (h : ∀ f ∈ outer, f.Fits) :
    (begin t outer).Fits := by
  cases t with
  | null => exact fits_deliver .null h
  | bool b => exact fits_deliver (.bool b) h
  | number n => exact fits_deliver (.number ht) h
  | text s => exact fits_deliver (.text s) h
  | openArray => exact List.forall_mem_cons.2 ⟨List.forall_mem_nil _, h⟩
  | openObject => exact List.forall_mem_cons.2 ⟨List.forall_mem_nil _, h⟩
  | _ => exact fits_missing outer

theorem fits_closeArray {outer : List Frame} (h : ∀ f ∈ outer, f.Fits) :
    (closeArray outer).Fits := by
  unfold closeArray
  split
  · obtain ⟨hf, houter⟩ := List.forall_mem_cons.1 h
    exact fits_deliver (.array (fun d hd => hf d (List.mem_reverse.1 hd)) true) houter
  · exact fits_cut _

theorem fits_closeObject {outer : List Frame} (h : ∀ f ∈ outer, f.Fits) :
    (closeObject outer).Fits := by
  unfold closeObject
  split
  · obtain ⟨hf, houter⟩ := List.forall_mem_cons.1 h
    exact fits_deliver (.object (fun m hm => hf m (List.mem_reverse.1 hm)) true) houter
  · exact fits_cut _

theorem fits_enter (key : Option String) {outer : List Frame} (h : ∀ f ∈ outer, f.Fits) :
    (enter key outer).Fits := by
  unfold enter
  split
  · obtain ⟨hf, houter⟩ := List.forall_mem_cons.1 h
    exact List.forall_mem_cons.2 ⟨hf, houter⟩
  · exact fits_cut _

theorem fits_misname (outer : List Frame) : (misname outer).Fits := by
  unfold misname
  split
  · exact nofun
  · exact fits_cut _

/-- A step keeps what fits, whatever was expected. -/
theorem fits_step {m : Machine} (hm : m.Fits) {t : Token} (ht : t.Fits) : (m.step t).Fits := by
  cases m with
  | finished d alone => exact nofun
  | reading expected outer =>
    cases expected with
    | value => exact fits_begin ht hm
    | firstItem =>
      cases t with
      | closeArray => exact fits_closeArray hm
      | _ => exact fits_begin ht hm
    | nextItem =>
      cases t with
      | comma => exact hm
      | closeArray => exact fits_closeArray hm
      | _ => exact fits_cut outer
    | firstKey =>
      cases t with
      | text key => exact fits_enter key hm
      | closeObject => exact fits_closeObject hm
      | null | bool _ | openArray | openObject => exact fits_misname outer
      | number n =>
        cases n with
        | integer _ | float _ => exact fits_misname outer
        | tooLarge => exact fits_cut outer
      | _ => exact fits_cut outer
    | key =>
      cases t with
      | text key => exact fits_enter key hm
      | _ => exact fits_cut outer
    | colon =>
      cases t with
      | colon => exact hm
      | _ => exact fits_missing outer
    | nextMember =>
      cases t with
      | comma => exact hm
      | closeObject => exact fits_closeObject hm
      | _ => exact fits_cut outer

theorem fits_run {ts : List Token} (hts : ∀ t ∈ ts, t.Fits) {m : Machine} (hm : m.Fits) :
    (ts.foldl step m).Fits := by
  induction ts generalizing m with
  | nil => exact hm
  | cons t ts ih =>
    obtain ⟨ht, hts⟩ := List.forall_mem_cons.1 hts
    exact ih hts (fits_step hm ht)

end Machine

/-- The integers of a text that holds one value and nothing else fit in 64 bits. -/
theorem fits_of_ofText {cs : List Char} {d : Draft} (h : ofText cs = (d, true)) : d.Fits := by
  have hts : ∀ t ∈ tokens (cs.map some), t.Fits := by
    rw [tokens_map_some]
    exact Scanner.fits_of_mem_reads (s := .between) trivial
  have hfits := fits_run hts (m := .reading .value []) (List.forall_mem_nil _)
  rw [ofText, ofTokens] at h
  generalize (tokens (cs.map some)).foldl step (.reading .value []) = m at h hfits
  cases m with
  | finished e alone =>
    obtain ⟨rfl, rfl⟩ := Prod.mk.inj h
    exact hfits rfl
  | reading expected outer => cases expected <;> exact absurd (congrArg Prod.snd h) nofun

end Draft

end Outbox.Json
