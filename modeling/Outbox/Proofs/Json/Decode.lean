import Outbox.Json.Decode
import Outbox.Proofs.Json.Outline

/-!
# Values as they are read

A value that is read is regular and nested no deeper than the reader goes (`Sound`), and every
sound value is read from its own outline.
-/

namespace Outbox.Json

/-! ### Members in order -/

/-- The members are in ascending order of their keys. -/
abbrev Ascending (members : List (String × Json)) : Prop :=
  members.Pairwise fun a b => a.1 < b.1

theorem insertMember_of_forall_lt {key : String} (value : Json) {members : List (String × Json)}
    (h : ∀ m ∈ members, m.1 < key) :
    insertMember key value members = members ++ [(key, value)] := by
  induction members with
  | nil => rfl
  | cons m ms ih =>
    obtain ⟨hm, hms⟩ := List.forall_mem_cons.1 h
    have hne : ¬ key = m.1 := fun heq => String.lt_irrefl _ (heq ▸ hm)
    rw [insertMember, if_neg (String.lt_asymm hm), if_neg hne, ih hms, List.cons_append]

theorem foldl_insertMember {done members : List (String × Json)}
    (h : Ascending (done ++ members)) :
    members.foldl (fun done (k, v) => insertMember k v done) done = done ++ members := by
  induction members generalizing done with
  | nil => exact (List.append_nil done).symm
  | cons m ms ih =>
    have hlt : ∀ a ∈ done, a.1 < m.1 := fun a ha =>
      (List.pairwise_append.1 h).2.2 a ha m List.mem_cons_self
    rw [List.append_cons] at h
    show ms.foldl _ (insertMember m.1 m.2 done) = _
    rw [insertMember_of_forall_lt m.2 hlt, ih h, ← List.append_cons]

/-- Members in order make the object that has them as they are. -/
theorem ofMembers_of_ascending {members : List (String × Json)} (h : Ascending members) :
    Json.ofMembers members = object members := by
  have hfold : Ascending ([] ++ members) := h
  rw [Json.ofMembers, foldl_insertMember hfold, List.nil_append]

theorem mem_insertMember {key : String} {value : Json} {members : List (String × Json)}
    {m : String × Json} (h : m ∈ insertMember key value members) :
    m = (key, value) ∨ m ∈ members := by
  induction members with
  | nil => exact .inl (List.mem_singleton.1 h)
  | cons n ms ih =>
    rw [insertMember] at h
    split at h
    · exact List.mem_cons.1 h
    · split at h
      · exact (List.mem_cons.1 h).imp_right (List.mem_cons_of_mem _)
      · rcases List.mem_cons.1 h with rfl | h
        · exact .inr List.mem_cons_self
        · exact (ih h).imp_right (List.mem_cons_of_mem _)

theorem ascending_insertMember (key : String) (value : Json) {members : List (String × Json)}
    (h : Ascending members) : Ascending (insertMember key value members) := by
  induction members with
  | nil => exact List.pairwise_singleton ..
  | cons m ms ih =>
    obtain ⟨hm, hms⟩ := List.pairwise_cons.1 h
    rw [insertMember]
    split
    · next hlt =>
      refine List.pairwise_cons.2 ⟨?_, h⟩
      exact List.forall_mem_cons.2 ⟨hlt, fun n hn => String.lt_trans hlt (hm n hn)⟩
    · next hge =>
      split
      · next heq => exact List.pairwise_cons.2 ⟨fun n hn => heq ▸ hm n hn, hms⟩
      · next hne =>
        refine List.pairwise_cons.2 ⟨fun n hn => ?_, ih hms⟩
        rcases mem_insertMember hn with rfl | hn
        · exact Std.lt_of_le_of_ne hge (Ne.symm hne)
        · exact hm n hn

theorem ascending_foldl_insertMember {done : List (String × Json)} (h : Ascending done)
    (members : List (String × Json)) :
    Ascending (members.foldl (fun done (k, v) => insertMember k v done) done) := by
  induction members generalizing done with
  | nil => exact h
  | cons m ms ih => exact ih (ascending_insertMember m.1 m.2 h)

theorem mem_foldl_insertMember {done members : List (String × Json)} {m : String × Json}
    (h : m ∈ members.foldl (fun done (k, v) => insertMember k v done) done) :
    m ∈ done ∨ m ∈ members := by
  induction members generalizing done with
  | nil => exact .inl h
  | cons n ms ih =>
    rcases ih h with h | h
    · rcases mem_insertMember h with rfl | h
      · exact .inr List.mem_cons_self
      · exact .inl h
    · exact .inr (List.mem_cons_of_mem _ h)

/-! ### From a value to its outline and back -/

mutual

/-- A regular value is read from its outline by a reader that goes deep enough. -/
theorem json_ofJson : ∀ {j : Json} {depth : Nat}, j.all isRegular = true → j.nesting ≤ depth →
    Decoder.json depth (Draft.ofJson j) = .ok j
  | null, _, _, _ => by rw [Draft.ofJson, Decoder.json]
  | bool _, _, _, _ => by rw [Draft.ofJson, Decoder.json]
  | integer _, _, _, _ => by rw [Draft.ofJson, Decoder.json]
  | float _, _, _, _ => by rw [Draft.ofJson, Decoder.json]
  | text _, _, _, _ => by rw [Draft.ofJson, Decoder.json]
  | array items, 0, _, hdepth => absurd hdepth (Nat.not_succ_le_zero _)
  | array items, depth + 1, h, hdepth => by
    rw [all, Bool.and_eq_true] at h
    have hitems := jsonItems_ofItems h.2 (Nat.le_of_succ_le_succ hdepth)
    rw [Draft.ofJson, Decoder.json, hitems]
    rfl
  | object members, 0, _, hdepth => absurd hdepth (Nat.not_succ_le_zero _)
  | object members, depth + 1, h, hdepth => by
    rw [all, Bool.and_eq_true] at h
    have hmembers := jsonMembers_ofMembers h.2 (Nat.le_of_succ_le_succ hdepth)
    rw [Draft.ofJson, Decoder.json, hmembers]
    exact congrArg Except.ok (ofMembers_of_ascending (of_decide_eq_true h.1))

theorem jsonItems_ofItems : ∀ {items : List Json} {depth : Nat},
    allItems isRegular items = true → nestingItems items ≤ depth →
    Decoder.jsonItems depth (Draft.ofItems items) = .ok items
  | [], _, _, _ => by rw [Draft.ofItems, Decoder.jsonItems]
  | j :: js, depth, h, hdepth => by
    rw [allItems, Bool.and_eq_true] at h
    rw [nestingItems] at hdepth
    rw [Draft.ofItems, Decoder.jsonItems, json_ofJson h.1 (by omega),
      jsonItems_ofItems h.2 (by omega)]
    rfl

theorem jsonMembers_ofMembers : ∀ {members : List (String × Json)} {depth : Nat},
    allMembers isRegular members = true → nestingMembers members ≤ depth →
    Decoder.jsonMembers depth (Draft.ofMembers members) = .ok members
  | [], _, _, _ => by rw [Draft.ofMembers, Decoder.jsonMembers]
  | (k, j) :: ms, depth, h, hdepth => by
    rw [allMembers, Bool.and_eq_true] at h
    rw [nestingMembers] at hdepth
    rw [Draft.ofMembers, Decoder.jsonMembers, json_ofJson h.1 (by omega),
      jsonMembers_ofMembers h.2 (by omega)]
    rfl

end

/-! ### What is read -/

/-- What comes out of two steps of a reader comes out of the second one, after the first. -/
theorem exists_of_bind_eq_ok {ε α β : Type} {x : Except ε α} {f : α → Except ε β} {b : β}
    (h : x >>= f = .ok b) : ∃ a, x = .ok a ∧ f a = .ok b := by
  cases x with
  | error e => cases h
  | ok a => exact ⟨a, rfl, h⟩

theorem exists_of_map_eq_ok {ε α β : Type} {x : Except ε α} {f : α → β} {b : β}
    (h : x.map f = .ok b) : ∃ a, x = .ok a ∧ f a = b := by
  cases x with
  | error e => cases h
  | ok a => exact ⟨a, rfl, Except.ok.inj h⟩

/-- A value as it is read: regular, and nested no deeper than it may be. -/
structure Sound (depth : Nat) (j : Json) : Prop where
  /-- The integers fit in 64 bits and the members of objects are in order. -/
  regular : j.all isRegular = true
  /-- No more containers are open at a time than there may be. -/
  shallow : j.nesting ≤ depth

theorem Sound.array {depth : Nat} {items : List Json} (h : ∀ j ∈ items, Sound depth j) :
    Sound (depth + 1) (.array items) where
  regular := allItems_iff.2 fun j hj => (h j hj).regular
  shallow := Nat.succ_le_succ (nestingItems_le_iff.2 fun j hj => (h j hj).shallow)

theorem Sound.object {depth : Nat} {members : List (String × Json)}
    (h : ∀ m ∈ members, Sound depth m.2) (hascending : Ascending members) :
    Sound (depth + 1) (.object members) where
  regular := by
    rw [all, Bool.and_eq_true]
    exact ⟨decide_eq_true hascending, allMembers_iff.2 fun m hm => (h m hm).regular⟩
  shallow := Nat.succ_le_succ (nestingMembers_le_iff.2 fun m hm => (h m hm).shallow)

mutual

/-- A value that is read from an outline is sound. -/
theorem sound_of_json : ∀ (d : Draft) {depth : Nat} {j : Json}, d.Fits →
    Decoder.json depth d = .ok j → Sound depth j
  | .null, _, _, _, h => by
    rw [Decoder.json] at h
    cases h
    exact ⟨rfl, Nat.zero_le _⟩
  | .bool _, _, _, _, h => by
    rw [Decoder.json] at h
    cases h
    exact ⟨rfl, Nat.zero_le _⟩
  | .number (.integer n), _, _, .number hn, h => by
    rw [Decoder.json] at h
    cases h
    exact ⟨decide_eq_true hn, Nat.zero_le _⟩
  | .number (.float _), _, _, _, h => by
    rw [Decoder.json] at h
    cases h
    exact ⟨rfl, Nat.zero_le _⟩
  | .number .tooLarge, _, _, _, h => by
    rw [Decoder.json] at h
    cases h
  | .text (some _), _, _, _, h => by
    rw [Decoder.json] at h
    cases h
    exact ⟨rfl, Nat.zero_le _⟩
  | .text none, _, _, _, h => by
    rw [Decoder.json] at h
    cases h
  | .array _ _, 0, _, _, h => by
    rw [Decoder.json] at h
    cases h
  | .array ds whole, depth + 1, j, .array hds _, h => by
    rw [Decoder.json] at h
    obtain ⟨items, hitems, h⟩ := exists_of_bind_eq_ok h
    cases whole with
    | false => cases h
    | true =>
      cases h
      exact .array (sound_of_jsonItems ds hds hitems)
  | .object _ _, 0, _, _, h => by
    rw [Decoder.json] at h
    cases h
  | .object ms whole, depth + 1, j, .object hms _, h => by
    rw [Decoder.json] at h
    obtain ⟨members, hmembers, h⟩ := exists_of_bind_eq_ok h
    cases whole with
    | false => cases h
    | true =>
      cases h
      have hsound := sound_of_jsonMembers ms hms hmembers
      refine .object (fun m hm => ?_) (ascending_foldl_insertMember .nil members)
      exact hsound m ((mem_foldl_insertMember hm).resolve_left List.not_mem_nil)
  | .misnamed, _, _, _, h => by
    rw [Decoder.json] at h
    cases h
  | .broken, _, _, _, h => by
    rw [Decoder.json] at h
    cases h

theorem sound_of_jsonItems : ∀ (ds : List Draft) {depth : Nat} {items : List Json},
    (∀ d ∈ ds, d.Fits) → Decoder.jsonItems depth ds = .ok items → ∀ j ∈ items, Sound depth j
  | [], _, _, _, h => by
    rw [Decoder.jsonItems] at h
    cases h
    exact List.forall_mem_nil _
  | d :: ds, depth, items, hds, h => by
    obtain ⟨hd, hds⟩ := List.forall_mem_cons.1 hds
    rw [Decoder.jsonItems] at h
    obtain ⟨j, hj, h⟩ := exists_of_bind_eq_ok h
    obtain ⟨js, hjs, h⟩ := exists_of_bind_eq_ok h
    cases h
    exact List.forall_mem_cons.2 ⟨sound_of_json d hd hj, sound_of_jsonItems ds hds hjs⟩

theorem sound_of_jsonMembers : ∀ (ms : List (Option String × Draft)) {depth : Nat}
    {members : List (String × Json)}, (∀ m ∈ ms, m.2.Fits) →
    Decoder.jsonMembers depth ms = .ok members → ∀ m ∈ members, Sound depth m.2
  | [], _, _, _, h => by
    rw [Decoder.jsonMembers] at h
    cases h
    exact List.forall_mem_nil _
  | (none, _) :: _, _, _, _, h => by
    rw [Decoder.jsonMembers] at h
    cases h
  | (some k, d) :: ms, depth, members, hms, h => by
    obtain ⟨hd, hms⟩ := List.forall_mem_cons.1 hms
    rw [Decoder.jsonMembers] at h
    obtain ⟨j, hj, h⟩ := exists_of_bind_eq_ok h
    obtain ⟨rest, hrest, h⟩ := exists_of_bind_eq_ok h
    cases h
    exact List.forall_mem_cons.2 ⟨sound_of_json d hd hj, sound_of_jsonMembers ms hms hrest⟩

end

end Outbox.Json
