import Outbox.Proofs.Json.Decode
import Mathlib.Data.List.Nodup

/-!
# Records

What every field of a record keeps, the record keeps, whichever form it is read from
(`record_keeps`).

A record that is written as an object is read back from its members in any order. After some of
them the record has those fields from the one that was written and the others from its start; the
reader goes from one such mixture to the next (`readMembers_mixture`).
-/

namespace Outbox.Json

namespace Field

variable {σ α : Type} {fields : List (Field σ)} {strict : Bool} {depth : Nat}

/-! ### What a record keeps -/

section

variable {P : σ → Prop}

/-- Reading the field keeps a property of the record. -/
def Keeps (P : σ → Prop) (depth : Nat) (f : Field σ) : Prop :=
  ∀ {d : Draft} {r r' : σ}, d.Fits → P r → f.read depth d r = .ok r' → P r'

theorem keeps_required {name : String} {decode : Decoder α} {put : α → σ → σ}
    (h : ∀ {d a r}, d.Fits → decode depth d = .ok a → P r → P (put a r)) :
    (required name decode put).Keeps P depth := by
  intro d r r' hd hr hread
  obtain ⟨a, ha, rfl⟩ := exists_of_map_eq_ok hread
  exact h hd ha hr

theorem keeps_nullable {name : String} {decode : Decoder α} {put : Option α → σ → σ}
    (h : ∀ {a r}, P r → P (put a r)) : (nullable name decode put).Keeps P depth := by
  intro d r r' _ hr hread
  obtain ⟨a, -, rfl⟩ := exists_of_map_eq_ok hread
  exact h hr

theorem readMembers_keeps (hfields : ∀ f ∈ fields, f.Keeps P depth)
    {members : List (Option String × Draft)} (hmembers : ∀ m ∈ members, m.2.Fits) {seen : List Nat}
    {r r' : σ} {seen' : List Nat} (hr : P r)
    (h : readMembers fields strict depth members seen r = .ok (r', seen')) : P r' := by
  induction members generalizing seen r with
  | nil =>
    rw [readMembers] at h
    cases h
    exact hr
  | cons m ms ih =>
    obtain ⟨hm, hms⟩ := List.forall_mem_cons.1 hmembers
    obtain ⟨_ | k, d⟩ := m
    · cases h
    · rw [readMembers] at h
      split at h
      · split at h
        · cases h
        · split at h
          · exact ih hms hr h
          · cases h
      · split at h
        · cases h
        · split at h
          · cases h
          · next hf =>
            obtain ⟨r₁, hread, h⟩ := exists_of_bind_eq_ok h
            exact ih hms (hfields _ (List.mem_of_getElem? hf) hm hr hread) h

theorem readItems_keeps {whole : Bool} (hfields : ∀ f ∈ fields, f.Keeps P depth)
    {items : List Draft} (hitems : ∀ d ∈ items, d.Fits) {r r' : σ} (hr : P r)
    (h : readItems depth whole fields items r = .ok r') : P r' := by
  induction fields generalizing items r with
  | nil =>
    cases items with
    | nil =>
      rw [readItems] at h
      split at h
      · cases h
        exact hr
      · cases h
    | cons d ds => cases h
  | cons f fields ih =>
    obtain ⟨hf, hfields⟩ := List.forall_mem_cons.1 hfields
    cases items with
    | nil =>
      rw [readItems] at h
      split at h
      · cases h
      · split at h
        · exact ih hfields hitems hr h
        · cases h
    | cons d ds =>
      obtain ⟨hd, hds⟩ := List.forall_mem_cons.1 hitems
      rw [readItems] at h
      obtain ⟨r₁, hread, h⟩ := exists_of_bind_eq_ok h
      exact ih hfields hds (hf hd hr hread) h

/-- A property that the start of a record has and every field keeps is one of each record that
is read. -/
theorem record_keeps (hfields : ∀ f ∈ fields, f.Keeps P depth) {start r : σ} (hstart : P start)
    {d : Draft} (hd : d.Fits) (h : record fields strict start (depth + 1) d = .ok r) : P r := by
  cases hd with
  | array hitems whole => exact readItems_keeps hfields hitems hstart h
  | object hmembers whole =>
    rw [record] at h
    obtain ⟨⟨r₁, seen⟩, hread, h⟩ := exists_of_bind_eq_ok h
    dsimp only at h
    split at h
    · cases h
    · split at h
      · cases h
        exact readMembers_keeps hfields hmembers hstart hread
      · cases h
  | _ => cases h

end

/-! ### A record read back -/

/-- A member restores the field that it names, whatever fields are restored already: `mixture`
is the record that has the fields at some places from the one that was written. -/
def Restores (fields : List (Field σ)) (mixture : List Nat → σ) (depth : Nat)
    (m : String × Json) : Prop :=
  ∃ i f, index? fields m.1 = some i ∧ fields[i]? = some f ∧
    ∀ seen, f.read depth (Draft.ofJson m.2) (mixture seen) = .ok (mixture (i :: seen))

/-- The members name each field once. -/
def Covers (fields : List (Field σ)) (members : List (String × Json)) : Prop :=
  (members.map fun m => index? fields m.1).Perm ((List.range fields.length).map some)

section

variable {mixture : List Nat → σ} {members written : List (String × Json)}

theorem restores_required {name k : String} {decode : Decoder α} {put : α → σ → σ} {i : Nat}
    {j : Json} {a : α} (hi : index? fields k = some i)
    (hf : fields[i]? = some (required name decode put))
    (ha : decode depth (Draft.ofJson j) = .ok a)
    (hput : ∀ seen, put a (mixture seen) = mixture (i :: seen)) :
    Restores fields mixture depth (k, j) := by
  refine ⟨i, _, hi, hf, fun seen => ?_⟩
  show (decode depth (Draft.ofJson j)).map _ = _
  rw [ha, ← hput seen]
  rfl

theorem restores_nullable {name k : String} {decode : Decoder α} {put : Option α → σ → σ} {i : Nat}
    {j : Json} {a : Option α} (hi : index? fields k = some i)
    (hf : fields[i]? = some (nullable name decode put))
    (ha : Decoder.optional decode depth (Draft.ofJson j) = .ok a)
    (hput : ∀ seen, put a (mixture seen) = mixture (i :: seen)) :
    Restores fields mixture depth (k, j) := by
  refine ⟨i, _, hi, hf, fun seen => ?_⟩
  show (Decoder.optional decode depth (Draft.ofJson j)).map _ = _
  rw [ha, ← hput seen]
  rfl

theorem Covers.nodup (h : Covers fields members) :
    (members.map fun m => index? fields m.1).Nodup :=
  h.nodup_iff.2 (List.nodup_range.map (Option.some_injective Nat))

/-- Members that name different fields restore them one after the other. -/
theorem readMembers_mixture (strict : Bool)
    (hrestores : ∀ m ∈ members, Restores fields mixture depth m)
    (hdistinct : (members.map fun m => index? fields m.1).Nodup) {seen : List Nat}
    (hnew : ∀ m ∈ members, ∀ i ∈ seen, index? fields m.1 ≠ some i) :
    ∃ seen', readMembers fields strict depth (Draft.ofMembers members) seen (mixture seen) =
        .ok (mixture seen', seen') ∧
      ∀ i, i ∈ seen ∨ some i ∈ (members.map fun m => index? fields m.1) → i ∈ seen' := by
  induction members generalizing seen with
  | nil => exact ⟨seen, by rw [Draft.ofMembers, readMembers], fun i hi => hi.resolve_right nofun⟩
  | cons m ms ih =>
    obtain ⟨k, j⟩ := m
    obtain ⟨⟨i, f, hi, hf, hread⟩, hrestores⟩ := List.forall_mem_cons.1 hrestores
    obtain ⟨hdifferent, hdistinct⟩ := List.nodup_cons.1 hdistinct
    obtain ⟨hnew, hlater⟩ := List.forall_mem_cons.1 hnew
    have hunseen : i ∉ seen := fun hmem => hnew i hmem hi
    have hnext : ∀ m ∈ ms, ∀ i' ∈ i :: seen, index? fields m.1 ≠ some i' := by
      intro m hm
      refine List.forall_mem_cons.2 ⟨fun heq => hdifferent ?_, hlater m hm⟩
      exact List.mem_map.2 ⟨m, hm, heq.trans hi.symm⟩
    obtain ⟨seen', hrun, hseen'⟩ := ih hrestores hdistinct hnext
    refine ⟨seen', ?_, fun i' hi' => hseen' i' ?_⟩
    · rw [Draft.ofMembers, readMembers, hi]
      simp only []
      rw [if_neg hunseen, hf]
      simp only []
      rw [hread seen]
      exact hrun
    · rcases hi' with hmem | hmem
      · exact .inl (List.mem_cons_of_mem _ hmem)
      · rcases List.mem_cons.1 hmem with heq | hmem
        · obtain rfl : i' = i := Option.some.inj (heq.trans hi)
          exact .inl List.mem_cons_self
        · exact .inr hmem

theorem complete_of_forall_mem {seen : List Nat} (h : ∀ i < fields.length, i ∈ seen) :
    complete fields seen = true := by
  rw [complete, List.all_eq_true]
  rintro ⟨f, i⟩ hmem
  have hlt : i < fields.length := by
    have := (List.mem_zipIdx hmem).2.1
    omega
  rw [Bool.or_eq_true, List.contains_iff_mem]
  exact .inr (h i hlt)

/-- A record is read back from its members in any order if each restores its field. -/
theorem record_of_restores {r : σ} (hrestores : ∀ m ∈ written, Restores fields mixture depth m)
    (hcovers : Covers fields written) (hperm : members.Perm written)
    (hfull : ∀ seen, (∀ i < fields.length, i ∈ seen) → mixture seen = r) :
    record fields strict (mixture []) (depth + 1) (Draft.ofJson (.object members)) = .ok r := by
  have hcovers : Covers fields members := (hperm.map _).trans hcovers
  have hrestores : ∀ m ∈ members, Restores fields mixture depth m := fun m hm =>
    hrestores m (hperm.mem_iff.1 hm)
  have hnew : ∀ m ∈ members, ∀ i ∈ ([] : List Nat), index? fields m.1 ≠ some i :=
    fun _ _ _ hi => absurd hi List.not_mem_nil
  obtain ⟨seen, hread, hseen⟩ := readMembers_mixture strict hrestores hcovers.nodup hnew
  have hall : ∀ i < fields.length, i ∈ seen := fun i hi =>
    hseen i (.inr (hcovers.mem_iff.2 (List.mem_map.2 ⟨i, List.mem_range.2 hi, rfl⟩)))
  rw [Draft.ofJson, record, hread]
  show (if complete fields seen then Except.ok (mixture seen) else _) = _
  rw [complete_of_forall_mem hall, hfull seen hall]
  rfl

end

end Field

end Outbox.Json
