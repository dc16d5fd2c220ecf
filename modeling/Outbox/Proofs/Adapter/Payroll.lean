import Outbox.Adapter.Payroll
import Outbox.Proofs.Url.Path

/-!
# Addresses of employees

The records of the payroll system are below the path of the base, less a slash at its end, in
the collection `employees`, each under one more segment. `employeeUrl_faithful_iff` tells
exactly how far the address for an entity id is the one that is meant.

* The segment spells the id only where the id holds no tab and no line end. These are dropped
  when the address is made, so that ids which differ in nothing else have one address.
* An id of two dots with tabs or line ends among them is not refused as two dots are. It takes
  back the collection, and the address is that of the base.
* Of a base path of two slashes both are lost, so that the address is in no collection below
  the base.

## Scope

The theorem speaks of the path that is sent. What the payroll system makes of the path is not
modelled.
-/

namespace Outbox.Payroll

open Text Url

/-! ### Ids that are not refused -/

theorem isBlank_of_isDropped {c : Char} (h : isDropped c = true) : isBlank c = true := by
  simp only [isDropped, Bool.or_eq_true, decide_eq_true_eq] at h
  rcases h with (rfl | rfl) | rfl
  all_goals decide

theorem trimChars_of_kept_eq_dot {cs : List Char} (h : kept cs = ['.']) :
    trimChars cs = ['.'] := by
  obtain ⟨front, back, rfl, hfront, -, hback⟩ := List.filter_eq_cons_iff.1 h
  have hfront : ∀ c ∈ front, isBlank c = true := fun c hc =>
    isBlank_of_isDropped (by simpa using hfront c hc)
  have hback : ∀ c ∈ back.reverse, isBlank c = true := fun c hc =>
    isBlank_of_isDropped (by
      simpa using List.filter_eq_nil_iff.1 hback c (List.mem_reverse.1 hc))
  have hdot : ¬ isBlank '.' = true := by decide
  rw [trimChars, dropBlanks, dropBlanks, List.dropWhile_append_of_pos hfront,
    List.dropWhile_cons_of_neg hdot, List.reverse_cons, List.dropWhile_append_of_pos hback,
    List.dropWhile_cons_of_neg hdot]
  rfl

theorem kept_ne_dot {entityId : String} (h : isUnaddressable entityId = false) :
    kept entityId.toList ≠ ['.'] := by
  intro hkept
  have htrim : trim entityId = "." := congrArg String.ofList (trimChars_of_kept_eq_dot hkept)
  rw [isUnaddressable, htrim] at h
  exact absurd h (by decide)

/-- An accepted id is none of the texts that are refused. -/
theorem toList_ne {entityId : String} {cs : List Char} (h : isUnaddressable entityId = false)
    (hcs : isUnaddressable (String.ofList cs) = true) : entityId.toList ≠ cs := by
  rintro rfl
  rw [String.ofList_toList, h] at hcs
  cases hcs

theorem employeeUrl_eq_ok_iff {p : Payroll} {entityId : String} {u : Url} :
    p.employeeUrl entityId = .ok u ↔
      isUnaddressable entityId = false ∧ p.endpoint ["employees".toList, entityId.toList] = u := by
  rw [employeeUrl]
  split
  · next h => exact iff_of_false nofun fun k => absurd (h.symm.trans k.1) nofun
  · next h => simp [h]

/-! ### The path of an address -/

/-- The segments of an address, where `before` are those of the base and `name` is what is left
of the id. -/
def recordParts (before : List (List Char)) (name : List Char) : List (List Char) :=
  if name = ['.', '.'] then before ++ [[]]
  else before ++ ["employees".toList, Percent.encode reservedInSegment name]

theorem recordParts_injective (before : List (List Char)) :
    Function.Injective (recordParts before) := by
  intro name other h
  unfold recordParts at h
  have hlength := congrArg List.length h
  by_cases hname : name = ['.', '.']
  · by_cases hother : other = ['.', '.']
    · rw [hname, hother]
    · simp [hname, hother] at hlength
  · by_cases hother : other = ['.', '.']
    · simp [hname, hother] at hlength
    · rw [if_neg hname, if_neg hother] at h
      have hlast : Percent.encode reservedInSegment name =
          Percent.encode reservedInSegment other := by
        simpa using List.append_cancel_left h
      exact Percent.encode_injective (by decide) hlast

/-- An accepted id changes nothing of the address of the base but the path. -/
theorem employeeUrl_eq {p : Payroll} {parts : List (List Char)}
    (hpath : p.base.path = .segments parts) {entityId : String} {u : Url}
    (hu : p.employeeUrl entityId = .ok u) :
    u = { p.base.withoutUser with
      path := .segments (recordParts (stem (popIfEmpty parts)) (kept entityId.toList)) } := by
  obtain ⟨hid, rfl⟩ := employeeUrl_eq_ok_iff.1 hu
  have hcollection : pushSegment (popIfEmpty parts) "employees".toList =
      stem (popIfEmpty parts) ++ ["employees".toList] := by
    rw [pushSegment_of_ne_dots (by decide) (by decide)]
    rfl
  have hstem : stem (stem (popIfEmpty parts) ++ ["employees".toList]) =
      stem (popIfEmpty parts) ++ ["employees".toList] :=
    stem_append_of_ne_nil _ (by decide)
  have hrecord : ["employees".toList, entityId.toList].foldl pushSegment (popIfEmpty parts) =
      recordParts (stem (popIfEmpty parts)) (kept entityId.toList) := by
    rw [List.foldl_cons, List.foldl_cons, List.foldl_nil, hcollection,
      pushSegment_of_ne_dots (toList_ne hid (by decide)) (toList_ne hid (by decide)), hstem,
      if_neg (kept_ne_dot hid), recordParts, List.dropLast_concat, List.append_assoc]
    rfl
  rw [endpoint, addPath, hpath]
  simp only [hrecord]
  rfl

theorem usualPort?_ne_none_of_isServed {scheme : List Char}
    (h : isServed (String.ofList scheme) = true) : usualPort? scheme ≠ none := by
  have hscheme : String.ofList scheme = "http" ∨ String.ofList scheme = "https" := by
    simpa [isServed] using h
  rw [usualPort?]
  rcases hscheme with hscheme | hscheme <;> simp [hscheme]

/-- The base of an adapter has a host and a path of segments. -/
theorem segmented_of_ofSettings {settings : PayrollSettings} {p : Payroll}
    (hp : ofSettings settings = .ok p) : ∃ parts, p.base.Segmented parts := by
  rw [ofSettings] at hp
  dsimp only at hp
  split at hp
  · cases hp
  · next base hbase =>
    split at hp
    · cases hp
    · next hserved =>
      split at hp
      · cases hp
      · obtain rfl := Except.ok.inj hp
        refine segmented_of_parse hbase (usualPort?_ne_none_of_isServed ?_)
        simp only [Bool.or_eq_true, Bool.not_eq_true', not_or] at hserved
        simpa using hserved.2

/-! ### Where an address leads -/

/-- The path below which the records are meant to be. -/
def collection (p : Payroll) : List Char := withoutSlash p.base.pathText ++ "/employees/".toList

/-- An address of something in the collection. -/
def InCollection (p : Payroll) (u : Url) : Prop :=
  ∃ segment, '/' ∉ segment ∧ u.pathText = p.collection ++ segment

/-- An address of the record of an employee: the segment below the collection spells the id. -/
def IsRecordOf (p : Payroll) (u : Url) (entityId : String) : Prop :=
  ∃ segment, '/' ∉ segment ∧ u.pathText = p.collection ++ segment ∧
    Percent.decode segment = Utf8.encode entityId.toList

theorem IsRecordOf.inCollection {p : Payroll} {u : Url} {entityId : String}
    (h : p.IsRecordOf u entityId) : p.InCollection u := by
  obtain ⟨segment, hslash, hpath, -⟩ := h
  exact ⟨segment, hslash, hpath⟩

section

variable {p : Payroll} {parts : List (List Char)} {entityId : String} {u : Url}

theorem pathText_eq (hbase : p.base.Segmented parts) (hu : p.employeeUrl entityId = .ok u) :
    u.pathText = joined (recordParts (stem (popIfEmpty parts)) (kept entityId.toList)) := by
  rw [employeeUrl_eq hbase.path hu]
  exact pathText_of_host hbase.host rfl

/-- The path is made as it is meant to be unless the base path is two slashes, or two dots are
left of the id. -/
theorem pathText_eq_collection_append (hbase : p.base.Segmented parts)
    (hu : p.employeeUrl entityId = .ok u) (htwo : p.base.pathText ≠ ['/', '/'])
    (hdots : kept entityId.toList ≠ ['.', '.']) :
    u.pathText =
      p.collection ++ Percent.encode reservedInSegment (kept entityId.toList) := by
  rw [pathText_eq hbase hu, recordParts, if_neg hdots, joined_append, hbase.joined_stem htwo,
    collection]
  simp

theorem inCollection_iff (hbase : p.base.Segmented parts) (hu : p.employeeUrl entityId = .ok u) :
    p.InCollection u ↔
      p.base.pathText ≠ ['/', '/'] ∧ kept entityId.toList ≠ ['.', '.'] := by
  constructor
  · rintro ⟨segment, -, hpath⟩
    rw [pathText_eq hbase hu, collection] at hpath
    have htwo : p.base.pathText ≠ ['/', '/'] := by
      intro htwo
      -- nothing is left of the base, so that the second character is no slash
      obtain rfl := hbase.pathText_eq_slashes_iff.1 htwo
      rw [htwo, recordParts] at hpath
      split at hpath
      · cases hpath
      · cases hpath
    refine ⟨htwo, fun hdots => ?_⟩
    -- the path ends behind the base
    rw [recordParts, if_pos hdots, joined_append, hbase.joined_stem htwo,
      List.append_assoc] at hpath
    cases List.append_cancel_left hpath
  · rintro ⟨htwo, hdots⟩
    exact ⟨_, slash_not_mem_encode _, pathText_eq_collection_append hbase hu htwo hdots⟩

theorem isRecordOf_iff (hbase : p.base.Segmented parts) (hu : p.employeeUrl entityId = .ok u) :
    p.IsRecordOf u entityId ↔
      p.base.pathText ≠ ['/', '/'] ∧ ∀ c ∈ entityId.toList, isDropped c = false := by
  have hdecode : Percent.decode (Percent.encode reservedInSegment (kept entityId.toList)) =
      Utf8.encode (kept entityId.toList) := Percent.decode_encode (by decide) _
  have hkept : kept entityId.toList = entityId.toList ↔
      ∀ c ∈ entityId.toList, isDropped c = false := by
    simp [kept, List.filter_eq_self]
  constructor
  · intro h
    obtain ⟨htwo, hdots⟩ := (inCollection_iff hbase hu).1 h.inCollection
    obtain ⟨segment, -, hpath, hspell⟩ := h
    rw [pathText_eq_collection_append hbase hu htwo hdots] at hpath
    obtain rfl := List.append_cancel_left hpath
    exact ⟨htwo, hkept.1 (Utf8.encode_injective (hdecode.symm.trans hspell))⟩
  · rintro ⟨htwo, hplain⟩
    have hid := hkept.2 hplain
    have hdots : kept entityId.toList ≠ ['.', '.'] := fun h =>
      toList_ne (employeeUrl_eq_ok_iff.1 hu).1 (by decide) (hid.symm.trans h)
    refine ⟨_, slash_not_mem_encode _, pathText_eq_collection_append hbase hu htwo hdots, ?_⟩
    rw [hdecode, hid]

/-- Two ids have one address exactly when they are left with the same. -/
theorem employeeUrl_eq_iff (hbase : p.base.Segmented parts)
    (hu : p.employeeUrl entityId = .ok u) {other : String} {v : Url}
    (hv : p.employeeUrl other = .ok v) :
    v = u ↔ kept other.toList = kept entityId.toList := by
  rw [employeeUrl_eq hbase.path hu, employeeUrl_eq hbase.path hv]
  simp [(recordParts_injective _).eq_iff]

end

/-- How far the address of an accepted id is faithful: it is that of the record with this very
id unless the id holds tabs or line ends or the base path is two slashes; it is in the
collection unless two dots are left of the id or the base path is two slashes; and two ids share
it exactly when they are the same without tabs and line ends. -/
theorem employeeUrl_faithful_iff {settings : PayrollSettings} {p : Payroll}
    (hp : ofSettings settings = .ok p) {entityId : String} {u : Url}
    (hu : p.employeeUrl entityId = .ok u) :
    (p.IsRecordOf u entityId ↔
      p.base.pathText ≠ ['/', '/'] ∧ ∀ c ∈ entityId.toList, isDropped c = false) ∧
    (p.InCollection u ↔
      p.base.pathText ≠ ['/', '/'] ∧ kept entityId.toList ≠ ['.', '.']) ∧
    ∀ other v, p.employeeUrl other = .ok v →
      (v = u ↔ kept other.toList = kept entityId.toList) := by
  obtain ⟨parts, hbase⟩ := segmented_of_ofSettings hp
  exact ⟨isRecordOf_iff hbase hu, inCollection_iff hbase hu,
    fun _ _ hv => employeeUrl_eq_iff hbase hu hv⟩

/-- An adapter for `http://hr/api/`. -/
def atApi : Payroll where
  base := {
    scheme := "http".toList, host := some (.domain "hr".toList)
    path := .segments ["api".toList, []] }
  userAgent := "staffsync-outbox/0.1"

/-- An id that ends in a line end leads to the record of the id without it. -/
theorem employeeUrl_faithful_iff_lineEnd :
    ofSettings { baseUrl := "http://hr/api/" } = .ok atApi ∧
      ∃ u, atApi.employeeUrl "EMP0001\n" = .ok u ∧ atApi.employeeUrl "EMP0001" = .ok u ∧
        ¬ atApi.IsRecordOf u "EMP0001\n" ∧ atApi.IsRecordOf u "EMP0001" := by
  have hp : ofSettings { baseUrl := "http://hr/api/" } = .ok atApi := by decide +kernel
  have hu : atApi.employeeUrl "EMP0001\n" =
      .ok (atApi.endpoint ["employees".toList, "EMP0001\n".toList]) :=
    employeeUrl_eq_ok_iff.2 ⟨by decide, rfl⟩
  have hv : atApi.employeeUrl "EMP0001" =
      .ok (atApi.endpoint ["employees".toList, "EMP0001".toList]) :=
    employeeUrl_eq_ok_iff.2 ⟨by decide, rfl⟩
  obtain ⟨hrecord, -, hsame⟩ := employeeUrl_faithful_iff hp hu
  have hone := (hsame _ _ hv).2 (by decide)
  rw [hone] at hv
  refine ⟨hp, _, hu, hv, fun h => ?_, ?_⟩
  · exact absurd ((hrecord.1 h).2 '\n' (by decide)) (by decide)
  · have hplain : ∀ c ∈ "EMP0001".toList, isDropped c = false := by simp [isDropped]
    exact (employeeUrl_faithful_iff hp hv).1.2 ⟨by decide, hplain⟩

/-- An id that becomes two dots leads out of the collection. -/
example : (atApi.employeeUrl ".\t.").map Url.text = .ok "http://hr/api/" := by decide +kernel

end Outbox.Payroll
