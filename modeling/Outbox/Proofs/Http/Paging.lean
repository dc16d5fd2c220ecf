import Outbox.Http.Call
import Outbox.Proofs.Store.Listing

/-!
# Pages that a request can ask for

A page and a limit that come in a query are numbers of 32 bits, and the interface keeps the limit
small (`Call.page_of_ofRequest`). So a listing that a request asks for is always answered
(`Call.list_of_ofRequest`), although not every listing is.
-/

namespace Outbox.Http

namespace ListQuery

theorem page_of_add? {q q' : ListQuery} {p : String × String} (h : q.add? p = some q')
    (hq : ∀ n ∈ q.page, n ≤ maxPage) : ∀ n ∈ q'.page, n ≤ maxPage := by
  obtain ⟨name, s⟩ := p
  unfold add? at h
  split at h
  · split at h
    · cases h
    · obtain rfl := Option.some.inj h
      exact hq
  · split at h
    · cases h
    · obtain ⟨n, hn, rfl⟩ := Option.map_eq_some_iff.1 h
      have hheld := (Option.filter_eq_some_iff.1 hn).2
      rintro m ⟨⟩
      simpa using hheld
  · split at h
    · cases h
    · obtain ⟨n, -, rfl⟩ := Option.map_eq_some_iff.1 h
      exact hq
  · obtain rfl := Option.some.inj h
    exact hq

theorem page_of_foldlM_add? {ps : List (String × String)} {q q' : ListQuery}
    (h : ps.foldlM add? q = some q') (hq : ∀ n ∈ q.page, n ≤ maxPage) :
    ∀ n ∈ q'.page, n ≤ maxPage := by
  induction ps generalizing q with
  | nil =>
    obtain rfl := Option.some.inj h
    exact hq
  | cons p ps ih =>
    rw [List.foldlM_cons, Option.bind_eq_bind, Option.bind_eq_some_iff] at h
    obtain ⟨r, hr, h⟩ := h
    exact ih h (page_of_add? hr hq)

/-- The page that a query asks for is a number of 32 bits, and its limit is a small one. -/
theorem page_of_call {query : List Char} {q : ListQuery} (hq : parse? query = some q)
    {status : Option Status} {page limit : Nat} (h : q.call = .ok (.list status page limit)) :
    page ≤ maxPage ∧ 1 ≤ limit ∧ limit ≤ maxPageSize := by
  have hheld := page_of_foldlM_add? hq (by simp)
  unfold call at h
  cases hs : q.wantedStatus with
  | error e => simp [hs, Except.map] at h
  | ok wanted =>
    simp only [hs, Except.map, Except.ok.injEq, Call.list.injEq] at h
    obtain ⟨-, rfl, rfl⟩ := h
    refine ⟨?_, Nat.le_min.2 ⟨Nat.le_max_right _ _, by decide⟩, Nat.min_le_right _ _⟩
    cases hp : q.page with
    | none => decide
    | some n =>
      have hn := hheld n hp
      simp only [maxPage, Option.getD_some] at hn ⊢
      omega

end ListQuery

namespace Call

variable {r : Request} {status : Option Status} {page limit : Nat}

/-- To post something never asks for a listing. -/
theorem ofPost_ne_list (route : Route) : ofPost r route ≠ .ok (.list status page limit) := by
  intro h
  cases route with
  | health | live | integrations | stats => cases h
  | retryDead => cases h
  | events =>
    simp only [ofPost, ofPublishBody] at h
    grind
  | retry segment =>
    simp only [ofPost, ofSegment] at h
    grind
  | replay =>
    simp only [ofPost, ofReplayBody] at h
    grind

/-- A request for a listing asks for a page of 32 bits with a small limit. -/
theorem page_of_ofRequest (h : ofRequest r = .ok (.list status page limit)) :
    page ≤ maxPage ∧ 1 ≤ limit ∧ limit ≤ maxPageSize := by
  unfold ofRequest at h
  split at h
  · cases h
  · next route _ =>
    split at h
    · cases route with
      | health | live | integrations | stats | retry | retryDead | replay => cases h
      | events =>
        simp only [ofRead, ofQuery] at h
        split at h
        · cases h
        · next q hq =>
          cases hcall : q.call with
          | error e => simp [hcall, Except.mapError] at h
          | ok call =>
            simp only [hcall, Except.mapError, Except.ok.injEq] at h
            exact ListQuery.page_of_call hq (h ▸ hcall)
    · split at h
      · exact absurd h (ofPost_ne_list route)
      · cases h

/-- A listing that a request asks for is answered. -/
theorem list_of_ofRequest (h : ofRequest r = .ok (.list status page limit)) (s : Store) :
    s.list status page limit = .ok (s.slice status page limit) := by
  obtain ⟨hpage, -, hlimit⟩ := page_of_ofRequest h
  have hfactor : limit ≤ Page.maxFactor := Nat.le_trans hlimit (by decide)
  rw [s.list_eq status hpage (Nat.le_trans hlimit (by decide)),
    if_pos (Page.forall_before_lt_iff_limit.2 hfactor page hpage)]

end Call

end Outbox.Http
