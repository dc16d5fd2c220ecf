import Outbox.Time.Instant

/-!
# Instants that are moved

An instant outside a leap second is moved along the nanoseconds since the epoch. Inside a leap
second it is not: a move stays in the long second as far as it reaches, and goes on from there as
if it had begun a second earlier (`after?_eq_some_iff`). So an instant can be moved less far than
the calendar goes (`exists_after?_of_le`), and a longer span leads further. But two instants, of
which the later one is in a leap second, may change their order: they keep it if they are `InStep`
(`after?_le_after?`), and no other two do when they are moved by a second (`inStep_of_after?_le`).
-/

namespace Outbox.Instant

variable {s t r r' : Instant} {a b : Span}

/-! ### Instants and their nanoseconds -/

theorem mk?_eq_some_iff {second : Int} {nano : Nat} {t : Instant} :
    mk? second nano = some t ↔ t.second = second ∧ t.nano = nano := by
  unfold mk?
  split
  · next h =>
    cases t
    simp [eq_comm]
  · next h =>
    simp only [reduceCtorEq, false_iff, not_and]
    rintro rfl rfl
    exact h t.isPoint

/-- The calendar begins with its first second. -/
theorem minSecond_le_nanosSinceEpoch (t : Instant) :
    minSecond * nanosPerSecond ≤ t.nanosSinceEpoch := by
  have := t.isPoint.1
  unfold nanosSinceEpoch nanosPerSecond
  omega

/-- An instant that is found by its nanoseconds is not in a leap second. -/
theorem ofNanos?_eq_some_iff {n : Int} {t : Instant} :
    ofNanos? n = some t ↔ t.nanosSinceEpoch = n ∧ t.nano < nanosPerSecond := by
  rw [ofNanos?, mk?_eq_some_iff]
  unfold nanosSinceEpoch nanosPerSecond
  omega

/-- Before the end of the calendar only its beginning is a limit. -/
theorem ofNanos?_eq_none_iff {n : Int} (h : n < (maxSecond + 1) * nanosPerSecond) :
    ofNanos? n = none ↔ n < minSecond * nanosPerSecond := by
  have hpoint : ofNanos? n = none ↔
      ¬ IsPoint (n / (nanosPerSecond : Int)) (n % (nanosPerSecond : Int)).toNat := by
    unfold ofNanos? mk?
    split
    · next hp => exact iff_of_false (Option.some_ne_none _) (not_not_intro hp)
    · next hp => exact iff_of_true rfl hp
  rw [hpoint, IsPoint]
  unfold minSecond maxSecond nanosPerSecond at *
  omega

theorem settle_eq_ofNanos? (second nano : Int) :
    shift?.settle second nano = ofNanos? (second * (nanosPerSecond : Int) + nano) := by
  have hdiv : (second * (nanosPerSecond : Int) + nano) / (nanosPerSecond : Int) =
      second + nano / (nanosPerSecond : Int) := by
    unfold nanosPerSecond
    omega
  have hmod : (second * (nanosPerSecond : Int) + nano) % (nanosPerSecond : Int) =
      nano % (nanosPerSecond : Int) := by
    unfold nanosPerSecond
    omega
  rw [shift?.settle, ofNanos?, hdiv, hmod]

theorem shift?_zero (t : Instant) : t.shift? 0 = some t := by
  have hpoint := t.isPoint
  simp only [shift?, Int.zero_tdiv, Int.zero_tmod, settle_eq_ofNanos?]
  split
  · rw [if_neg (by omega), if_neg (by omega), mk?_eq_some_iff]
    exact ⟨rfl, by omega⟩
  · next h =>
    rw [ofNanos?_eq_some_iff]
    exact ⟨by simp [nanosSinceEpoch], by omega⟩

/-! ### Moves forward -/

theorem exists_ofNanos? {n : Int} (hlow : minSecond * nanosPerSecond ≤ n)
    (hhigh : n < (maxSecond + 1) * nanosPerSecond) : ∃ t, ofNanos? n = some t := by
  refine Option.ne_none_iff_exists'.1 fun hnone => ?_
  rw [ofNanos?_eq_none_iff hhigh] at hnone
  omega

/-- Outside a leap second the calendar ends with its last second. -/
theorem nanosSinceEpoch_lt (h : t.nano < nanosPerSecond) :
    t.nanosSinceEpoch < (maxSecond + 1) * nanosPerSecond := by
  have := t.isPoint.2.1
  unfold nanosSinceEpoch nanosPerSecond at *
  omega

/-- The instant a span later, by the nanoseconds since the epoch. -/
theorem after?_eq (t : Instant) (a : Span) :
    t.after? a =
      if nanosPerSecond ≤ t.nano then
        if 2 * nanosPerSecond ≤ t.nano + a.nanos then
          ofNanos? (t.nanosSinceEpoch - nanosPerSecond + a.nanos)
        else mk? t.second (t.nano + a.nanos)
      else ofNanos? (t.nanosSinceEpoch + a.nanos) := by
  have hnano := t.isPoint.2.2.1
  have hwhole : (a.nanos : Int).tdiv (nanosPerSecond : Int) = a.nanos / (nanosPerSecond : Int) :=
    Int.tdiv_eq_ediv_of_nonneg (Int.natCast_nonneg _)
  have hpart : (a.nanos : Int).tmod (nanosPerSecond : Int) = a.nanos % (nanosPerSecond : Int) :=
    Int.tmod_eq_emod_of_nonneg (Int.natCast_nonneg _)
  simp only [after?, shift?, hwhole, hpart, settle_eq_ofNanos?]
  unfold nanosSinceEpoch nanosPerSecond at *
  split
  · split
    · rw [if_pos (by omega)]
      congr 1
      omega
    · rw [if_neg (by omega), if_neg (by omega)]
      congr 1
      omega
  · congr 1
    omega

/-- Outside a leap second an instant is moved along the nanoseconds. Inside one it stays there as
far as the second reaches, and is moved as if it were a second earlier from there on. -/
theorem after?_eq_some_iff :
    t.after? a = some r ↔
      (t.nano < nanosPerSecond ∧ r.nano < nanosPerSecond ∧
          r.nanosSinceEpoch = t.nanosSinceEpoch + a.nanos) ∨
        (nanosPerSecond ≤ t.nano ∧ r.second = t.second ∧ r.nano = t.nano + a.nanos) ∨
          (nanosPerSecond ≤ t.nano ∧ 2 * nanosPerSecond ≤ t.nano + a.nanos ∧
            r.nano < nanosPerSecond ∧
              r.nanosSinceEpoch = t.nanosSinceEpoch - nanosPerSecond + a.nanos) := by
  have hpoint := r.isPoint.2.2.1
  rw [after?_eq]
  split
  · split
    · rw [ofNanos?_eq_some_iff]
      omega
    · rw [mk?_eq_some_iff]
      omega
  · rw [ofNanos?_eq_some_iff]
    omega

/-- Two instants that keep their order when they are moved: the later one is outside a leap
second, or the earlier one is in the same, or there is a whole second between them. -/
def InStep (s t : Instant) : Prop :=
  s ≤ t ∧
    (t.nano < nanosPerSecond ∨ (s.second = t.second ∧ nanosPerSecond ≤ s.nano) ∨
      s.nanosSinceEpoch + nanosPerSecond ≤ t.nanosSinceEpoch)

instance (s t : Instant) : Decidable (InStep s t) := inferInstanceAs (Decidable (_ ∧ _))

theorem inStep_self (t : Instant) : t.InStep t := ⟨le_refl t, by omega⟩

/-- The later of them, moved further, is the later one still. -/
theorem after?_le_after? (h : s.InStep t) (hab : a ≤ b) (hr : s.after? a = some r)
    (hr' : t.after? b = some r') : r ≤ r' := by
  have hle : a.nanos ≤ b.nanos := hab
  obtain ⟨horder, hstep⟩ := h
  have hs := s.isPoint.2.2.1
  have hmoved := r'.isPoint.2.2.1
  rw [after?_eq_some_iff] at hr hr'
  rw [le_iff] at horder ⊢
  unfold nanosSinceEpoch nanosPerSecond at *
  omega

/-- An instant that can be moved can be moved less far, to one that is not later. -/
theorem exists_after?_of_le (h : t.after? b = some r) (hab : a ≤ b) :
    ∃ low, t.after? a = some low ∧ low ≤ r := by
  have hle : a.nanos ≤ b.nanos := hab
  have hsome : ∃ low, t.after? a = some low := by
    rw [after?_eq_some_iff] at h
    rw [after?_eq]
    have hlong := r.isPoint.2.2.1
    have hlow := t.minSecond_le_nanosSinceEpoch
    have hhigh := r.nanosSinceEpoch_lt
    split
    · split
      · have hfirst := t.isPoint.1
        refine exists_ofNanos? ?_ (by omega)
        unfold nanosSinceEpoch nanosPerSecond at *
        omega
      · refine ⟨⟨t.second, t.nano + a.nanos, ?_⟩, mk?_eq_some_iff.2 ⟨rfl, rfl⟩⟩
        have ht := t.isPoint
        unfold IsPoint at ht ⊢
        omega
    · exact exists_ofNanos? (by omega) (by omega)
  obtain ⟨low, hlow⟩ := hsome
  exact ⟨low, hlow, after?_le_after? t.inStep_self hab hlow h⟩

/-- Instants whose order is still right when both are moved by a second keep it under all moves. -/
theorem inStep_of_after?_le (h : s ≤ t) (ha : a.nanos = nanosPerSecond)
    (hr : s.after? a = some r) (hr' : t.after? a = some r') (hle : r ≤ r') : s.InStep t := by
  rw [after?_eq_some_iff] at hr hr'
  have hs := s.isPoint
  have ht := t.isPoint
  refine ⟨h, ?_⟩
  rw [le_iff] at h hle
  unfold IsPoint at hs ht
  unfold nanosSinceEpoch nanosPerSecond at *
  omega

end Outbox.Instant
