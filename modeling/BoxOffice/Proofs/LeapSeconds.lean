import BoxOffice.Hold

set_option autoImplicit false

/-!
# Leap seconds

Outside leap seconds, instants are ordered, moved and subtracted as their nanoseconds are. An
instant in a leap second comes after those of the second before it, and a difference from it or to
it may be a second longer or shorter than the order lets one expect. What is left of the end of a
hold is that no reading up to it finds the hold expired, apart from those in the last second for
which a leap second counts.
-/

namespace BoxOffice

namespace Instant

variable {t u start : Instant} {d : Span}

instance : LT Instant where
  lt t u := t.seconds < u.seconds ∨ t.seconds = u.seconds ∧ t.fraction < u.fraction

instance : LE Instant where
  le t u := t.seconds < u.seconds ∨ t.seconds = u.seconds ∧ t.fraction ≤ u.fraction

instance : DecidableLT Instant := fun t u =>
  inferInstanceAs (Decidable
    (t.seconds < u.seconds ∨ t.seconds = u.seconds ∧ t.fraction < u.fraction))

instance : DecidableLE Instant := fun t u =>
  inferInstanceAs (Decidable
    (t.seconds < u.seconds ∨ t.seconds = u.seconds ∧ t.fraction ≤ u.fraction))

theorem lt_iff :
    t < u ↔ t.seconds < u.seconds ∨ t.seconds = u.seconds ∧ t.fraction < u.fraction :=
  Iff.rfl

theorem le_iff :
    t ≤ u ↔ t.seconds < u.seconds ∨ t.seconds = u.seconds ∧ t.fraction ≤ u.fraction :=
  Iff.rfl

theorem fraction_of_not_leap (ht : t.leap = false) : t.fraction = t.nanos % 1000000000 := by
  simp [fraction, ht]

theorem fraction_of_leap (ht : t.leap = true) :
    t.fraction = t.nanos % 1000000000 + 1000000000 := by
  simp [fraction, ht]

theorem nanos_le_of_le (hu : u.leap = false) (h : t ≤ u) : t.nanos ≤ u.nanos := by
  rw [le_iff, fraction, fraction_of_not_leap hu, seconds, seconds] at h
  cases ht : t.leap with
  | false => simp only [ht, Bool.false_eq_true, if_false] at h; omega
  | true => simp only [ht, if_true] at h; omega

theorem seconds_le_of_le (h : t ≤ u) : t.seconds ≤ u.seconds := by
  rw [le_iff] at h
  omega

theorem since_self (t : Instant) : t.since t = 0 := by
  unfold since
  cases t.leap <;> simp

theorem since_of_counted (h : t.nanos - start.nanos < t.since start) :
    t.since start = t.nanos - start.nanos + 1000000000 := by
  unfold since at h ⊢
  split at h
  · split at h
    · omega
    · rename_i hend hstart
      rw [if_pos hend, if_neg hstart, Int.sub_zero]
  · split at h <;> omega

theorem moved_of_not_leap (ht : t.leap = false) : t.moved d = (t.nanos + d.nanos, false) := by
  simp [moved, ht]

theorem moved_back (ht : t.leap = true) (h : t.nanos % 1000000000 + d.nanos < 0) :
    t.moved d = (t.nanos + 1000000000 + d.nanos, false) := by
  simp [moved, ht, h]

theorem moved_within (ht : t.leap = true) (hlow : 0 ≤ t.nanos % 1000000000 + d.nanos)
    (hhigh : t.nanos % 1000000000 + d.nanos < 1000000000) :
    t.moved d = (t.nanos + d.nanos, true) := by
  simp [moved, ht, hhigh, Int.not_lt.2 hlow]

theorem moved_of_nonneg (hd : 0 ≤ d.nanos) :
    t.moved d = (t.nanos + d.nanos,
      t.leap && decide (t.nanos % 1000000000 + d.nanos < 1000000000)) := by
  unfold moved
  rw [if_neg]
  omega

theorem add?_eq_some_iff : t.add? d = some u ↔ u.nanos = (t.moved d).1 ∧ u.leap = (t.moved d).2 :=
  make?_eq_some_iff

theorem add?_eq_some_iff_of_not_leap (ht : t.leap = false) :
    t.add? d = some u ↔ u.nanos = t.nanos + d.nanos ∧ u.leap = false := by
  rw [add?_eq_some_iff, moved_of_not_leap ht]

end Instant

namespace Hold

variable {since now e : Instant} {length : Span}

/-- A reading up to the end of a hold. If a leap second counts in the time that has passed until then,
it lies a second before the end at least. A hold from within a leap second does not end before it. -/
def Within (since e now : Instant) : Prop :=
  now ≤ e ∧ (since.leap = true → since ≤ e) ∧
    (now.nanos - since.nanos < now.since since → now.nanos + 1000000000 ≤ e.nanos)

instance : Decidable (Within since e now) := inferInstanceAs (Decidable (_ ∧ _ ∧ _))

theorem not_isExpired_self (hl : 0 ≤ length.nanos) : ¬isExpired now now length := by
  rw [isExpired_iff, Instant.since_self]
  exact Int.not_lt.2 hl

theorem length_nonneg_of_le (he : expiresAt? since length = some e) (hs : since.leap = true)
    (hle : since ≤ e) : 0 ≤ length.nanos := by
  refine Int.not_lt.1 fun hback => ?_
  obtain ⟨hnanos, hleap⟩ := Instant.add?_eq_some_iff.1 he
  rw [Instant.le_iff, Instant.fraction_of_leap hs, Instant.seconds, Instant.seconds] at hle
  by_cases hinto : since.nanos % 1000000000 + length.nanos < 0
  · rw [Instant.moved_back hs hinto] at hnanos hleap
    rw [Instant.fraction_of_not_leap hleap] at hle
    omega
  · rw [Instant.moved_within hs (by omega) (by omega)] at hnanos hleap
    rw [Instant.fraction_of_leap hleap] at hle
    omega

theorem nanos_of_expiresAt? (he : expiresAt? since length = some e)
    (hl : since.leap = true → 0 ≤ length.nanos) : e.nanos = since.nanos + length.nanos := by
  unfold expiresAt? at he
  cases hs : since.leap with
  | false => exact ((Instant.add?_eq_some_iff_of_not_leap hs).1 he).1
  | true =>
    rw [Instant.add?_eq_some_iff, Instant.moved_of_nonneg (hl hs)] at he
    exact he.1

/-- A hold ends in a leap second only if it began in the same one. -/
theorem seconds_of_expiresAt? (he : expiresAt? since length = some e)
    (hl : since.leap = true → 0 ≤ length.nanos) (hleap : e.leap = true) :
    since.leap = true ∧ e.seconds = since.seconds := by
  have hend := nanos_of_expiresAt? he hl
  unfold expiresAt? at he
  cases hs : since.leap with
  | false =>
    rw [((Instant.add?_eq_some_iff_of_not_leap hs).1 he).2] at hleap
    cases hleap
  | true =>
    have hl := hl hs
    rw [Instant.add?_eq_some_iff, Instant.moved_of_nonneg hl, hleap, hs] at he
    have hinto : since.nanos % 1000000000 + length.nanos < 1000000000 := by simpa using he.2.symm
    refine ⟨rfl, ?_⟩
    rw [Instant.seconds, Instant.seconds]
    omega

theorem since_le_of_same_second (hs : since.leap = true) (hleap : e.leap = true)
    (hseconds : now.seconds = since.seconds) (hend : e.seconds = since.seconds) (hle : now ≤ e) :
    now.since since ≤ e.nanos - since.nanos := by
  have hday : now.ofDay = since.ofDay := congrArg (· % 86400) hseconds
  rw [Instant.le_iff, Instant.fraction_of_leap hleap] at hle
  cases hnow : now.leap with
  | true =>
    rw [Instant.fraction_of_leap hnow] at hle
    have hsince : now.since since = now.nanos - since.nanos := by
      simp [Instant.since, hnow, hs, hday]
    unfold Instant.seconds at hle hseconds hend
    omega
  | false =>
    have hsince : now.since since = now.nanos - since.nanos - 1000000000 := by
      simp [Instant.since, hnow, hs, hday]
    unfold Instant.seconds at hseconds hend
    omega

/-- The condition on leap seconds leaves out no reading up to the end but those that find the hold
expired. -/
theorem within_iff (he : expiresAt? since length = some e)
    (hforward : since.leap = true → since ≤ e) :
    Within since e now ↔ now ≤ e ∧ ¬isExpired since now length := by
  have hl : since.leap = true → 0 ≤ length.nanos := fun hs =>
    length_nonneg_of_le he hs (hforward hs)
  have hend := nanos_of_expiresAt? he hl
  rw [isExpired_iff, Int.not_lt]
  by_cases hcount : now.nanos - since.nanos < now.since since
  · have hsince := Instant.since_of_counted hcount
    constructor
    · rintro ⟨hle, -, hcounts⟩
      have := hcounts hcount
      exact ⟨hle, by omega⟩
    · rintro ⟨hle, hlive⟩
      exact ⟨hle, hforward, fun _ => by omega⟩
  · refine ⟨fun h => ⟨h.1, ?_⟩, fun h => ⟨h.1, hforward, fun h => absurd h hcount⟩⟩
    obtain ⟨hle, -, -⟩ := h
    cases hleap : e.leap with
    | false =>
      have := Instant.nanos_le_of_le hleap hle
      omega
    | true =>
      obtain ⟨hs, hseconds⟩ := seconds_of_expiresAt? he hl hleap
      have hsec := Instant.seconds_le_of_le hle
      rw [hseconds] at hsec
      rcases Int.lt_or_eq_of_le hsec with hlt | heq
      · have := hl hs
        unfold Instant.seconds at hlt
        omega
      · -- the reading may lie behind the end by its nanoseconds, but then the leap second of the
        -- lock is taken off
        have := since_le_of_same_second hs hleap heq hseconds hle
        omega

end Hold

end BoxOffice
