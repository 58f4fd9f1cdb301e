set_option autoImplicit false

/-!
# Instants and spans

An instant is a count of nanoseconds that the calendar can show, and may lie in the leap second that
follows the second of the count; a span is a signed length of time. Both carry their range, so
arithmetic that would leave it is an `Option` and nothing wraps. The difference of two instants is a
plain integer, not a span.

Which seconds have a leap second after them is not known here: only one that an instant itself lies
in counts. It does so in a difference unless the other instant is later in its day, and in a sum as
far as the sum has to pass it.
-/

namespace BoxOffice

/-- The first nanosecond of the year -262143, counted from the start of 1970. -/
def firstNanos : Int := -8334601228800000000000

def lastNanos : Int := 8210266876799999999999

/-- A point in time: nanoseconds since the start of 1970 without any leap seconds, and whether it
lies as far into the leap second that follows. -/
@[ext]
structure Instant where
  nanos : Int
  leap : Bool
  first_le : firstNanos ≤ nanos
  le_last : nanos ≤ lastNanos
deriving DecidableEq

/-- The longest span, in nanoseconds; its negative is the shortest. -/
def longestNanos : Int := 9223372036854775807000000

@[ext]
structure Span where
  nanos : Int
  neg_longest_le : -longestNanos ≤ nanos
  le_longest : nanos ≤ longestNanos
deriving DecidableEq

namespace Span

def ofNanos? (n : Int) : Option Span :=
  if h : -longestNanos ≤ n ∧ n ≤ longestNanos then some ⟨n, h.1, h.2⟩ else none

def ofMillis? (n : Int) : Option Span := ofNanos? (n * 1000000)

def ofSeconds? (n : Int) : Option Span := ofNanos? (n * 1000000000)

def ofMinutes? (n : Int) : Option Span := ofSeconds? (n * 60)

theorem ofNanos?_eq_some_iff {n : Int} {d : Span} : ofNanos? n = some d ↔ d.nanos = n := by
  unfold ofNanos?
  constructor
  · intro h
    split at h
    · cases h; rfl
    · cases h
  · rintro rfl
    simp [d.neg_longest_le, d.le_longest]

end Span

namespace Instant

def make? (n : Int) (leap : Bool) : Option Instant :=
  if h : firstNanos ≤ n ∧ n ≤ lastNanos then some ⟨n, leap, h.1, h.2⟩ else none

def ofNanos? (n : Int) : Option Instant := make? n false

/-- The whole second that the instant lies in or right behind, counted from the start of 1970. -/
def seconds (t : Instant) : Int := t.nanos / 1000000000

/-- The nanoseconds past that second; a leap second has those from a whole second on. -/
def fraction (t : Instant) : Int := t.nanos % 1000000000 + if t.leap then 1000000000 else 0

def ofDay (t : Instant) : Int := t.seconds % 86400

/-- Nanoseconds from `start` to `t`, negative when `t` is the earlier one. -/
def since (t start : Instant) : Int :=
  t.nanos - start.nanos
    + (if t.leap ∧ start.ofDay ≤ t.ofDay then 1000000000 else 0)
    - (if start.leap ∧ t.ofDay ≤ start.ofDay then 1000000000 else 0)

/-- The count that is `d` after that of `t`, and whether it is still in the same leap second. -/
def moved (t : Instant) (d : Span) : Int × Bool :=
  let into := t.nanos % 1000000000 + d.nanos
  if t.leap ∧ into < 0 then (t.nanos + 1000000000 + d.nanos, false)
  else (t.nanos + d.nanos, t.leap && into < 1000000000)

/-- The instant `d` after `t`, if the calendar reaches that far. -/
def add? (t : Instant) (d : Span) : Option Instant := make? (t.moved d).1 (t.moved d).2

theorem make?_eq_some_iff {n : Int} {leap : Bool} {t : Instant} :
    make? n leap = some t ↔ t.nanos = n ∧ t.leap = leap := by
  unfold make?
  constructor
  · intro h
    split at h
    · cases h; exact ⟨rfl, rfl⟩
    · cases h
  · rintro ⟨rfl, rfl⟩
    simp [t.first_le, t.le_last]

def epoch : Instant := ⟨0, false, by decide, by decide⟩

instance : Inhabited Instant := ⟨epoch⟩

end Instant

end BoxOffice
