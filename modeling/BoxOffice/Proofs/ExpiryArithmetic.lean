import BoxOffice.Proofs.LeapSeconds

set_option autoImplicit false

/-!
# The arithmetic of expiry

Clocks count an instant in days, seconds of the day and nanoseconds, of which a leap second has as
many again, and a span in seconds and nanoseconds. Differences borrow, sums carry, and spans are
compared by their seconds first. The difference of two instants is a span whatever they are, and a
sum is missing only where the calendar has no such day. Outside leap seconds all of this comes to
the same as counting nanoseconds.
-/

namespace BoxOffice

/-- Whole seconds, rounded downwards, and the nanoseconds that are left. -/
structure Span.Parts where
  seconds : Int
  nanos : Int
deriving DecidableEq

namespace Span

def parts (d : Span) : Parts := ⟨d.nanos / 1000000000, d.nanos % 1000000000⟩

namespace Parts

variable {p q : Parts}

def Normal (p : Parts) : Prop := 0 ≤ p.nanos ∧ p.nanos < 1000000000

def whole (p : Parts) : Int := if p.seconds < 0 ∧ 0 < p.nanos then p.seconds + 1 else p.seconds

/-- The nanoseconds that are left then, negative in a negative span. -/
def rest (p : Parts) : Int :=
  if p.seconds < 0 ∧ 0 < p.nanos then p.nanos - 1000000000 else p.nanos

/-- Takes a second from the nanoseconds, or gives one to them, once. -/
def carry (p : Parts) : Parts :=
  if p.nanos < 0 then ⟨p.seconds - 1, p.nanos + 1000000000⟩
  else if 1000000000 ≤ p.nanos then ⟨p.seconds + 1, p.nanos - 1000000000⟩
  else p

def add (p q : Parts) : Parts := carry ⟨p.seconds + q.seconds, p.nanos + q.nanos⟩

theorem normal_carry (hlow : -1000000000 ≤ p.nanos) (hhigh : p.nanos < 2000000000) :
    p.carry.Normal := by
  unfold carry Normal
  split
  · simp only; omega
  · split
    · simp only; omega
    · omega

theorem Normal.add (hp : p.Normal) (hq : q.Normal) : (p.add q).Normal := by
  unfold Normal at hp hq
  refine normal_carry ?_ ?_
  · simp only; omega
  · simp only; omega

end Parts

end Span

/-- What a clock shows: a day, counted from the start of 1970, and the time of that day. A leap
second is what comes after the nanoseconds of the second before it. -/
structure Instant.Reading where
  day : Int
  second : Int
  nano : Int
deriving DecidableEq

namespace Instant

def firstDay : Int := -96465292

def lastDay : Int := 95026236

namespace Reading

variable {r r' : Reading} {d : Span.Parts}

def ofCount (n : Int) (leap : Bool) : Reading :=
  ⟨n / 1000000000 / 86400, n / 1000000000 % 86400,
    n % 1000000000 + if leap then 1000000000 else 0⟩

structure Normal (r : Reading) : Prop where
  second : 0 ≤ r.second ∧ r.second < 86400
  nano : 0 ≤ r.nano ∧ r.nano < 1000000000

/-- The days between two readings and the times between them, each as a span. A leap second between
the times counts. -/
def since (r start : Reading) : Span.Parts :=
  let second := r.second - start.second
  let nano := r.nano - start.nano
  let counted :=
    if start.second < r.second ∧ 1000000000 ≤ start.nano then second + 1
    else if r.second < start.second ∧ 1000000000 ≤ r.nano then second - 1
    else second
  (Span.Parts.mk ((r.day - start.day) * 86400) 0).add
    ⟨counted + nano / 1000000000, nano % 1000000000⟩

/-- Moves the time, and then the day by as many days as the time has left its own. -/
def moved (r : Reading) (d : Span.Parts) : Reading :=
  let time := Span.Parts.carry ⟨r.second + d.whole, r.nano + d.rest⟩
  ⟨r.day + time.seconds / 86400, time.seconds % 86400, time.nanos⟩

/-- A reading in a leap second leaves it at the end that lies in the way. If it does not get out of
its second, only its nanoseconds change. -/
def after (r : Reading) (d : Span.Parts) : Reading :=
  if r.nano < 1000000000 then r.moved d
  else if 0 < d.whole ∨ 0 < d.rest ∧ 2000000000 ≤ r.nano + d.rest then
    moved { r with nano := r.nano - 1000000000 } d
  else if d.whole < 0 then
    moved { r with second := r.second + 1, nano := r.nano - 1000000000 } d
  else { r with nano := r.nano + d.rest }

def OnCalendar (r : Reading) : Prop := firstDay ≤ r.day ∧ r.day ≤ lastDay

end Reading

open Reading (ofCount)

variable {t : Instant} {d : Span}

def reading (t : Instant) : Reading := ofCount t.nanos t.leap

end Instant

namespace Hold

variable {since now e : Instant} {length : Span}

end Hold

end BoxOffice
