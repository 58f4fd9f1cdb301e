import BoxOffice.Seat

set_option autoImplicit false

namespace BoxOffice.Hold

def isExpired (since now : Instant) (length : Span) : Bool :=
  length.nanos < now.since since

/-- The last instant at which the hold counts, if the calendar reaches that far. -/
def expiresAt? (since : Instant) (length : Span) : Option Instant := since.add? length

/-- A seat whose hold has run out is shown as free. -/
def display (seat : Seat) (now : Instant) (length : Span) : SeatView :=
  let view := SeatView.mk seat.id seat.showId seat.name
  match seat.state with
  | .available => view .available none none
  | .locked since holder =>
    if isExpired since now length then view .available none none
    else view .locked (some since) (some holder)
  | .sold => view .sold none none

theorem isExpired_iff {since now : Instant} {length : Span} :
    isExpired since now length = true ↔ length.nanos < now.since since := by
  rw [isExpired, decide_eq_true_iff]

end BoxOffice.Hold
