import BoxOffice.BookingError

set_option autoImplicit false

namespace BoxOffice

def SeatState.columns : SeatState → String × Option Instant × Option Int
  | locked since holder => (SeatStatus.locked.name, some since, some holder)
  | state => (state.status.name, none, none)

structure SeatRow where
  id : Int
  showId : Int
  name : String
  status : String
  lockedAt : Option Instant
  userId : Option Int
deriving DecidableEq

namespace SeatRow

def ofSeat (seat : Seat) : SeatRow :=
  let (status, lockedAt, userId) := seat.state.columns
  ⟨seat.id, seat.showId, seat.name, status, lockedAt, userId⟩

def state (row : SeatRow) : Except BookingError SeatState :=
  match SeatStatus.ofName? row.status with
  | none => .error (.inconsistent (.unknownStatus row.status))
  | some status =>
    match status, row.lockedAt, row.userId with
    | .locked, some since, some holder => .ok (.locked since holder)
    | .available, none, none => .ok .available
    | .sold, none, none => .ok .sold
    | _, _, _ => .error (.inconsistent (.lockColumns row.id status))

def seat (row : SeatRow) : Except BookingError Seat :=
  row.state.map fun state => ⟨row.id, row.showId, row.name, state⟩

end SeatRow

end BoxOffice
