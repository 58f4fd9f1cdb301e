import BoxOffice.Booking
import BoxOffice.BookingError

set_option autoImplicit false

namespace BoxOffice.Engine

abbrev TxId := Nat

inductive Request where
  | now
  | find (user : Int) (key : String)
  | begin
  /-- Takes the row lock of a seat, waiting for it, and reads the seat. -/
  | fetch (tx : TxId) (seatId : Int)
  | update (tx : TxId) (seatId : Int) (state : SeatState)
  | insert (tx : TxId) (sale : Sale)
  | commit (tx : TxId)
  | rollback (tx : TxId)
  /-- Lets go of a transaction without a word. -/
  | discard (tx : TxId)

abbrev Request.Reply : Request → Type
  | now => Instant
  | find _ _ => Except BookingError (Option Booking)
  | begin => Except BookingError TxId
  | fetch _ _ => Except BookingError Seat
  | insert _ _ => Except BookingError Booking
  | update _ _ _ | commit _ | rollback _ => Except BookingError Unit
  | discard _ => Unit

end BoxOffice.Engine
