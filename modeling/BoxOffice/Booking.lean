import BoxOffice.Time.Instant

set_option autoImplicit false

namespace BoxOffice

structure Booking where
  id : Int
  userId : Int
  showId : Int
  seatId : Int
  key : Option String
deriving DecidableEq

/-- A sale that has no number yet. -/
structure Sale where
  userId : Int
  showId : Int
  seatId : Int
  key : Option String
deriving DecidableEq

def Sale.booking (sale : Sale) (id : Int) : Booking :=
  ⟨id, sale.userId, sale.showId, sale.seatId, sale.key⟩

structure RecordedBooking extends Booking where
  createdAt : Instant
deriving DecidableEq

def Booking.HasKey (b : Booking) (user : Int) (key : String) : Prop :=
  b.userId = user ∧ b.key = some key

instance (b : Booking) (user : Int) (key : String) : Decidable (b.HasKey user key) :=
  inferInstanceAs (Decidable (_ ∧ _))

end BoxOffice
