import BoxOffice.Seat
import BoxOffice.Text.Quoted

set_option autoImplicit false

namespace BoxOffice

/-- A state of the storage that the rules of this library never lead to. -/
inductive Inconsistency where
  | unknownStatus (text : String)
  | lockColumns (seatId : Int) (status : SeatStatus)
  | rowNotHeld (seatId : Int)
  | noRow (seatId : Int)
  | keyWithoutBooking
  | reported (text : String)
deriving DecidableEq

def Inconsistency.message : Inconsistency → String
  | unknownStatus text => "unknown seat status " ++ Text.quoted text
  | lockColumns seatId status =>
    "seat " ++ toString seatId ++ " has status " ++ status.name ++ " with inconsistent lock columns"
  | rowNotHeld seatId =>
    "update of seat " ++ toString seatId ++ " without holding its row lock"
  | noRow seatId => "update of seat " ++ toString seatId ++ " affected zero rows"
  | keyWithoutBooking => "idempotency key reported taken but no booking found"
  | reported text => text

inductive BookingError where
  | notFound (what : String)
  | alreadyLocked
  | alreadySold
  | notLocked
  | lockExpired
  | lockedByOther
  | wrongShow
  | lockTimeout
  | unavailable (reason : String)
  | keyTaken
  | inconsistent (cause : Inconsistency)
  | internal (reason : String)
deriving DecidableEq

/-- What kind of answer a cause calls for. -/
inductive ErrorKind where
  | notFound
  | conflict
  | transient
  | inconsistent
  | internal
deriving DecidableEq

namespace BookingError

def message : BookingError → String
  | notFound what => what ++ " not found"
  | alreadyLocked => "seat is already locked"
  | alreadySold => "seat is already sold"
  | notLocked => "seat is not locked"
  | lockExpired => "seat lock has expired"
  | lockedByOther => "seat is locked by another user"
  | wrongShow => "seat does not belong to this show"
  | lockTimeout => "timed out waiting for seat lock"
  | unavailable reason => "storage temporarily unavailable: " ++ reason
  | keyTaken => "idempotency key already used by this user"
  | inconsistent cause => "invariant violated: " ++ cause.message
  | internal reason => "internal storage error: " ++ reason

def kind : BookingError → ErrorKind
  | notFound _ => .notFound
  | alreadyLocked | alreadySold | notLocked | lockExpired | lockedByOther | wrongShow
  | keyTaken => .conflict
  | lockTimeout | unavailable _ => .transient
  | inconsistent _ => .inconsistent
  | internal _ => .internal

def isRetriable (e : BookingError) : Bool := e.kind = .transient

end BookingError

end BoxOffice
