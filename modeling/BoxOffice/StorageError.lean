import BoxOffice.BookingError

set_option autoImplicit false

namespace BoxOffice

inductive StorageError where
  | rowNotFound
  | poolTimedOut
  | poolClosed
  | workerCrashed
  | io (message : String)
  | protocol (message : String)
  | columnNotFound (name : String)
  | columnNull (name : String)
  | database (message : String) (code : Option String) (unique : Bool)
      (constraint : Option String)
  | other (text : String)
deriving DecidableEq

namespace StorageError

def message : StorageError → String
  | rowNotFound => "no rows returned by a query that expected to return at least one row"
  | poolTimedOut => "pool timed out while waiting for an open connection"
  | poolClosed => "attempted to acquire a connection on a closed pool"
  | workerCrashed => "attempted to communicate with a crashed background worker"
  | io message => "error communicating with database: " ++ message
  | protocol message => "encountered unexpected or invalid data: " ++ message
  | columnNotFound name => "no column found for name: " ++ name
  | columnNull name =>
    "error occurred while decoding column " ++ Text.quoted name
      ++ ": unexpected null; try decoding as an `Option`"
  | database message _ _ _ => "error returned from database: " ++ message
  | other text => text

/-- Lock not available, serialization failure, deadlock, query cancelled. -/
def passingCodes : List String := ["55P03", "40001", "40P01", "57014"]

def isPassing : StorageError → Bool
  | poolTimedOut | poolClosed | io _ => true
  | database _ code unique _ => !unique && code.any passingCodes.contains
  | _ => false

end StorageError

def BookingError.ofStorage (e : StorageError) : BookingError :=
  match e with
  | .rowNotFound => .notFound "record"
  | .database _ _ true _ => .inconsistent (.reported e.message)
  | _ => if e.isPassing then .unavailable e.message else .internal e.message

end BoxOffice
