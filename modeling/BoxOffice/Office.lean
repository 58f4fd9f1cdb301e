import BoxOffice.Catalog.Cache
import BoxOffice.Database.Seats
import BoxOffice.Engine
import BoxOffice.Store
import BoxOffice.Token

set_option autoImplicit false

/-!
# A box office at work

An office has a clock, a store for its seats, a database and a cache. It serves an order until the
order is served or has to wait for a row. The time that passes while orders wait is counted apart
from the clock. The row is looked for first and the time looked at afterwards, so a row that has
been handed over in time is never lost.
-/

namespace BoxOffice

open Engine (Order Outcome Request Stage)

inductive Keeping where
  | memory
  | database
deriving DecidableEq

structure Office.Rules where
  holdLength : Span
  /-- How long an order waits for a row, in milliseconds. -/
  lockWait : Nat
  keys : Token.Keys
  /-- How long a request may take, in milliseconds. -/
  requestLimit : Nat

structure Office where
  rules : Office.Rules
  keeping : Keeping
  clock : Instant
  /-- The instant by which tokens are issued and checked. -/
  wallClock : Instant
  /-- Milliseconds that have passed for those who wait. -/
  elapsed : Nat
  store : Store
  database : Database
  cache : Catalog.Cache

namespace Office

/-- Answers an engine's request, or leaves it waiting for a row. -/
def perform (o : Office) (request : Request) : Office × Option request.Reply :=
  match o.keeping with
  | .memory =>
    let (store, reply) := o.store.perform o.clock request
    ({ o with store }, reply)
  | .database =>
    let (database, reply) := o.database.perform o.clock request
    ({ o with database }, some reply)

def seatsOfShow (o : Office) (showId : Int) : Office × Except BookingError (List Seat) :=
  match o.keeping with
  | .memory => (o, .ok (o.store.seatsOfShow showId))
  | .database =>
    let (database, seats) := o.database.listing showId
    ({ o with database }, seats)

def seatMap (o : Office) (showId : Int) : Office × Except BookingError (List SeatView) :=
  let (o, seats) := o.seatsOfShow showId
  (o, seats.map fun seats => seats.map fun seat => Hold.display seat o.clock o.rules.holdLength)

/-- Serves an order from a stage on, until it is served or has to wait. -/
def serve (o : Office) (deadline : Nat) (order : Order) (stage : Stage) :
    Office × Except Stage Outcome :=
  match _h : order.move o.rules.holdLength stage with
  | .answer outcome => (o, .ok outcome)
  | .ask request next =>
    match o.perform request with
    | (o, some reply) => o.serve deadline order (next reply)
    | (o, none) =>
      if _hw : stage.isWaiting ∧ deadline ≤ o.elapsed then o.serve deadline order stage.expire
      else (o, .error stage)
termination_by stage.rank
decreasing_by
  · exact Engine.rank_next_lt _h reply
  · exact Engine.rank_expire_lt _hw.1

end Office

end BoxOffice
