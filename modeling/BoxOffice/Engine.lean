import BoxOffice.Engine.Request
import BoxOffice.Hold

set_option autoImplicit false

/-!
# The engines that hold and sell seats

An order is a wish to hold a seat or to buy one. Serving it is a walk through stages: each stage
makes one request, and the reply leads to the next stage. Nothing else happens between two
requests, so the orders that are served at the same time interleave exactly at their requests.

The stages say what the rules of a sale are: one transaction, one row, the clock read after the row
is granted, the decision taken before anything is written, and the same error answered that was met
first. `rank` falls with every reply, so every order is served in a bounded number of requests.
-/

namespace BoxOffice.Engine

inductive Order where
  | hold (seatId userId : Int)
  | buy (showId seatId userId : Int) (givenKey : Option String)
deriving DecidableEq

namespace Order

def seatId : Order → Int
  | hold seatId _ => seatId
  | buy _ seatId _ _ => seatId

def userId : Order → Int
  | hold _ userId => userId
  | buy _ _ userId _ => userId

/-- The key that makes the order repeatable; an empty key is none. -/
def key : Order → Option String
  | hold _ _ => none
  | buy _ _ _ givenKey => givenKey.filter fun k => k ≠ ""

/-- Whether the seat, as it was read under its row lock, is this order's to take. -/
def admits (length : Span) (seat : Seat) (now : Instant) : Order → Except BookingError Unit
  | hold _ _ =>
    match seat.state with
    | .available => .ok ()
    | .locked since _ =>
      if Hold.isExpired since now length then .ok () else .error .alreadyLocked
    | .sold => .error .alreadySold
  | buy showId _ userId _ =>
    match seat.state with
    | .locked since holder =>
      if Hold.isExpired since now length then .error .lockExpired
      else if holder ≠ userId then .error .lockedByOther
      else if seat.showId ≠ showId then .error .wrongShow
      else .ok ()
    | .available | .sold => .error .notLocked

def newState (now : Instant) : Order → SeatState
  | hold _ userId => .locked now userId
  | buy _ _ _ _ => .sold

end Order

inductive Receipt where
  | held (expiresAt : Instant)
  | booked (id : Int) (replayed : Bool)
deriving DecidableEq

namespace Receipt

def message : Receipt → String
  | held _ => "Locked"
  | booked _ false => "Ticket sent to your email."
  | booked _ true => "Booking already exists"

end Receipt

inductive Outcome where
  | done (receipt : Receipt)
  | refused (error : BookingError)
  /-- The hold is in force, but no calendar shows the instant at which it ends. -/
  | beyondCalendar
deriving DecidableEq

/-- What a transaction has achieved if its commit succeeds. -/
inductive Gain where
  | hold (since : Instant)
  | sale (booking : Booking)
deriving DecidableEq

def Gain.outcome (length : Span) : Gain → Outcome
  | hold since =>
    match Hold.expiresAt? since length with
    | some e => .done (.held e)
    | none => .beyondCalendar
  | sale booking => .done (.booked booking.id false)

inductive Stage where
  | lookUp (key : String)
  | opening
  | fetching (tx : TxId)
  /-- Rolls back after the seat could not be read. -/
  | withdrawing (tx : TxId) (error : BookingError)
  | deciding (tx : TxId) (seat : Seat)
  | writing (tx : TxId) (seatId : Int) (now : Instant)
  | recording (tx : TxId) (sale : Sale)
  | committing (tx : TxId) (gain : Gain)
  /-- Rolls back after a refusal. -/
  | undoing (tx : TxId) (error : BookingError)
  /-- Lets go of the transaction because the wait for the row took too long. -/
  | givingUp (tx : TxId)
  /-- Looks again for a booking with the key, since another order may have made it meanwhile. -/
  | lookAgain (key : String) (error : BookingError)
  | finished (outcome : Outcome)
deriving DecidableEq

namespace Order

def first (order : Order) : Stage :=
  match order.key with
  | some key => .lookUp key
  | none => .opening

/-- A refusal that another order with the same key can have caused is not yet the answer. -/
def refuse (order : Order) (error : BookingError) : Stage :=
  match order.key with
  | some key =>
    if error = .keyTaken ∨ error = .notLocked then .lookAgain key error
    else .finished (.refused error)
  | none => .finished (.refused error)

def afterWrite (order : Order) (tx : TxId) (seatId : Int) (now : Instant) : Stage :=
  match order with
  | hold _ _ => .committing tx (.hold now)
  | buy showId _ userId _ => .recording tx ⟨userId, showId, seatId, order.key⟩

end Order

/-- The error when a booking with the key was expected and none is there. -/
def unexplained (error : BookingError) : BookingError :=
  if error = .keyTaken then .inconsistent .keyWithoutBooking else error

/-- A stage makes one request, unless the order is served. -/
inductive Move where
  | ask (request : Request) (next : request.Reply → Stage)
  | answer (outcome : Outcome)

def Order.move (length : Span) (order : Order) : Stage → Move
  | .lookUp key => .ask (.find order.userId key) fun
    | .ok (some booking) => .finished (.done (.booked booking.id true))
    | .ok none => .opening
    | .error e => .finished (.refused e)
  | .opening => .ask .begin fun
    | .ok tx => .fetching tx
    | .error e => order.refuse e
  | .fetching tx => .ask (.fetch tx order.seatId) fun
    | .ok seat => .deciding tx seat
    | .error e => .withdrawing tx e
  | .withdrawing tx e => .ask (.rollback tx) fun _ => order.refuse e
  | .deciding tx seat => .ask .now fun now =>
    match order.admits length seat now with
    | .ok () => .writing tx seat.id now
    | .error e => .undoing tx e
  | .writing tx seatId now => .ask (.update tx seatId (order.newState now)) fun
    | .ok () => order.afterWrite tx seatId now
    | .error e => .undoing tx e
  | .recording tx sale => .ask (.insert tx sale) fun
    | .ok booking => .committing tx (.sale booking)
    | .error e => .undoing tx e
  | .committing tx gain => .ask (.commit tx) fun
    | .ok () => .finished (gain.outcome length)
    | .error e => order.refuse e
  | .undoing tx e => .ask (.rollback tx) fun _ => order.refuse e
  | .givingUp tx => .ask (.discard tx) fun _ => .finished (.refused .lockTimeout)
  | .lookAgain key e => .ask (.find order.userId key) fun
    | .ok (some booking) => .finished (.done (.booked booking.id true))
    | .ok none => .finished (.refused (unexplained e))
    | .error e => .finished (.refused e)
  | .finished outcome => .answer outcome

namespace Stage

/-- The wait for the row is bounded in these stages, and in no other. -/
def isWaiting : Stage → Bool
  | opening | fetching _ | withdrawing _ _ => true
  | _ => false

def expire : Stage → Stage
  | opening => finished (.refused .lockTimeout)
  | fetching tx | withdrawing tx _ => givingUp tx
  | stage => stage

def tx? : Stage → Option TxId
  | fetching tx | withdrawing tx _ | deciding tx _ | writing tx _ _ | recording tx _
  | committing tx _ | undoing tx _ | givingUp tx => some tx
  | lookUp _ | opening | lookAgain _ _ | finished _ => none

/-- A bound on the requests that are still to come. -/
def rank : Stage → Nat
  | lookUp _ => 9
  | opening => 8
  | fetching _ => 7
  | deciding _ _ => 6
  | writing _ _ _ => 5
  | recording _ _ => 4
  | committing _ _ => 3
  | withdrawing _ _ | undoing _ _ => 2
  | givingUp _ | lookAgain _ _ => 1
  | finished _ => 0

end Stage

theorem rank_refuse_le (order : Order) (error : BookingError) :
    (order.refuse error).rank ≤ 1 := by
  unfold Order.refuse
  split
  · split <;> simp [Stage.rank]
  · simp [Stage.rank]

theorem rank_afterWrite_le (order : Order) (tx : TxId) (seatId : Int) (now : Instant) :
    (order.afterWrite tx seatId now).rank ≤ 4 := by
  cases order <;> simp [Order.afterWrite, Stage.rank]

theorem rank_next_lt {length : Span} {order : Order} {stage : Stage} {request : Request}
    {next : request.Reply → Stage} (h : order.move length stage = .ask request next)
    (reply : request.Reply) : (next reply).rank < stage.rank := by
  have := rank_refuse_le order
  have := rank_afterWrite_le order
  cases stage <;> simp only [Order.move] at h <;> cases h
  all_goals grind [Stage.rank]

theorem rank_expire_lt {stage : Stage} (h : stage.isWaiting = true) :
    stage.expire.rank < stage.rank := by
  cases stage <;> simp_all [Stage.isWaiting, Stage.expire, Stage.rank]

/-- Serves an order from a stage on, in any surroundings that answer every request. -/
def Order.serve {m : Type → Type} [Monad m] (length : Span)
    (perform : (request : Request) → m request.Reply) (order : Order) (stage : Stage) :
    m Outcome :=
  match _h : order.move length stage with
  | .answer outcome => pure outcome
  | .ask request next => do
    let reply ← perform request
    order.serve length perform (next reply)
termination_by stage.rank
decreasing_by exact rank_next_lt _h reply

end BoxOffice.Engine
