import BoxOffice.Engine.Request
import BoxOffice.Store.SeatTable

set_option autoImplicit false

/-!
# A store in memory

Committed seats and bookings, the transactions that are running, and the claims on rows. All
claims stand in one list in the order of their arrival: the first claim on a row is held, the later
ones wait, and ending a transaction removes its claims wherever they stand. So a row passes to the
transaction that has waited longest the moment its holder ends.

Writes are staged in their transaction and show to nobody else before its commit, which applies
all of them or none.
-/

namespace BoxOffice

open Engine (TxId Request)

structure Tx where
  id : TxId
  seats : SeatTable
  bookings : List Booking

def Tx.blank (id : TxId) : Tx := ⟨id, .empty, []⟩

/-- A transaction's place in the queue for a row. -/
structure Claim where
  seatId : Int
  tx : TxId
deriving DecidableEq

structure Faults where
  inserts : Bool
  commits : Bool
deriving DecidableEq

structure Store where
  seats : SeatTable
  bookings : List Booking
  /-- The number of the latest booking, staged ones included. -/
  lastBooking : Nat
  claims : List Claim
  running : List Tx
  nextTx : TxId
  faults : Faults

namespace Store

def ofSeats (seats : List Seat) : Store :=
  ⟨.ofList seats, [], 0, [], [], 0, ⟨false, false⟩⟩

/-- The seats of a show by name; seats of one name by id. -/
def seatsOfShow (s : Store) (showId : Int) : List Seat :=
  (s.seats.rows.filter fun seat => seat.showId = showId).mergeSort
    fun a b => !decide (b.name < a.name)

def findBooking (s : Store) (user : Int) (key : String) : Option Booking :=
  s.bookings.find? fun b => b.HasKey user key

def keyTaken (bookings : List Booking) (user : Int) (key : Option String) : Bool :=
  match key with
  | none => false
  | some key => bookings.any fun b => b.HasKey user key

def holder (s : Store) (seatId : Int) : Option TxId :=
  (s.claims.find? fun c => c.seatId = seatId).map (·.tx)

def Holds (s : Store) (tx : TxId) (seatId : Int) : Prop := s.holder seatId = some tx

instance (s : Store) (tx : TxId) (seatId : Int) : Decidable (s.Holds tx seatId) :=
  inferInstanceAs (Decidable (_ = _))

/-- Queues up for a row, unless the transaction stands there already. -/
def claim (s : Store) (tx : TxId) (seatId : Int) : Store :=
  if ⟨seatId, tx⟩ ∈ s.claims then s else { s with claims := s.claims ++ [⟨seatId, tx⟩] }

def unclaim (s : Store) (tx : TxId) (seatId : Int) : Store :=
  { s with claims := s.claims.filter fun c => c ≠ ⟨seatId, tx⟩ }

def tx (s : Store) (id : TxId) : Tx :=
  (s.running.find? fun t => t.id = id).getD (.blank id)

def setTx (s : Store) (t : Tx) : Store :=
  { s with running := t :: s.running.filter fun u => u.id ≠ t.id }

/-- The transaction ends: its staged writes and all its claims are gone. -/
def finish (s : Store) (id : TxId) : Store :=
  { s with
    running := s.running.filter fun t => t.id ≠ id
    claims := s.claims.filter fun c => c.tx ≠ id }

def begin (s : Store) : Store × TxId :=
  ({ s with running := .blank s.nextTx :: s.running, nextTx := s.nextTx + 1 }, s.nextTx)

def read? (s : Store) (id : TxId) (seatId : Int) : Option Seat :=
  ((s.tx id).seats.get? seatId).or (s.seats.get? seatId)

def readHeld (s : Store) (id : TxId) (seatId : Int) : Except BookingError Seat :=
  match s.read? id seatId with
  | some seat => .ok seat
  | none => .error (.notFound "seat")

/-- Takes the row lock and reads the seat. Without an answer the transaction waits in the queue.
A seat that does not exist is not waited for. -/
def fetch (s : Store) (id : TxId) (seatId : Int) : Store × Option (Except BookingError Seat) :=
  if s.Holds id seatId then (s, some (s.readHeld id seatId))
  else if (s.seats.get? seatId).isNone then (s, some (.error (.notFound "seat")))
  else
    let s := s.claim id seatId
    if s.Holds id seatId then (s, some (s.readHeld id seatId)) else (s, none)

def update (s : Store) (id : TxId) (seatId : Int) (state : SeatState) :
    Store × Except BookingError Unit :=
  if ¬s.Holds id seatId then (s, .error (.inconsistent (.rowNotHeld seatId)))
  else
    match s.read? id seatId with
    | none => (s, .error (.inconsistent (.noRow seatId)))
    | some seat =>
      let t := s.tx id
      (s.setTx { t with seats := t.seats.put { seat with state } }, .ok ())

/-- Stages a booking under the next number. The number is used up even if it never commits. -/
def insert (s : Store) (id : TxId) (sale : Sale) : Store × Except BookingError Booking :=
  let t := s.tx id
  if s.faults.inserts then (s, .error (.unavailable "booking insert failed"))
  else if keyTaken (t.bookings ++ s.bookings) sale.userId sale.key then (s, .error .keyTaken)
  else
    let number := s.lastBooking + 1
    let booking := sale.booking number
    ({ s with lastBooking := number }.setTx { t with bookings := t.bookings ++ [booking] },
      .ok booking)

/-- Applies the staged writes. Keys are checked once more, since others may have committed. -/
def commit (s : Store) (id : TxId) : Store × Except BookingError Unit :=
  let t := s.tx id
  if s.faults.commits then (s.finish id, .error (.unavailable "commit failed"))
  else if t.bookings.any fun b => keyTaken s.bookings b.userId b.key then
    (s.finish id, .error .keyTaken)
  else
    ({ s.finish id with
        seats := s.seats.putAll t.seats.rows
        bookings := s.bookings ++ t.bookings }, .ok ())

/-- Answers an engine's request, or leaves it waiting for a row. -/
def perform (s : Store) (now : Instant) : (request : Request) → Store × Option request.Reply
  | .now => (s, some now)
  | .find user key => (s, some (.ok (s.findBooking user key)))
  | .begin => let (s, id) := s.begin; (s, some (.ok id))
  | .fetch id seatId => s.fetch id seatId
  | .update id seatId state => let (s, r) := s.update id seatId state; (s, some r)
  | .insert id sale => let (s, r) := s.insert id sale; (s, some r)
  | .commit id => let (s, r) := s.commit id; (s, some r)
  | .rollback id => (s.finish id, some (.ok ()))
  | .discard id => (s.finish id, some ())

end Store

end BoxOffice
