import BoxOffice.Database.Column
import BoxOffice.Engine.Request
import BoxOffice.Seat.Row

set_option autoImplicit false

/-!
# Seats and bookings in a database

The database is a store as the engines need it. It waits for rows by itself, so every request has a
reply at once. A transaction that was let go of, or whose end failed, is rolled back once more; when
the line went dead in it, nothing more is said.
-/

namespace BoxOffice

open Engine (TxId Request)

structure Database where
  line : Database.Line
  nextTx : TxId
  /-- Transactions in which the line went dead. -/
  lost : List TxId
  lockTimeoutMillis : Int

namespace Database

def ofLine (lockTimeoutMillis : Int) (line : Line) : Database := ⟨line, 0, [], lockTimeoutMillis⟩

def plain (text : String) : Statement := ⟨text, []⟩

def optionalValue {α : Type} (write : α → Value) : Option α → Value
  | none => .null
  | some value => write value

def seatsOfShow (showId : Int) : Statement :=
  ⟨"SELECT id, show_id, seat_name, status, locked_at, user_id FROM show_seats "
    ++ "WHERE show_id = $1 ORDER BY seat_name", [.int showId]⟩

def lockedSeat (seatId : Int) : Statement :=
  ⟨"SELECT id, show_id, seat_name, status, locked_at, user_id FROM show_seats "
    ++ "WHERE id = $1 FOR UPDATE", [.int seatId]⟩

def seatUpdate (seatId : Int) (state : SeatState) : Statement :=
  let (status, lockedAt, userId) := state.columns
  ⟨"UPDATE show_seats SET status = $1, locked_at = $2, user_id = $3, updated_at = NOW() "
    ++ "WHERE id = $4",
    [.text status, optionalValue .time lockedAt, optionalValue .int userId, .int seatId]⟩

def bookingOfKey (user : Int) (key : String) : Statement :=
  ⟨"SELECT id, user_id, show_id, seat_id, idempotency_key, created_at FROM bookings "
    ++ "WHERE user_id = $1 AND idempotency_key = $2", [.int user, .text key]⟩

def bookingInsert (sale : Sale) : Statement :=
  ⟨"INSERT INTO bookings (user_id, show_id, seat_id, idempotency_key) VALUES ($1, $2, $3, $4) "
    ++ "RETURNING id, user_id, show_id, seat_id, idempotency_key, created_at",
    [.int sale.userId, .int sale.showId, .int sale.seatId, optionalValue .text sale.key]⟩

def lockTimeout (millis : Int) : Statement :=
  plain ("SET LOCAL lock_timeout = '" ++ toString millis ++ "ms'")

/-- The unique index on users and their keys. -/
def keyIndex : String := "bookings_user_idempotency_key"

def seatRow (row : Row) : Except StorageError SeatRow := do
  let id ← Column.int "id" row
  let showId ← Column.int "show_id" row
  let name ← Column.text "seat_name" row
  let status ← Column.text "status" row
  let lockedAt ← Column.optional Column.time "locked_at" row
  let userId ← Column.optional Column.int "user_id" row
  .ok { id, showId, name, status, lockedAt, userId }

def booking (row : Row) : Except StorageError Booking := do
  let id ← Column.int "id" row
  let userId ← Column.int "user_id" row
  let showId ← Column.int "show_id" row
  let seatId ← Column.int "seat_id" row
  let key ← Column.optional Column.text "idempotency_key" row
  let _ ← Column.time "created_at" row
  .ok { id, userId, showId, seatId, key }

def seen {α : Type} : Except StorageError α → Except BookingError α
  | .ok value => .ok value
  | .error e => .error (.ofStorage e)

def say (d : Database) (s : Statement) : Database × Except StorageError Answer :=
  let (line, answer) := d.line.say s
  ({ d with line }, answer)

def sayIn (d : Database) (tx : TxId) (s : Statement) : Database × Except StorageError Answer :=
  if tx ∈ d.lost then (d, .error lineLost)
  else
    let (d, answer) := d.say s
    match answer with
    | .ok answer => (d, .ok answer)
    | .error e => (if e = lineLost then { d with lost := tx :: d.lost } else d, .error e)

def discard (d : Database) (tx : TxId) : Database := (d.sayIn tx (plain "ROLLBACK")).1

/-- Ends a transaction with a statement; when that fails it is let go of. -/
def finish (d : Database) (tx : TxId) (text : String) : Database × Except BookingError Unit :=
  let (d, answer) := d.sayIn tx (plain text)
  match answer with
  | .ok _ => (d, .ok ())
  | .error e => (d.discard tx, .error (.ofStorage e))

def begin (d : Database) : Database × Except BookingError TxId :=
  let tx := d.nextTx
  let (d, opened) := { d with nextTx := tx + 1 }.sayIn tx (plain "BEGIN")
  match opened with
  | .error e => (d, .error (.ofStorage e))
  | .ok _ =>
    let (d, bounded) := d.sayIn tx (lockTimeout d.lockTimeoutMillis)
    match bounded with
    | .error e => (d.discard tx, .error (.ofStorage e))
    | .ok _ => (d, .ok tx)

def find (d : Database) (user : Int) (key : String) :
    Database × Except BookingError (Option Booking) :=
  let (d, answer) := d.say (bookingOfKey user key)
  (d, seen (answer.bind (readFirst booking)))

def fetch (d : Database) (tx : TxId) (seatId : Int) : Database × Except BookingError Seat :=
  let (d, answer) := d.sayIn tx (lockedSeat seatId)
  (d, do
    match ← seen (answer.bind (readFirst seatRow)) with
    | some row => row.seat
    | none => .error (.notFound "seat"))

def update (d : Database) (tx : TxId) (seatId : Int) (state : SeatState) :
    Database × Except BookingError Unit :=
  let (d, answer) := d.sayIn tx (seatUpdate seatId state)
  (d, do
    let answer ← seen answer
    if answer.affected = 0 then .error (.inconsistent (.noRow seatId)) else .ok ())

/-- Only the index on keys tells that a key is taken; any other violation is a failure. -/
def insertError : StorageError → BookingError
  | .database message code unique constraint =>
    if constraint = some keyIndex then .keyTaken
    else .ofStorage (.database message code unique constraint)
  | e => .ofStorage e

def insert (d : Database) (tx : TxId) (sale : Sale) : Database × Except BookingError Booking :=
  let (d, answer) := d.sayIn tx (bookingInsert sale)
  (d, match answer.bind (readFirst booking) with
    | .ok (some booking) => .ok booking
    | .ok none => .error (.ofStorage .rowNotFound)
    | .error e => .error (insertError e))

def listing (d : Database) (showId : Int) : Database × Except BookingError (List Seat) :=
  let (d, answer) := d.say (seatsOfShow showId)
  (d, do
    let rows ← seen (answer.bind (readAll seatRow))
    rows.mapM SeatRow.seat)

def perform (d : Database) (now : Instant) : (request : Request) → Database × request.Reply
  | .now => (d, now)
  | .find user key => d.find user key
  | .begin => d.begin
  | .fetch tx seatId => d.fetch tx seatId
  | .update tx seatId state => d.update tx seatId state
  | .insert tx sale => d.insert tx sale
  | .commit tx => d.finish tx "COMMIT"
  | .rollback tx => d.finish tx "ROLLBACK"
  | .discard tx => (d.discard tx, ())

end Database

end BoxOffice
