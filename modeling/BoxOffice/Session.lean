import BoxOffice.Office.Task

set_option autoImplicit false

namespace BoxOffice

open Engine (TxId Request)

structure Session where
  office : Office
  transactions : List (String × TxId)
  tasks : List (String × Task)

namespace Session

def ofOffice (office : Office) : Session := ⟨office, [], []⟩

def named? {α : Type} (names : List (String × α)) (name : String) : Option α :=
  (names.find? fun entry => entry.1 == name).map (·.2)

def unnamed {α : Type} (names : List (String × α)) (name : String) : List (String × α) :=
  names.filter fun entry => entry.1 != name

/-- Makes a request that is answered at once; what would wait is given up. -/
def ask (s : Session) (request : Request) : Session × Option request.Reply :=
  let (office, reply) := s.office.perform request
  ({ s with office }, reply)

def find (s : Session) (user : Int) (key : String) :
    Session × Except BookingError (Option Booking) :=
  let (s, reply) := s.ask (.find user key)
  (s, reply.getD (.ok none))

def seatMap (s : Session) (showId : Int) : Session × Except BookingError (List SeatView) :=
  let (office, views) := s.office.seatMap showId
  ({ s with office }, views)

def seatsOfShow (s : Session) (showId : Int) : Session × Except BookingError (List Seat) :=
  let (office, seats) := s.office.seatsOfShow showId
  ({ s with office }, seats)

def setStore (s : Session) (store : Store) : Session :=
  { s with office := { s.office with store } }

def putSeat (s : Session) (seat : Seat) : Session :=
  s.setStore { s.office.store with seats := s.office.store.seats.put seat }

def setFaults (s : Session) (faults : Faults) : Session :=
  s.setStore { s.office.store with faults }

def setClock (s : Session) (clock : Instant) : Session :=
  { s with office := { s.office with clock } }

/-- Moves the clock, if the calendar reaches that far. -/
def advance (s : Session) (span : Span) : Option Session :=
  (s.office.clock.add? span).map s.setClock

def pass (s : Session) (millis : Nat) : Session :=
  { s with office := { s.office with elapsed := s.office.elapsed + millis } }

def discard (s : Session) (tx : TxId) : Session := (s.ask (.discard tx)).1

def forget (s : Session) (name : String) : Session :=
  { s with transactions := unnamed s.transactions name }

def enter (s : Session) (name : String) (tx : TxId) : Session :=
  let s := match named? s.transactions name with
    | some old => (s.discard old).forget name
    | none => s
  { s with transactions := (name, tx) :: s.transactions }

def begin (s : Session) (name : String) : Session × Except BookingError Unit :=
  match s.ask .begin with
  | (s, some (.ok tx)) => (s.enter name tx, .ok ())
  | (s, some (.error e)) => (s, .error e)
  | (s, none) => (s, .error .lockTimeout)

/-- Asks for a row once. Without an answer the row is taken, and the place in its queue is left. -/
def fetch (s : Session) (tx : TxId) (seatId : Int) : Session × Option (Except BookingError Seat) :=
  match s.ask (.fetch tx seatId) with
  | (s, some answer) => (s, some answer)
  | (s, none) => (s.setStore (s.office.store.unclaim tx seatId), none)

def perform {α : Type} (s : Session) (request : Request)
    (read : request.Reply → Except BookingError α) : Session × Except BookingError α :=
  match s.ask request with
  | (s, some reply) => (s, read reply)
  | (s, none) => (s, .error .lockTimeout)

def update (s : Session) (tx : TxId) (seatId : Int) (state : SeatState) :
    Session × Except BookingError Unit :=
  s.perform (.update tx seatId state) id

def insert (s : Session) (tx : TxId) (sale : Sale) : Session × Except BookingError Booking :=
  s.perform (.insert tx sale) id

def commit (s : Session) (name : String) (tx : TxId) : Session × Except BookingError Unit :=
  (s.forget name).perform (.commit tx) id

def rollback (s : Session) (name : String) (tx : TxId) : Session × Except BookingError Unit :=
  (s.forget name).perform (.rollback tx) id

def drop (s : Session) (name : String) (tx : TxId) : Session := (s.forget name).discard tx

/-- Commits after a success and rolls back after a failure, which is then the answer. -/
def finish (s : Session) (name : String) (tx : TxId) (failure : Option BookingError) :
    Session × Except BookingError Unit :=
  match failure with
  | none => s.commit name tx
  | some e => ((s.rollback name tx).1, .error e)

/-- Opens a transaction and takes a row, waiting for it so many milliseconds. -/
def lockRow (s : Session) (name : String) (seatId : Int) (wait : Nat) :
    Session × Except BookingError Seat :=
  match s.ask .begin with
  | (s, some (.ok tx)) =>
    match s.ask (.fetch tx seatId) with
    | (s, some (.ok seat)) => (s.enter name tx, .ok seat)
    | (s, some (.error e)) => ((s.ask (.rollback tx)).1, .error e)
    | (s, none) => ((s.pass wait).discard tx, .error .lockTimeout)
  | (s, some (.error e)) => (s, .error e)
  | (s, none) => (s.pass wait, .error .lockTimeout)

def call (s : Session) (call : Call) : Session × Answer :=
  let (office, answer) := s.office.call call
  ({ s with office }, answer)

def drive (s : Session) (name : String) (next : Office × Progress) : Session × Option Answer :=
  let (office, progress) := next
  let tasks := unnamed s.tasks name
  match progress with
  | .answered answer => ({ s with office, tasks }, some answer)
  | .waiting task => ({ s with office, tasks := (name, task) :: tasks }, none)

def task? (s : Session) (name : String) : Option Task := named? s.tasks name

def cancel (s : Session) (name : String) (t : Task) : Session :=
  { s with office := s.office.withdraw t, tasks := unnamed s.tasks name }

/-- Begins a call; without an answer it goes on as a task of that name. -/
def start (s : Session) (name : String) (call : Call) : Session × Option Answer :=
  let s := match s.task? name with
    | some old => s.cancel name old
    | none => s
  s.drive name (s.office.start call)

/-- Lets a task go on; after its answer it is gone. -/
def poll (s : Session) (name : String) (t : Task) : Session × Option Answer :=
  s.drive name (s.office.poll t)

def tx? (s : Session) (name : String) : Option TxId := named? s.transactions name

end Session

end BoxOffice
