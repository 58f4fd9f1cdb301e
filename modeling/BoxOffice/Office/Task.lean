import BoxOffice.Api.Action
import BoxOffice.Api.Login
import BoxOffice.Office

set_option autoImplicit false

/-!
# Tasks

A task is an order that may have to wait. It goes on only when it is polled. An order that came over
HTTP has a limit on the whole request around the limit on its wait, and there the time is looked at
first: a request that is up is answered at once, whatever has happened to its row.
-/

namespace BoxOffice

open Engine (Order Outcome Stage)
open Http (Response)

structure Task where
  order : Order
  stage : Stage
  /-- When the wait for the row is up. -/
  deadline : Nat
  /-- When the request as a whole is up, if the order came over HTTP. -/
  limit : Option Nat

inductive Call where
  | order (order : Order)
  | http (request : Http.Request)

inductive Answer where
  | outcome (outcome : Outcome)
  | response (response : Response)

inductive Progress where
  | waiting (task : Task)
  | answered (answer : Answer)

/-- A request for the header fields alone gets no body. -/
def Progress.forMethod (method : String) : Progress → Progress
  | answered (.response r) => answered (.response (if method = "HEAD" then r.withoutBody else r))
  | progress => progress

namespace Task

def answer (t : Task) (outcome : Outcome) : Answer :=
  match t.limit with
  | none => .outcome outcome
  | some _ => .response (Api.outcomeResponse outcome)

def latest (t : Task) : Nat := (t.limit.map (min t.deadline)).getD t.deadline

end Task

namespace Office

def withdraw (o : Office) (t : Task) : Office :=
  match t.stage.tx? with
  | some tx => (o.perform (.discard tx)).1
  | none => o

def poll (o : Office) (t : Task) : Office × Progress :=
  if t.limit.any (· ≤ o.elapsed) then (o.withdraw t, .answered (.response Api.overdue))
  else
    match o.serve t.deadline t.order t.stage with
    | (o, .ok outcome) => (o, .answered (t.answer outcome))
    | (o, .error stage) => (o, .waiting { t with stage })

def order (o : Office) (order : Order) (limit : Option Nat) : Office × Progress :=
  o.poll ⟨order, order.first, o.elapsed + o.rules.lockWait, limit⟩

def listed (message : String) : Except ApiError Json → Response
  | .ok values => Api.success message values
  | .error e => e.response

def shows (l : Database.Line) (movieId : Int) : Database.Line × Except ApiError Json :=
  match l.movie? movieId with
  | (l, .error e) => (l, .error (.database e))
  | (l, .ok none) => (l, .error (.booking (.notFound "movie")))
  | (l, .ok (some _)) =>
    match l.shows movieId with
    | (l, .ok found) => (l, .ok (.array (found.map Show.json)))
    | (l, .error e) => (l, .error (.database e))

def setLine (o : Office) (line : Database.Line) : Office :=
  { o with database := { o.database with line } }

def act (o : Office) : Api.Action → Office × Progress
  | .login email password =>
    let (line, login) := Api.Login.run o.rules.keys o.wallClock email password o.database.line
    (o.setLine line, .answered (.response (listed "Login successful" (login.map Api.Login.json))))
  | .movies =>
    let (cache, line, movies) := Catalog.movies o.cache o.database.line
    ({ o.setLine line with cache }, .answered (.response
      (listed "Movies retrieved successfully"
        ((movies.map Movie.listJson).mapError ApiError.database))))
  | .shows movieId =>
    let (line, found) := shows o.database.line movieId
    (o.setLine line, .answered (.response (listed "Shows retrieved successfully" found)))
  | .seats showId =>
    let (o, seats) := o.seatMap showId
    (o, .answered (.response (listed "Seats retrieved successfully"
      ((seats.map fun views => .array (views.map SeatView.json)).mapError ApiError.booking))))
  | .order order => o.order order (some (o.elapsed + o.rules.requestLimit))

/-- Answers a request, or leaves it waiting for a row. Asking what is allowed is always allowed. -/
def handle (o : Office) (r : Http.Request) : Office × Progress :=
  if r.method = "OPTIONS" then (o, .answered (.response (.bare 200)))
  else if o.rules.requestLimit = 0 then (o, .answered (.response Api.overdue))
  else
    let action := do
      let route ← Api.Route.ofRequest r
      Api.Action.ofRequest o.rules.keys.secret o.wallClock.seconds r route
    let (o, progress) :=
      match action with
      | .ok action => o.act action
      | .error response => (o, .answered (.response response))
    (o, progress.forMethod r.method)

def start (o : Office) : Call → Office × Progress
  | .order order => o.order order none
  | .http request => o.handle request

/-- Makes a call and waits for its answer; nobody else goes on meanwhile. -/
def call (o : Office) (call : Call) : Office × Answer :=
  match o.start call with
  | (o, .answered answer) => (o, answer)
  | (o, .waiting t) =>
    match { o with elapsed := t.latest }.poll t with
    | (o, .answered answer) => (o, answer)
    | (o, .waiting t) => (o.withdraw t, t.answer (.refused .lockTimeout))

end Office

end BoxOffice
