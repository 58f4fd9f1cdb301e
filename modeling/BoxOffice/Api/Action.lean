import BoxOffice.Api.Credentials
import BoxOffice.Api.Response
import BoxOffice.Api.Route
import BoxOffice.Email
import BoxOffice.Http.MediaType
import BoxOffice.Json.Reader

set_option autoImplicit false

namespace BoxOffice.Api

open Http (Response)
open Json (ReadError Reader)
open Engine (Order)

inductive Action where
  | login (email password : String)
  | movies
  | shows (movieId : Int)
  | seats (showId : Int)
  | order (order : Order)
deriving DecidableEq

def longestBody : Nat := 2097152

def jsonBody {α : Type} (read : Reader α) (r : Http.Request) : Except Response α :=
  if !Http.MediaType.announcesJson r.headers then
    .error (.plain 415 "Expected request with `Content-Type: application/json`")
  else if longestBody < r.body.length then
    .error (.plain 413 "Failed to buffer the request body: length limit exceeded")
  else
    match Reader.ofOctets read r.body with
    | .ok value => .ok value
    | .error .mismatch =>
      .error (.plain 422 "Failed to deserialize the JSON body into the target type")
    | .error .malformed => .error (.plain 400 "Failed to parse the request body as JSON")

structure PairDraft (α : Type) where
  first : Option α
  second : Option α

def pair {α : Type} (first second : String) (read : Reader α) : Reader (α × α) := fun v => do
  let fields : List (Reader.Field (PairDraft α)) :=
    [⟨first, (·.first.isSome), fun d v => do
        let value ← read v
        .ok { d with first := some value }⟩,
      ⟨second, (·.second.isSome), fun d v => do
        let value ← read v
        .ok { d with second := some value }⟩]
  let d ← Reader.fields fields ⟨none, none⟩ v
  let a ← Reader.required d.first
  let b ← Reader.required d.second
  .ok (a, b)

/-- Refuses a body with these complaints, one on a line, unless there are none. -/
def complain (complaints : List String) : Except Response Unit :=
  if complaints.isEmpty then .ok ()
  else .error (ApiError.badRequest ("\n".intercalate complaints)).response

def complaint (bad : Bool) (text : String) : List String := if bad then [text] else []

def answered {α : Type} : Except ApiError α → Except Response α
  | .ok value => .ok value
  | .error e => .error e.response

def positive (what : String) (id : Int) : Except Response Int :=
  if 0 < id then .ok id else .error (ApiError.badRequest ("invalid " ++ what)).response

def readLogin (r : Http.Request) : Except Response Action := do
  let (email, password) ← jsonBody (pair "email" "password" Reader.text) r
  complain (complaint (!Email.isValid email) "email: email is invalid"
    ++ complaint (password == "") "password: password is required")
  .ok (.login email password)

def readHold (secret : Octets) (now : Int) (r : Http.Request) (segment : String) :
    Except Response Action := do
  let user ← answered (caller secret now r.headers)
  let seat ← pathId segment
  let seat ← positive "seat ID" seat
  .ok (.order (.hold seat user))

def readBooking (secret : Octets) (now : Int) (r : Http.Request) : Except Response Action := do
  let user ← answered (caller secret now r.headers)
  let key ← answered (bookingKey r.headers)
  let (screening, seat) ← jsonBody (pair "show_id" "seat_id" (Reader.int .signed64)) r
  complain (complaint (seat < 1) "seat_id: seat_id is required"
    ++ complaint (screening < 1) "show_id: show_id is required")
  .ok (.order (.buy screening seat user key))

/-- What a request with a route asks for; tokens are checked at the second `now`. -/
def Action.ofRequest (secret : Octets) (now : Int) (r : Http.Request) :
    Route → Except Response Action
  | .login => readLogin r
  | .movies => .ok .movies
  | .shows segment => do
    let movie ← pathId segment
    let movie ← positive "movie ID" movie
    .ok (.shows movie)
  | .seats segment => do
    let screening ← pathId segment
    let screening ← positive "show ID" screening
    .ok (.seats screening)
  | .hold segment => readHold secret now r segment
  | .book => readBooking secret now r

end BoxOffice.Api
