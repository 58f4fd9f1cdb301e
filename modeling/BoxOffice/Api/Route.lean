import BoxOffice.Http.Message
import BoxOffice.Text.Decimal

set_option autoImplicit false

namespace BoxOffice.Api

open Http (Response)

inductive Route where
  | login
  | movies
  | shows (movie : String)
  | seats (screening : String)
  | hold (seat : String)
  | book
deriving DecidableEq

namespace Route

def method : Route → String
  | login | book => "POST"
  | movies | shows _ | seats _ => "GET"
  | hold _ => "PATCH"

/-- What answers to `GET` answers to `HEAD` as well. -/
def accepts (route : Route) (method : String) : Bool :=
  route.method == method || (route.method == "GET" && method == "HEAD")

/-- Where a path leads; its query does not matter. An id has one character at least. -/
def ofPath? (path : String) : Option Route :=
  match ((path.toList.takeWhile (· ≠ '?')).splitOnP (· = '/')).map String.ofList with
  | "" :: "api" :: "v1" :: rest =>
    if rest.contains "" then none
    else match rest with
    | ["login"] => some login
    | ["movies"] => some movies
    | ["movies", id, "shows"] => some (shows id)
    | ["shows", id, "seats"] => some (seats id)
    | ["seats", id, "lock"] => some (hold id)
    | ["bookings"] => some book
    | _ => none
  | _ => none

/-- The route of a request, or what is answered to a request that has none. -/
def ofRequest (r : Http.Request) : Except Response Route :=
  match ofPath? r.path with
  | none => .error (.bare 404)
  | some route => if route.accepts r.method then .ok route else .error (.bare 405)

end Route

def hexDigit? (b : UInt8) : Option UInt8 :=
  if 48 ≤ b && b ≤ 57 then some (b - 48)
  else if 65 ≤ b && b ≤ 70 then some (b - 55)
  else if 97 ≤ b && b ≤ 102 then some (b - 87)
  else none

/-- The octets that a segment stands for; a percent sign without two digits stands for itself. -/
def percentDecode : Octets → Octets
  | [] => []
  | b :: rest =>
    match b, rest with
    | 37, h :: l :: more =>
      match hexDigit? h, hexDigit? l with
      | some h, some l => (h * 16 + l) :: percentDecode more
      | _, _ => 37 :: percentDecode (h :: l :: more)
    | b, rest => b :: percentDecode rest

def pathId (segment : String) : Except Response Int :=
  match (percentDecode (Octets.ofText segment)).toText? with
  | none => .error (.plain 400 "Invalid URL: Invalid UTF-8 in `id`")
  | some text =>
    match Decimal.integer? .signed64 text with
    | some id => .ok id
    | none => .error (.plain 400 ("Invalid URL: Cannot parse `" ++ text ++ "` to a `i64`"))

end BoxOffice.Api
