import BoxOffice.Booking
import BoxOffice.Engine
import BoxOffice.Json.Value

set_option autoImplicit false

namespace BoxOffice

def SeatView.json (v : SeatView) : Json :=
  .object ([("id", .int v.id), ("show_id", .int v.showId), ("seat_name", .text v.name),
      ("status", .text v.status.name)]
    ++ (v.lockedAt.map fun t => ("locked_at", Json.text t.text)).toList
    ++ (v.userId.map fun u => ("user_id", Json.int u)).toList)

def RecordedBooking.json (b : RecordedBooking) : Json :=
  .object [("id", .int b.id), ("user_id", .int b.userId), ("show_id", .int b.showId),
    ("seat_id", .int b.seatId), ("created_at", .text b.createdAt.text)]

namespace Api

def held (message : String) (expiresAt : Instant) : Json :=
  .object [("message", .text message), ("expires_at", .text expiresAt.text)]

def booked (id : Int) (message : String) (replayed : Bool) : Json :=
  .object [("booking_id", .int id), ("status", .text "CONFIRMED"), ("message", .text message),
    ("replayed", .bool replayed)]

def receipt (r : Engine.Receipt) : Json :=
  match r with
  | .held expiresAt => held r.message expiresAt
  | .booked id replayed => booked id r.message replayed

def envelope (message : String) (values : Json) : Json :=
  .object [("success", .bool true), ("statusCode", .int 200), ("message", .text message),
    ("values", values)]

end Api

end BoxOffice
