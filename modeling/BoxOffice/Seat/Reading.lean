import BoxOffice.Json.Reader
import BoxOffice.Json.Value
import BoxOffice.Seat

set_option autoImplicit false

namespace BoxOffice.SeatStatus

open Json (Reader)

def json (s : SeatStatus) : Json := .text s.name

def reader : Reader SeatStatus := fun v => do
  let name ← Reader.oneOf ([available, locked, sold].map name) v
  (ofName? name).elim (.error .mismatch) .ok

end BoxOffice.SeatStatus
