import BoxOffice.Json.Value
import BoxOffice.Time.Calendar

set_option autoImplicit false

namespace BoxOffice

structure Show where
  id : Int
  movieId : Int
  theatreId : Int
  theatreName : String
  theatreLocation : Option String
  startTime : Instant
deriving DecidableEq

def Show.json (s : Show) : Json :=
  .object [("id", .int s.id), ("movie_id", .int s.movieId), ("theatre_id", .int s.theatreId),
    ("theatre_name", .text s.theatreName),
    ("theatre_location", .optional .text s.theatreLocation),
    ("start_time", .text s.startTime.text)]

end BoxOffice
