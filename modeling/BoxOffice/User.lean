import BoxOffice.Json.Value
import BoxOffice.Time.Calendar

set_option autoImplicit false

namespace BoxOffice

structure User where
  id : Int
  email : String
  passwordHash : String
  name : String
  createdAt : Instant
deriving DecidableEq

def User.json (u : User) : Json :=
  .object [("id", .int u.id), ("email", .text u.email), ("name", .text u.name),
    ("created_at", .text u.createdAt.text)]

end BoxOffice
