import BoxOffice.Api.Response
import BoxOffice.Crypto.PasswordHash
import BoxOffice.Database.Catalog
import BoxOffice.Token

set_option autoImplicit false

namespace BoxOffice.Api

structure Login where
  token : String
  user : User

namespace Login

def json (l : Login) : Json :=
  .object [("token", .text l.token),
    ("user", .object [("id", .int l.user.id), ("name", .text l.user.name),
      ("email", .text l.user.email)])]

def decide (keys : Token.Keys) (now : Instant) (password : String) (found : Option User) :
    Except ApiError Login :=
  match found.filter fun user => Crypto.PasswordHash.verify user.passwordHash password with
  | none => .error (.unauthorized "Invalid credentials")
  | some user =>
    match Token.issue keys user.id user.email now with
    | some token => .ok ⟨token, user⟩
    | none => .error (.brokenOff none)

def run (keys : Token.Keys) (now : Instant) (email password : String) (l : Database.Line) :
    Database.Line × Except ApiError Login :=
  let (l, found) := l.user? email
  match found with
  | .ok user => (l, decide keys now password user)
  | .error e => (l, .error (.database e))

end Login

end BoxOffice.Api
