import BoxOffice.Crypto.Base64
import BoxOffice.Crypto.Sha256
import BoxOffice.Json.Value
import BoxOffice.Settings
import BoxOffice.Time.Instant

set_option autoImplicit false

namespace BoxOffice.Token

structure Claims where
  userId : Int
  email : String
  /-- Seconds since the start of 1970, as is `expiresAt`. -/
  issuedAt : Int
  expiresAt : Int
deriving DecidableEq

def Claims.json (c : Claims) : Json :=
  .object [("user_id", .int c.userId), ("email", .text c.email), ("iat", .int c.issuedAt),
    ("exp", .int c.expiresAt)]

def header : Json := .object [("typ", .text "JWT"), ("alg", .text "HS256")]

structure Keys where
  secret : Octets
  lifetime : Span

def Keys.ofSettings? (s : Settings.Tokens) : Option Keys :=
  s.lifetime?.map fun lifetime => ⟨Octets.ofText s.secret, lifetime⟩

def part (text : String) : List Char := Crypto.Base64.encode Crypto.Base64.urlSafe (Octets.ofText text)

def message (header claims : List Char) : List Char := header ++ '.' :: claims

def signature (secret : Octets) (message : List Char) : List Char :=
  Crypto.Base64.encode Crypto.Base64.urlSafe
    (Crypto.Sha256.hmac secret (Octets.ofText (String.ofList message)))

def sign (secret : Octets) (claims : Claims) : String :=
  let m := message (part header.write) (part claims.json.write)
  String.ofList (m ++ '.' :: signature secret m)

/-- A token for a user from now on, unless the calendar does not show when it expires. -/
def issue (keys : Keys) (userId : Int) (email : String) (now : Instant) : Option String :=
  (now.add? keys.lifetime).map fun ends =>
    sign keys.secret ⟨userId, email, now.seconds, ends.seconds⟩

end BoxOffice.Token
