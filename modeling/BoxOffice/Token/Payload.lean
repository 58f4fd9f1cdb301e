import BoxOffice.Json.Keep
import BoxOffice.Json.Reader
import BoxOffice.Token

set_option autoImplicit false

/-!
# The claims part of a token

The claims are a record of four fields. Five names in it are registered: `exp`, `nbf`, `sub`, `iss`
and `aud`. Each may stand there once, and a registered claim of the wrong kind is passed over as
long as its value can be stepped over. Only the audience has a say: a token that names one is meant
for somebody else.
-/

namespace BoxOffice.Token

open Json (Document ReadError Reader)

namespace Claims

structure Draft where
  userId : Option Int
  email : Option String
  issuedAt : Option Int
  expiresAt : Option Int

namespace Draft

def fields : List (Reader.Field Draft) :=
  [⟨"user_id", (·.userId.isSome), fun d v => do
      let n ← Reader.int .signed64 v
      .ok { d with userId := some n }⟩,
    ⟨"email", (·.email.isSome), fun d v => do
      let s ← Reader.text v
      .ok { d with email := some s }⟩,
    ⟨"iat", (·.issuedAt.isSome), fun d v => do
      let n ← Reader.int .signed64 v
      .ok { d with issuedAt := some n }⟩,
    ⟨"exp", (·.expiresAt.isSome), fun d v => do
      let n ← Reader.int .signed64 v
      .ok { d with expiresAt := some n }⟩]

def claims (d : Draft) : Except ReadError Claims := do
  let userId ← Reader.required d.userId
  let email ← Reader.required d.email
  let issuedAt ← Reader.required d.issuedAt
  let expiresAt ← Reader.required d.expiresAt
  .ok { userId, email, issuedAt, expiresAt }

end Draft

def reader : Reader Claims := fun v => do
  let d ← Reader.fields Draft.fields ⟨none, none, none, none⟩ v
  d.claims

end Claims

/-- What the claims say besides the four fields. -/
structure Registered where
  members : List (Option String × Document)

namespace Registered

def names : List String := ["exp", "nbf", "sub", "iss", "aud"]

def all (r : Registered) (name : String) : List Document :=
  (r.members.filter fun m => m.1 == some name).map (·.2)

/-- A value of this name can be stepped over. Only an issuer or an audience may be an array or an
object, and a time may be an empty one. -/
def passes (name : String) (d : Document) : Bool :=
  match name, d with
  | "nbf", .array [] _ | "nbf", .object [] _ => true
  | "nbf", d | "sub", d => d.comesBehind 0
  | "iss", d | "aud", d => d.comesBehind 126
  | _, _ => true

def legible (r : Registered) : Bool :=
  names.all fun name => (r.all name).length ≤ 1 && (r.all name).all (passes name)

def isAudience : Document → Bool
  | .text (.legible _) => true
  | .array items _ => items.all fun item =>
    match item with
    | .text (.legible _) => true
    | _ => false
  | _ => false

def namesAudience (r : Registered) : Bool := (r.all "aud").any isAudience

end Registered

/-- The four claims and the registered ones; claims in an array have no names, and are refused. -/
def payload : Reader (Claims × Registered) := fun v => do
  let claims ← Claims.reader v
  match v with
  | .object members _ =>
    let registered := Registered.mk members
    if registered.legible then .ok (claims, registered) else .error .mismatch
  | _ => .error .mismatch

end BoxOffice.Token
