import BoxOffice.Json.Keep
import BoxOffice.Json.Reader

set_option autoImplicit false

namespace BoxOffice.Token.PublicKey

open Json (Document ReadError Reader)

abbrev Members := List (Option String × Document)

def algorithms : List String :=
  ["HS256", "HS384", "HS512", "ES256", "ES384", "RS256", "RS384", "RS512", "PS256", "PS384",
    "PS512", "EdDSA", "RSA1_5", "RSA-OAEP", "RSA-OAEP-256"]

/-- An algorithm; one that is written as an object may also stand around an empty object. -/
def algorithm : Reader String
  | .object [(name, .object [] true)] true => Reader.oneOf algorithms (.object [(name, .null)] true)
  | d => Reader.oneOf algorithms d

def extra {α : Type} (name : String) (read : Reader α) : Reader.Field (List String) :=
  ⟨name, (·.contains name), fun seen d => do
    let _ ← Reader.optional read d
    .ok (name :: seen)⟩

def shared : List (Reader.Field (List String)) :=
  [extra "use" Reader.text, extra "key_ops" (Reader.list Reader.text), extra "alg" algorithm,
    extra "kid" Reader.text, extra "x5u" Reader.text, extra "x5c" (Reader.list Reader.text),
    extra "x5t" Reader.text, extra "x5t#S256" Reader.text]

structure Kind where
  name : String
  onCurve : Bool
  /-- The members that hold the key itself. -/
  parts : List String

def kinds : List Kind :=
  [⟨"EC", true, ["x", "y"]⟩, ⟨"RSA", false, ["n", "e"]⟩, ⟨"oct", false, ["k"]⟩,
    ⟨"OKP", true, ["x"]⟩]

def curves : List String := ["P-256", "P-384", "P-521", "Ed25519"]

def holdsOne {α : Type} (ms : Members) (name : String) (read : Reader α) : Bool :=
  match ms.filter fun m => m.1 == some name with
  | [(_, d)] => (read d).isOk
  | _ => false

/-- The members of the kind are there; others do not matter, and may be repeated. -/
def Kind.fits (k : Kind) (ms : Members) : Bool :=
  holdsOne ms "kty" (Reader.oneOf [k.name])
    && (!k.onCurve || holdsOne ms "crv" (Reader.oneOf curves))
    && k.parts.all fun name => holdsOne ms name Reader.text

/-- How deep arrays and objects in a description may nest. -/
def depth : Nat := 125

def reader : Reader Unit
  | .object ms true => do
    let _ ← (Document.keepMembers depth ms).mapError fun _ => ReadError.malformed
    let _ ← Reader.members shared [] ms
    if kinds.any fun k => k.fits ms then .ok () else .error .mismatch
  | d => .error (Reader.wrongKind d)

end BoxOffice.Token.PublicKey
