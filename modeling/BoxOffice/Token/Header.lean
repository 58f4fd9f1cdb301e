import BoxOffice.Token.PublicKey

set_option autoImplicit false

namespace BoxOffice.Token.Header

open Json (Reader)

def algorithms : List String :=
  ["HS256", "HS384", "HS512", "ES256", "ES384", "RS256", "RS384", "RS512", "PS256", "PS384",
    "PS512", "EdDSA"]

structure Draft where
  seen : List String
  algorithm : Option String

def extra {α : Type} (name : String) (read : Reader α) : Reader.Field Draft :=
  ⟨name, (·.seen.contains name), fun d v => do
    let _ ← Reader.optional read v
    .ok { d with seen := name :: d.seen }⟩

def fields : List (Reader.Field Draft) :=
  [extra "typ" Reader.text,
    ⟨"alg", (·.algorithm.isSome), fun d v => do
      let name ← Reader.oneOf algorithms v
      .ok { d with algorithm := some name }⟩,
    extra "cty" Reader.text, extra "jku" Reader.text, extra "jwk" PublicKey.reader,
    extra "kid" Reader.text, extra "x5u" Reader.text, extra "x5c" (Reader.list Reader.text),
    extra "x5t" Reader.text, extra "x5t#S256" Reader.text]

def algorithm : Reader String := fun v => do
  let d ← Reader.fields fields ⟨[], none⟩ v
  Reader.required d.algorithm

end BoxOffice.Token.Header
