import BoxOffice.Token.Header
import BoxOffice.Token.Payload

set_option autoImplicit false

namespace BoxOffice.Token

open Json (Reader)

inductive Error where
  | wrongParts
  | base64
  | json
  | wrongAlgorithm
  | wrongSignature
  | missingClaim
  | expired
  | wrongAudience
deriving DecidableEq

def splitLast : List Char → Option (List Char × List Char)
  | [] => none
  | c :: rest =>
    match splitLast rest with
    | some (before, behind) => some (c :: before, behind)
    | none => if c = '.' then some ([], rest) else none

/-- Seconds that a token counts beyond its expiry. -/
def leeway : Int := 60

def readPart {α : Type} (read : Reader α) (text : List Char) : Except Error α :=
  match Crypto.Base64.decode Crypto.Base64.urlSafe text with
  | none => .error .base64
  | some octets =>
    match Reader.ofOctets read octets with
    | .ok value => .ok value
    | .error _ => .error .json

/-- Whether claims are good at a second, given that they were signed. -/
def judge (now : Int) (claims : Claims) (registered : Registered) : Except Error Claims :=
  if claims.expiresAt < 0 then .error .missingClaim
  -- In the first minute of 1970 the difference is negative, where one of unsigned numbers would
  -- leave its range.
  else if claims.expiresAt < now - leeway then .error .expired
  else if registered.namesAudience then .error .wrongAudience
  else .ok claims

/-- The claims of a token, if it was signed with the secret and counts at the second `now`. -/
def verify (secret : Octets) (now : Int) (token : String) : Except Error Claims := do
  let (m, given) ← (splitLast token.toList).elim (.error .wrongParts) .ok
  let (header, claims) ← (splitLast m).elim (.error .wrongParts) .ok
  let algorithm ← readPart Header.algorithm header
  if algorithm ≠ "HS256" then .error .wrongAlgorithm
  else if signature secret m ≠ given then .error .wrongSignature
  else do
    let (claims, registered) ← readPart payload claims
    judge now claims registered

end BoxOffice.Token
