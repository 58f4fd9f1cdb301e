import BoxOffice.Api.Error
import BoxOffice.Http.Header
import BoxOffice.Token.Verify

set_option autoImplicit false

namespace BoxOffice.Api

def caller (secret : Octets) (now : Int) (headers : Http.Headers) : Except ApiError Int :=
  match (headers.first? "Authorization").bind Http.visibleText? with
  | none => .error (.unauthorized "authorization header missing")
  | some value =>
    if "Bearer ".toList.isPrefixOf value.toList then
      match Token.verify secret now (String.ofList (value.toList.drop 7)) with
      | .ok claims => .ok claims.userId
      | .error _ => .error (.unauthorized "invalid token")
    else .error (.unauthorized "invalid authorization header format")

/-- The blanks that a visible text can have at its ends. -/
def isBlank (c : Char) : Bool := c = ' ' || c = '\t'

def trimmed (text : List Char) : List Char :=
  ((text.dropWhile isBlank).reverse.dropWhile isBlank).reverse

def longestKey : Nat := 255

def bookingKey (headers : Http.Headers) : Except ApiError (Option String) :=
  match headers.first? "Idempotency-Key" with
  | none => .ok none
  | some value =>
    match Http.visibleText? value with
    | none => .error (.badRequest "Idempotency-Key must be visible ASCII")
    | some text =>
      let key := trimmed text.toList
      if longestKey < key.length then
        .error (.badRequest
          ("Idempotency-Key must be at most " ++ toString longestKey ++ " characters"))
      else .ok (if key = [] then none else some (String.ofList key))

end BoxOffice.Api
