import BoxOffice.Http.Header
import BoxOffice.Json.Value

set_option autoImplicit false

namespace BoxOffice.Http

structure Request where
  method : String
  /-- The path, percent signs and query included. -/
  path : String
  headers : Headers
  body : Octets

inductive Body where
  | text (text : String)
  | json (value : Json)

structure Response where
  status : Nat
  body : Body

namespace Response

/-- A response that says no more than its status. -/
def bare (status : Nat) : Response := ⟨status, .text ""⟩

def plain (status : Nat) (text : String) : Response := ⟨status, .text text⟩

def withoutBody (r : Response) : Response :=
  match r.body with
  | .text _ => ⟨r.status, .text ""⟩
  | .json _ => ⟨r.status, .json .null⟩

end Response

end BoxOffice.Http
