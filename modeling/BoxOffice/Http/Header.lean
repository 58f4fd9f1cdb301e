import BoxOffice.Text.Octets

set_option autoImplicit false

namespace BoxOffice.Http

abbrev Headers := List (String × Octets)

namespace Headers

def first? (headers : Headers) (name : String) : Option Octets :=
  (headers.find? fun field => field.1.toLower == name.toLower).map (·.2)

end Headers

def isVisible (b : UInt8) : Bool := (32 ≤ b && b < 127) || b == 9

def visibleText? (value : Octets) : Option String :=
  if value.all isVisible then some (String.ofList (value.map fun b => Char.ofNat b.toNat)) else none

end BoxOffice.Http
