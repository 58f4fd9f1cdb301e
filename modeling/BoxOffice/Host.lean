import BoxOffice.Host.Mapping
import BoxOffice.Host.Punycode

set_option autoImplicit false

namespace BoxOffice.Host

def isLetterOrDigit (c : Char) : Bool :=
  ('a' ≤ c && c ≤ 'z') || ('A' ≤ c && c ≤ 'Z') || ('0' ≤ c && c ≤ '9')

/-- Letters, digits and hyphens, the hyphens inside. -/
def isLabel (text : List Char) : Bool :=
  1 ≤ text.length && text.length ≤ 63
    && (text.all fun c => isLetterOrDigit c || c == '-')
    && text.head? != some '-' && text.getLast? != some '-'

def isName (text : List Char) : Bool := (text.splitOnP (· = '.')).all isLabel

/-- A label in ASCII. It may not begin with a mark that belongs to a character before it. -/
def labelInAscii (label : List Char) : Option (List Char) :=
  if label.all Punycode.isBasic then some label
  else if (label.head?.map Text.isGraphemeExtend).getD false then none
  else some ("xn--".toList ++ Punycode.encode label)

def inAscii (text : List Char) : Option (List Char) := do
  let mapped ← text.mapM mapChar
  let labels ← (mapped.flatten.splitOnP (· = '.')).mapM labelInAscii
  some (['.'].intercalate labels)

end BoxOffice.Host
