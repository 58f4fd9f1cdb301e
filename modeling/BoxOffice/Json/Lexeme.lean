import BoxOffice.Text.Octets

set_option autoImplicit false

/-!
# Lexemes of a JSON text

`Scanner` turns octets into lexemes one octet at a time, so any prefix of a text can be scanned and
the state says what is still open. It never looks ahead: a number ends at the first octet that
cannot continue it, and that octet is scanned again.

A quoted text is scanned to its closing quote even when it cannot be read as a text (octets that
are not UTF-8, half of a surrogate pair); its reading is then `illegible`.
Everything else that JSON does not allow is `junk`.
-/

namespace BoxOffice.Json

/-- Why a value that is written as it should be cannot be read, by how far the reader got. -/
inductive Fault where
  /-- The value was read to its end, and what follows it can still be read. -/
  | behind
  /-- A part of the value is left, and whatever is read next begins inside it. -/
  | inside
deriving DecidableEq

inductive Reading where
  | legible (text : String)
  | illegible (fault : Fault)
deriving DecidableEq

def Reading.text? : Reading → Option String
  | legible text => some text
  | illegible _ => none

inductive Lexeme where
  | openArray
  | closeArray
  | openObject
  | closeObject
  | comma
  | colon
  | null
  | bool (value : Bool)
  | number (literal : List Char)
  | text (reading : Reading)
  | junk
deriving DecidableEq, Inhabited

inductive NumberPart where
  | sign
  | zero
  | whole
  | point
  | fraction
  | exponent
  | exponentSign
  | power
deriving DecidableEq

inductive NumberStep where
  | reads (part : NumberPart)
  | ends
  | spoils
deriving DecidableEq

def isDigit (b : UInt8) : Bool := 48 ≤ b && b ≤ 57

namespace NumberPart

def mayEnd : NumberPart → Bool
  | zero | whole | fraction | power => true
  | _ => false

def endOr (part : NumberPart) : NumberStep := if part.mayEnd then .ends else .spoils

/-- No digit follows a leading zero, and a point, an exponent mark or a sign wants a digit. -/
def step (part : NumberPart) (b : UInt8) : NumberStep :=
  if isDigit b then
    match part with
    | sign => .reads (if b = 48 then zero else whole)
    | zero => .spoils
    | whole => .reads whole
    | point | fraction => .reads fraction
    | exponent | exponentSign | power => .reads power
  else if b = 46 then
    match part with
    | zero | whole => .reads point
    | _ => part.endOr
  else if b = 101 ∨ b = 69 then
    match part with
    | zero | whole | fraction => .reads exponent
    | _ => part.endOr
  else if b = 43 ∨ b = 45 then
    match part with
    | exponent => .reads exponentSign
    | _ => part.endOr
  else part.endOr

end NumberPart

def hexDigit? (b : UInt8) : Option Nat :=
  if 48 ≤ b && b ≤ 57 then some (b.toNat - 48)
  else if 97 ≤ b && b ≤ 102 then some (b.toNat - 87)
  else if 65 ≤ b && b ≤ 70 then some (b.toNat - 55)
  else none

/-- The octet that a one-letter escape stands for. -/
def shortEscape? (b : UInt8) : Option UInt8 :=
  if b = 34 ∨ b = 92 ∨ b = 47 then some b
  else if b = 98 then some 8
  else if b = 102 then some 12
  else if b = 110 then some 10
  else if b = 114 then some 13
  else if b = 116 then some 9
  else none

inductive TextPart where
  | plain
  | escape
  | hex (count value : Nat)
deriving DecidableEq

structure OpenText where
  /-- The octets read so far, last one first. -/
  octets : Octets
  /-- Whether all surrogates so far came in pairs. -/
  paired : Bool
  /-- The first half of a surrogate pair whose second half must follow at once. -/
  lead : Option Nat
  part : TextPart
deriving DecidableEq

namespace OpenText

def start : OpenText := ⟨[], true, none, .plain⟩

/-- Something other than the second half of a pair follows: a waiting first half is alone. -/
def settle (t : OpenText) : OpenText :=
  { t with paired := t.paired && t.lead.isNone, lead := none }

def push (t : OpenText) (more : Octets) : OpenText :=
  { t.settle with octets := more.reverse ++ t.octets, part := .plain }

def code (t : OpenText) (n : Nat) : OpenText :=
  if 0xDC00 ≤ n ∧ n ≤ 0xDFFF then
    match t.lead with
    | some high =>
      let c := Char.ofNat (0x10000 + (high - 0xD800) * 0x400 + (n - 0xDC00))
      { t with octets := (String.utf8EncodeChar c).reverse ++ t.octets, lead := none, part := .plain }
    | none => { t with paired := false, part := .plain }
  else if 0xD800 ≤ n ∧ n ≤ 0xDBFF then
    { t.settle with lead := some n, part := .plain }
  else t.push (String.utf8EncodeChar (Char.ofNat n))

/-- The reading of the text once it is closed. Octets are looked at when all escapes have been read,
and a first half of a pair at the very end is missed only where the closing quote stands. -/
def reading (t : OpenText) : Reading :=
  if !t.paired then .illegible .inside
  else if t.lead.isSome then .illegible .behind
  else (Octets.toText? t.octets.reverse).elim (.illegible .behind) .legible

end OpenText

inductive TextStep where
  | reads (text : OpenText)
  | closes (reading : Reading)
  | spoils

namespace OpenText

def step (t : OpenText) (b : UInt8) : TextStep :=
  match t.part with
  | .plain =>
    if b = 34 then .closes t.reading
    else if b = 92 then .reads { t with part := .escape }
    else if b < 32 then .spoils
    else .reads (t.push [b])
  | .escape =>
    if b = 117 then .reads { t with part := .hex 0 0 }
    else match shortEscape? b with
      | some c => .reads (t.push [c])
      | none => .spoils
  | .hex count value =>
    match hexDigit? b with
    | none => .spoils
    | some d =>
      let value := value * 16 + d
      if count < 3 then .reads { t with part := .hex (count + 1) value }
      else .reads (t.code value)

end OpenText

inductive Scanner where
  | between
  /-- The rest of a literal name: the next octet and those after it. -/
  | word (lexeme : Lexeme) (next : UInt8) (more : Octets)
  | number (part : NumberPart) (reversed : List Char)
  | text (read : OpenText)

namespace Scanner

def isBlank (b : UInt8) : Bool := b = 32 || b = 9 || b = 10 || b = 13

def first (b : UInt8) : Scanner × Option Lexeme :=
  if isBlank b then (between, none)
  else if b = 91 then (between, some .openArray)
  else if b = 93 then (between, some .closeArray)
  else if b = 123 then (between, some .openObject)
  else if b = 125 then (between, some .closeObject)
  else if b = 44 then (between, some .comma)
  else if b = 58 then (between, some .colon)
  else if b = 34 then (text .start, none)
  else if b = 45 then (number .sign ['-'], none)
  else if b = 48 then (number .zero ['0'], none)
  else if isDigit b then (number .whole [Char.ofNat b.toNat], none)
  else if b = 110 then (word .null 117 [108, 108], none)
  else if b = 116 then (word (.bool true) 114 [117, 101], none)
  else if b = 102 then (word (.bool false) 97 [108, 115, 101], none)
  else (between, some .junk)

/-- One octet: the next state, a lexeme that ended before the octet, and one that ends with it. -/
def step (s : Scanner) (b : UInt8) : Scanner × Option Lexeme × Option Lexeme :=
  match s with
  | between => let (s, l) := first b; (s, none, l)
  | word lexeme next more =>
    if b = next then
      match more with
      | [] => (between, none, some lexeme)
      | next :: more => (word lexeme next more, none, none)
    else (between, none, some .junk)
  | number part reversed =>
    match part.step b with
    | .reads part => (number part (Char.ofNat b.toNat :: reversed), none, none)
    | .ends => let (s, l) := first b; (s, some (.number reversed.reverse), l)
    | .spoils => (between, none, some .junk)
  | text read =>
    match read.step b with
    | .reads read => (text read, none, none)
    | .closes reading => (between, none, some (.text reading))
    | .spoils => (between, none, some .junk)

def atEnd : Scanner → Option Lexeme
  | between => none
  | number part reversed => if part.mayEnd then some (.number reversed.reverse) else some .junk
  | word _ _ _ | text _ => some .junk

end Scanner

end BoxOffice.Json
