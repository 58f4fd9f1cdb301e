import BoxOffice.Json.Lexeme

set_option autoImplicit false

/-!
# Documents: JSON texts as far as they go

A `Document` is what a text holds up to its first fault. Only the last branch of a document can be
cut short: the arrays and objects that were open at the fault are not `closed`, and a member whose
value did not come is `missing`. So a reader that walks a document in the order of its text meets a
value of the wrong kind before a later fault, and a fault before anything behind it.

Building keeps the open arrays and objects on a stack, so the depth of a text costs no recursion.
-/

namespace BoxOffice.Json

inductive Document where
  | null
  | bool (value : Bool)
  | number (literal : List Char)
  | text (reading : Reading)
  | array (items : List Document) (closed : Bool)
  | object (members : List (Option String × Document)) (closed : Bool)
  | missing
deriving Inhabited

namespace Document

def complete : Document → Bool
  | array _ closed | object _ closed => closed
  | missing => false
  | _ => true

end Document

/-- An open array or object; what it holds is in reverse. -/
inductive Frame where
  | array (items : List Document)
  | object (members : List (Option String × Document))
  /-- An object whose last name has no value yet. -/
  | member (members : List (Option String × Document)) (name : Option String)

namespace Frame

def cut (inner : Option Document) : Frame → Document
  | array items => .array (inner.toList ++ items).reverse false
  | object members => .object members.reverse false
  | member members name => .object ((name, inner.getD .missing) :: members).reverse false

end Frame

inductive Expected where
  | value
  | itemOrEnd
  | commaOrEnd
  | nameOrEnd
  | name
  | colon
deriving DecidableEq

inductive Builder where
  /-- The innermost frame comes first. -/
  | open (expected : Expected) (frames : List Frame)
  /-- The value is whole; `alone` tells that nothing has followed it. -/
  | done (value : Document) (alone : Bool)
  | faulty (value : Document)

namespace Builder

def start : Builder := .open .value []

/-- All open frames end here, around what the innermost one already holds. -/
def cut (frames : List Frame) : Document :=
  (frames.foldl (fun inner frame => some (frame.cut inner)) none).getD .missing

def deliver (value : Document) : List Frame → Builder
  | [] => .done value true
  | .array items :: frames => .open .commaOrEnd (.array (value :: items) :: frames)
  | .member members name :: frames =>
    .open .commaOrEnd (.object ((name, value) :: members) :: frames)
  | .object members :: frames => .faulty (cut (.object members :: frames))

def value (frames : List Frame) : Lexeme → Builder
  | .null => deliver .null frames
  | .bool b => deliver (.bool b) frames
  | .number literal => deliver (.number literal) frames
  | .text reading => deliver (.text reading) frames
  | .openArray => .open .itemOrEnd (.array [] :: frames)
  | .openObject => .open .nameOrEnd (.object [] :: frames)
  | _ => .faulty (cut frames)

def close : List Frame → Lexeme → Builder
  | .array items :: frames, .closeArray => deliver (.array items.reverse true) frames
  | .object members :: frames, .closeObject => deliver (.object members.reverse true) frames
  | frames, _ => .faulty (cut frames)

def name : List Frame → Lexeme → Builder
  | .object members :: frames, .text reading =>
    .open .colon (.member members reading.text? :: frames)
  | frames, _ => .faulty (cut frames)

def afterComma : List Frame → Builder
  | .array items :: frames => .open .value (.array items :: frames)
  | .object members :: frames => .open .name (.object members :: frames)
  | frames => .faulty (cut frames)

def step (b : Builder) (lexeme : Lexeme) : Builder :=
  match b with
  | .open .value frames => value frames lexeme
  | .open .itemOrEnd frames =>
    if lexeme = .closeArray then close frames lexeme else value frames lexeme
  | .open .commaOrEnd frames =>
    if lexeme = .comma then afterComma frames else close frames lexeme
  | .open .nameOrEnd frames =>
    if lexeme = .closeObject then close frames lexeme else name frames lexeme
  | .open .name frames => name frames lexeme
  | .open .colon frames =>
    if lexeme = .colon then .open .value frames else .faulty (cut frames)
  | .done value _ => .done value false
  | .faulty value => .faulty value

/-- The document when the text ends here, and whether it is one value and nothing else. -/
def finish : Builder → Document × Bool
  | .open _ frames => (cut frames, false)
  | .done value alone => (value, alone)
  | .faulty value => (value, false)

end Builder

namespace Document

def feed (state : Scanner × Builder) (b : UInt8) : Scanner × Builder :=
  let (scanner, ended, ending) := state.1.step b
  (scanner, ending.toList.foldl Builder.step (ended.toList.foldl Builder.step state.2))

def ofOctets (octets : Octets) : Document × Bool :=
  let (scanner, builder) := octets.foldl feed (.between, .start)
  (scanner.atEnd.toList.foldl Builder.step builder).finish

end Document

end BoxOffice.Json
