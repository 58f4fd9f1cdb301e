import BoxOffice.Json.Document
import BoxOffice.Json.Number

set_option autoImplicit false

/-!
# Reading values out of a document

A reader takes a document apart in the order of its text and stops at the first fault that it
meets: a value of the wrong kind is a `mismatch`, a text that is no JSON is `malformed`. A record
may be an object, whose unknown members are skipped and whose known members come at most once, or
an array that holds all its fields in their order.
-/

namespace BoxOffice.Json

inductive ReadError where
  | mismatch
  | malformed
deriving DecidableEq

abbrev Reader (α : Type) := Document → Except ReadError α

namespace Reader

def wrongKind : Document → ReadError
  | .number literal => if (Number.fault? literal).isSome then .malformed else .mismatch
  | .text (.illegible _) | .missing => .malformed
  | _ => .mismatch

def int (b : Decimal.Bounds) : Reader Int
  | .number literal =>
    match (Number.integer? literal).filter fun n => decide (b.Holds n) with
    | some n => .ok n
    | none => .error (wrongKind (.number literal))
  | d => .error (wrongKind d)

def text : Reader String
  | .text (.legible s) => .ok s
  | d => .error (wrongKind d)

/-- One of the given names; a name may also be written as an object around `null`. -/
def oneOf (names : List String) : Reader String := fun d => do
  let name ← match d with
    | .object [(some name, .null)] true => .ok name
    | d => text d
  if names.contains name then .ok name else .error .mismatch

def optional {α : Type} (read : Reader α) : Reader (Option α)
  | .null => .ok none
  | d => some <$> read d

/-- A value whose content does not matter; it need only come to its end. -/
def skip : Reader Unit := fun d => if d.complete then .ok () else .error .malformed

def ended (closed : Bool) : Except ReadError Unit :=
  if closed then .ok () else .error .malformed

def items {α : Type} (read : Reader α) : List Document → Except ReadError (List α)
  | [] => .ok []
  | d :: rest => do
    let value ← read d
    let values ← items read rest
    .ok (value :: values)

def list {α : Type} (read : Reader α) : Reader (List α)
  | .array elements closed => do
    let values ← items read elements
    ended closed
    .ok values
  | d => .error (wrongKind d)

/-- A field of a record that is being read into a partial record of type `σ`. -/
structure Field (σ : Type) where
  name : String
  isSet : σ → Bool
  read : σ → Reader σ

def members {σ : Type} (fields : List (Field σ)) :
    σ → List (Option String × Document) → Except ReadError σ
  | part, [] => .ok part
  | _, (none, _) :: _ => .error .malformed
  | part, (some name, d) :: rest =>
    match fields.find? fun f => f.name == name with
    | none => do
      skip d
      members fields part rest
    | some f =>
      if f.isSet part then .error .mismatch
      else do
        let part ← f.read part d
        members fields part rest

def positions {σ : Type} (closed : Bool) :
    List (Field σ) → σ → List Document → Except ReadError σ
  | [], part, [] => .ok part
  | [], _, _ :: _ => .error .malformed
  | _ :: _, _, [] => .error (if closed then .mismatch else .malformed)
  | f :: fields, part, d :: rest => do
    let part ← f.read part d
    positions closed fields part rest

def fields {σ : Type} (all : List (Field σ)) (start : σ) : Reader σ
  | .object ms closed => do
    let part ← members all start ms
    ended closed
    .ok part
  | .array elements closed => do
    let part ← positions closed all start elements
    ended closed
    .ok part
  | d => .error (wrongKind d)

def required {α : Type} (value : Option α) : Except ReadError α :=
  match value with
  | some a => .ok a
  | none => .error .mismatch

def ofOctets {α : Type} (read : Reader α) (octets : Octets) : Except ReadError α := do
  let (d, alone) := Document.ofOctets octets
  let value ← read d
  ended alone
  .ok value

def ofText {α : Type} (read : Reader α) (text : String) : Except ReadError α :=
  ofOctets read (Octets.ofText text)

end Reader

end BoxOffice.Json
