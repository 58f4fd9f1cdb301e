import BoxOffice.StorageError
import BoxOffice.Time.Instant

set_option autoImplicit false

namespace BoxOffice.Database

inductive Value where
  | null
  | int (value : Int)
  | text (value : String)
  | time (value : Instant)
deriving DecidableEq

structure Statement where
  text : String
  parameters : List Value
deriving DecidableEq

abbrev Row := List (String × Value)

structure Failure where
  message : String
  code : String
  constraint : Option String
deriving DecidableEq

/-- The code of a violated unique index. -/
def uniqueViolation : String := "23505"

def Failure.error (f : Failure) : StorageError :=
  .database f.message (some f.code) (f.code == uniqueViolation) f.constraint

inductive Reply where
  | rows (found : List Row)
  | affected (count : Nat)
  | failure (failure : Failure)
  | silence
deriving DecidableEq

structure Answer where
  rows : List Row
  affected : Nat

def lineLost : StorageError := .io "expected to read 5 bytes, got 0 bytes at EOF"

def Reply.answer : Reply → Except StorageError Answer
  | rows found => .ok ⟨found, found.length⟩
  | affected count => .ok ⟨[], count⟩
  | failure f => .error f.error
  | silence => .error lineLost

structure Line where
  /-- The replies to come; afterwards every statement brings nothing. -/
  replies : List Reply
  /-- What a refused statement begins with. -/
  refusals : List (String × Failure)
  /-- What has been said, the first statement first. -/
  said : List Statement

namespace Line

/-- Statements that steer a transaction bring no reply of their own. -/
def steering : List String := ["BEGIN", "COMMIT", "ROLLBACK", "SET "]

def startsWith (text start : String) : Bool := start.toList.isPrefixOf text.toList

def say (l : Line) (s : Statement) : Line × Except StorageError Answer :=
  let l := { l with said := l.said ++ [s] }
  match l.refusals.find? fun r => startsWith s.text r.1 with
  | some (_, failure) => (l, .error failure.error)
  | none =>
    if steering.any (startsWith s.text) then (l, .ok ⟨[], 0⟩)
    else
      match l.replies with
      | [] => (l, .ok ⟨[], 0⟩)
      | reply :: rest => ({ l with replies := rest }, reply.answer)

end Line

end BoxOffice.Database
