import BoxOffice.Database.Line

set_option autoImplicit false

namespace BoxOffice.Database

abbrev Column (α : Type) := String → Row → Except StorageError α

namespace Column

def find : Column Value := fun name row =>
  match row.find? fun c => c.1 == name with
  | some (_, value) => .ok value
  | none => .error (.columnNotFound name)

def wrongKind (name : String) : Value → StorageError
  | .null => .columnNull name
  | _ => .protocol ("column " ++ name ++ " has another type")

def int : Column Int := fun name row => do
  match ← find name row with
  | .int value => .ok value
  | value => .error (wrongKind name value)

def text : Column String := fun name row => do
  match ← find name row with
  | .text value => .ok value
  | value => .error (wrongKind name value)

def time : Column Instant := fun name row => do
  match ← find name row with
  | .time value => .ok value
  | value => .error (wrongKind name value)

def optional {α : Type} (read : Column α) : Column (Option α) := fun name row => do
  match ← find name row with
  | .null => .ok none
  | _ => some <$> read name row

end Column

def readAll {α : Type} (read : Row → Except StorageError α) (a : Answer) :
    Except StorageError (List α) :=
  a.rows.mapM read

def readFirst {α : Type} (read : Row → Except StorageError α) (a : Answer) :
    Except StorageError (Option α) :=
  match a.rows with
  | [] => .ok none
  | row :: _ => some <$> read row

end BoxOffice.Database
