import BoxOffice.Json.Document
import BoxOffice.Json.Number

set_option autoImplicit false

namespace BoxOffice.Json.Document

mutual

/-- Keeps a value: nothing in it may be faulty, and arrays and objects nest at most `depth` deep. A
fault in the last item leaves a reader at the end of the whole, any other inside of it. -/
def keep (depth : Nat) : Document → Except Fault Unit
  | .text (.illegible fault) => .error fault
  | .number literal => (Number.fault? literal).elim (.ok ()) .error
  | .array items _ => if depth = 0 then .error .inside else keepItems (depth - 1) items
  | .object members _ => if depth = 0 then .error .inside else keepMembers (depth - 1) members
  | _ => .ok ()
termination_by structural d => d

def keepItems (depth : Nat) : List Document → Except Fault Unit
  | [] => .ok ()
  | item :: rest =>
    match keep depth item with
    | .ok () => keepItems depth rest
    | .error fault => .error (if rest.isEmpty then fault else .inside)
termination_by structural items => items

def keepMembers (depth : Nat) : List (Option String × Document) → Except Fault Unit
  | [] => .ok ()
  | member :: rest =>
    match keepMember depth member with
    | .ok () => keepMembers depth rest
    | .error fault => .error (if rest.isEmpty then fault else .inside)
termination_by structural members => members

def keepMember (depth : Nat) : Option String × Document → Except Fault Unit
  | (none, _) => .error .inside
  | (some _, value) => keep depth value
termination_by structural member => member

end

def comesBehind (depth : Nat) (d : Document) : Bool :=
  match keep depth d with
  | .error .inside => false
  | _ => true

end BoxOffice.Json.Document
