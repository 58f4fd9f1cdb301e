import BoxOffice.Time.Calendar

set_option autoImplicit false

namespace BoxOffice

inductive SeatStatus where
  | available
  | locked
  | sold
deriving DecidableEq

namespace SeatStatus

def name : SeatStatus → String
  | available => "AVAILABLE"
  | locked => "LOCKED"
  | sold => "SOLD"

def ofName? (text : String) : Option SeatStatus :=
  if text = "AVAILABLE" then some available
  else if text = "LOCKED" then some locked
  else if text = "SOLD" then some sold
  else none

theorem ofName?_name (s : SeatStatus) : ofName? s.name = some s := by
  cases s <;> rfl

theorem ofName?_eq_some_iff {text : String} {s : SeatStatus} :
    ofName? text = some s ↔ text = s.name := by
  refine ⟨fun h => ?_, fun h => h ▸ ofName?_name s⟩
  unfold ofName? at h
  split at h
  · cases h; assumption
  · split at h
    · cases h; assumption
    · split at h
      · cases h; assumption
      · cases h

end SeatStatus

inductive SeatState where
  | available
  | locked (since : Instant) (holder : Int)
  | sold
deriving DecidableEq

def SeatState.status : SeatState → SeatStatus
  | available => .available
  | locked _ _ => .locked
  | sold => .sold

structure Seat where
  id : Int
  showId : Int
  name : String
  state : SeatState
deriving DecidableEq

structure SeatView where
  id : Int
  showId : Int
  name : String
  status : SeatStatus
  lockedAt : Option Instant
  userId : Option Int
deriving DecidableEq

end BoxOffice
