import BoxOffice.Database.Schema
import BoxOffice.Seat.Row

set_option autoImplicit false

/-!
# Rows that are seats

The columns of a seat are described in several places: where a state is written, where a row is
read, and in the conditions that the table puts on its rows. All of them agree. A row is read as a
seat exactly when the table may hold it, and then the seat is written back as that row.
-/

namespace BoxOffice

namespace SeatRow

theorem state_of_columns {row : SeatRow} {s : SeatState}
    (h : s.columns = (row.status, row.lockedAt, row.userId)) : row.state = .ok s := by
  have hstatus : row.status = s.columns.1 := congrArg (·.1) h.symm
  have hsince : row.lockedAt = s.columns.2.1 := congrArg (·.2.1) h.symm
  have hholder : row.userId = s.columns.2.2 := congrArg (·.2.2) h.symm
  cases s <;> simp only [state, hstatus, hsince, hholder, SeatState.columns, SeatState.status,
    SeatStatus.ofName?_name]

theorem columns_of_state {row : SeatRow} {s : SeatState} (h : row.state = .ok s) :
    s.columns = (row.status, row.lockedAt, row.userId) := by
  unfold state at h
  split at h
  · cases h
  · next status hname =>
    rw [SeatStatus.ofName?_eq_some_iff.1 hname]
    split at h
    · next since holder hsince hholder =>
      cases h
      rw [hsince, hholder]
      rfl
    · next hsince hholder =>
      cases h
      rw [hsince, hholder]
      rfl
    · next hsince hholder =>
      cases h
      rw [hsince, hholder]
      rfl
    · cases h

theorem state_eq_ok_iff {row : SeatRow} {s : SeatState} :
    row.state = .ok s ↔ s.columns = (row.status, row.lockedAt, row.userId) :=
  ⟨columns_of_state, state_of_columns⟩

theorem state_ok_or_inconsistent (row : SeatRow) :
    (∃ s, row.state = .ok s) ∨ ∃ cause, row.state = .error (.inconsistent cause) := by
  unfold state
  split
  · exact .inr ⟨_, rfl⟩
  · split
    · exact .inl ⟨_, rfl⟩
    · exact .inl ⟨_, rfl⟩
    · exact .inl ⟨_, rfl⟩
    · exact .inr ⟨_, rfl⟩

theorem seat_eq_ok_iff {row : SeatRow} {seat : Seat} :
    row.seat = .ok seat ↔ seat.id = row.id ∧ seat.showId = row.showId ∧ seat.name = row.name ∧
      seat.state.columns = (row.status, row.lockedAt, row.userId) := by
  rw [← state_eq_ok_iff]
  unfold SeatRow.seat
  obtain ⟨s, h⟩ | ⟨cause, h⟩ := row.state_ok_or_inconsistent
  · rw [h]
    constructor
    · intro he
      cases he
      exact ⟨rfl, rfl, rfl, rfl⟩
    · rintro ⟨hid, hshow, hname, hs⟩
      cases hs
      rw [← hid, ← hshow, ← hname]
      rfl
  · rw [h]
    exact ⟨nofun, fun hs => nomatch hs.2.2.2⟩

theorem seat_error_iff {row : SeatRow} :
    (∃ cause, row.seat = .error (.inconsistent cause)) ↔ ¬∃ seat, row.seat = .ok seat := by
  unfold SeatRow.seat
  obtain ⟨s, h⟩ | ⟨cause, h⟩ := row.state_ok_or_inconsistent
  · rw [h]
    exact ⟨nofun, fun hs => absurd ⟨_, rfl⟩ hs⟩
  · rw [h]
    exact ⟨fun _ ⟨_, hs⟩ => (nomatch hs), fun _ => ⟨cause, rfl⟩⟩

theorem columns_ofSeat (seat : Seat) : seat.state.columns =
    ((ofSeat seat).status, (ofSeat seat).lockedAt, (ofSeat seat).userId) := by
  unfold ofSeat
  generalize seat.state.columns = stored
  rfl

theorem seat_ofSeat (seat : Seat) : (ofSeat seat).seat = .ok seat :=
  seat_eq_ok_iff.2 ⟨rfl, rfl, rfl, columns_ofSeat seat⟩

def Sound (row : SeatRow) : Prop :=
  (row.status = "LOCKED" ∧ row.lockedAt.isSome ∧ row.userId.isSome) ∨
    ((row.status = "AVAILABLE" ∨ row.status = "SOLD") ∧ row.lockedAt = none ∧ row.userId = none)

theorem exists_state_iff {row : SeatRow} : (∃ s, row.state = .ok s) ↔ row.Sound := by
  obtain ⟨id, showId, name, status, lockedAt, userId⟩ := row
  simp only [state_eq_ok_iff, Sound]
  constructor
  · rintro ⟨s, hs⟩
    cases s with
    | available =>
      cases hs
      exact .inr ⟨.inl rfl, rfl, rfl⟩
    | locked since holder =>
      cases hs
      exact .inl ⟨rfl, rfl, rfl⟩
    | sold =>
      cases hs
      exact .inr ⟨.inr rfl, rfl, rfl⟩
  · rintro (⟨rfl, hsince, hholder⟩ | ⟨rfl | rfl, rfl, rfl⟩)
    · obtain ⟨since, rfl⟩ := Option.isSome_iff_exists.1 hsince
      obtain ⟨holder, rfl⟩ := Option.isSome_iff_exists.1 hholder
      exact ⟨.locked since holder, rfl⟩
    · exact ⟨.available, rfl⟩
    · exact ⟨.sold, rfl⟩

theorem exists_seat_iff {row : SeatRow} : (∃ seat, row.seat = .ok seat) ↔ row.Sound := by
  rw [← exists_state_iff]
  constructor
  · rintro ⟨seat, h⟩
    exact ⟨seat.state, state_eq_ok_iff.2 (seat_eq_ok_iff.1 h).2.2.2⟩
  · rintro ⟨s, h⟩
    exact ⟨⟨row.id, row.showId, row.name, s⟩,
      seat_eq_ok_iff.2 ⟨rfl, rfl, rfl, state_eq_ok_iff.1 h⟩⟩

inductive LockColumn where
  | lockedAt
  | userId
deriving DecidableEq

namespace LockColumn

def name : LockColumn → String
  | lockedAt => "locked_at"
  | userId => "user_id"

def isGiven (row : SeatRow) : LockColumn → Bool
  | lockedAt => row.lockedAt.isSome
  | userId => row.userId.isSome

end LockColumn

/-- A condition on the columns of a seat's state. No row lacks a status, so a condition that does
not hold is refused. -/
inductive Condition where
  | isOneOf (names : List String)
  | isNamed (name : String)
  | isNotNamed (name : String)
  | isGiven (column : LockColumn)
  | isMissing (column : LockColumn)
  | both (first second : Condition)

namespace Condition

def literal (name : String) : String := "'" ++ name ++ "'"

def text : Condition → String
  | isOneOf names => "status IN (" ++ ", ".intercalate (names.map literal) ++ ")"
  | isNamed name => "status = " ++ literal name
  | isNotNamed name => "status <> " ++ literal name
  | isGiven column => column.name ++ " IS NOT NULL"
  | isMissing column => column.name ++ " IS NULL"
  | both first second => first.text ++ " AND " ++ second.text

def holds (row : SeatRow) : Condition → Bool
  | isOneOf names => row.status ∈ names
  | isNamed name => row.status = name
  | isNotNamed name => row.status ≠ name
  | isGiven column => column.isGiven row
  | isMissing column => !column.isGiven row
  | both first second => first.holds row && second.holds row

def knownStatus : Condition := isOneOf ["AVAILABLE", "LOCKED", "SOLD"]

def heldWhole : Condition :=
  both (both (isNamed "LOCKED") (isGiven .lockedAt)) (isGiven .userId)

def notHeld : Condition :=
  both (both (isNotNamed "LOCKED") (isMissing .lockedAt)) (isMissing .userId)

end Condition

def tableLines : List String :=
  ["CREATE TABLE IF NOT EXISTS show_seats (",
    "id BIGSERIAL PRIMARY KEY,",
    "show_id BIGINT NOT NULL REFERENCES shows(id),",
    "seat_name VARCHAR(10) NOT NULL,",
    "status VARCHAR(50) NOT NULL DEFAULT 'AVAILABLE'",
    "CHECK (" ++ Condition.knownStatus.text ++ "),",
    "locked_at TIMESTAMPTZ,",
    "user_id BIGINT REFERENCES users(id),",
    "created_at TIMESTAMPTZ NOT NULL DEFAULT NOW(),",
    "updated_at TIMESTAMPTZ NOT NULL DEFAULT NOW(),",
    "-- lock columns are populated exactly when the seat is held",
    "CONSTRAINT show_seats_lock_columns CHECK (",
    "(" ++ Condition.heldWhole.text ++ ")",
    "OR (" ++ Condition.notHeld.text ++ ")",
    "),",
    "UNIQUE (show_id, seat_name)",
    ");"]

theorem tableLines_in_script : tableLines <:+: Database.Schema.lines := by
  decide +kernel

/-- The checks of the table, the second of which has two branches. -/
def Allowed (row : SeatRow) : Prop :=
  Condition.knownStatus.holds row ∧ (Condition.heldWhole.holds row ∨ Condition.notHeld.holds row)

theorem holds_knownStatus {row : SeatRow} : Condition.knownStatus.holds row ↔
    row.status = "AVAILABLE" ∨ row.status = "LOCKED" ∨ row.status = "SOLD" := by
  simp [Condition.knownStatus, Condition.holds]

theorem holds_heldWhole {row : SeatRow} : Condition.heldWhole.holds row ↔
    row.status = "LOCKED" ∧ row.lockedAt.isSome ∧ row.userId.isSome := by
  simp [Condition.heldWhole, Condition.holds, LockColumn.isGiven, and_assoc]

theorem holds_notHeld {row : SeatRow} : Condition.notHeld.holds row ↔
    row.status ≠ "LOCKED" ∧ row.lockedAt = none ∧ row.userId = none := by
  simp [Condition.notHeld, Condition.holds, LockColumn.isGiven, and_assoc]

theorem sound_iff_allowed {row : SeatRow} : row.Sound ↔ row.Allowed := by
  unfold Sound Allowed
  rw [holds_knownStatus, holds_heldWhole, holds_notHeld]
  constructor
  · rintro (held | ⟨free | sold, lockedAt, userId⟩)
    · exact ⟨.inr (.inl held.1), .inl held⟩
    · exact ⟨.inl free, .inr ⟨by simp [free], lockedAt, userId⟩⟩
    · exact ⟨.inr (.inr sold), .inr ⟨by simp [sold], lockedAt, userId⟩⟩
  · rintro ⟨known, held | ⟨unlocked, lockedAt, userId⟩⟩
    · exact .inl held
    · exact .inr ⟨known.imp_right fun h => h.resolve_left unlocked, lockedAt, userId⟩

/-- The columns and the states of seats are inverse to each other: a row that the checks of the
table allow is read as the seat that is written as this row, any other row is refused as
inconsistent, and every seat is read back from what is written of it. -/
theorem seat_iff_columns :
    tableLines <:+: Database.Schema.lines ∧
      (∀ row : SeatRow,
        ((∃ seat, row.seat = .ok seat) ↔ row.Sound) ∧ (row.Sound ↔ row.Allowed) ∧
          (∀ seat, row.seat = .ok seat ↔ seat.id = row.id ∧ seat.showId = row.showId ∧
            seat.name = row.name ∧
              seat.state.columns = (row.status, row.lockedAt, row.userId)) ∧
          ((∃ cause, row.seat = .error (.inconsistent cause)) ↔ ¬row.Sound)) ∧
      ∀ seat : Seat, (ofSeat seat).seat = .ok seat := by
  refine ⟨tableLines_in_script, fun row => ⟨exists_seat_iff, sound_iff_allowed,
    fun seat => seat_eq_ok_iff, ?_⟩, seat_ofSeat⟩
  rw [seat_error_iff, exists_seat_iff]

end SeatRow

end BoxOffice
