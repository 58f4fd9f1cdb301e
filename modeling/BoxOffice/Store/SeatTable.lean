import BoxOffice.Seat

set_option autoImplicit false

namespace BoxOffice

def Ascending (rows : List Seat) : Prop := rows.Pairwise fun a b => a.id < b.id

structure SeatTable where
  rows : List Seat
  ascending : Ascending rows

namespace SeatTable

def empty : SeatTable := ⟨[], List.Pairwise.nil⟩

def get? (t : SeatTable) (id : Int) : Option Seat := t.rows.find? fun s => s.id = id

/-- Takes the place of the row with the same id, or finds its own. -/
def insertRow (seat : Seat) : List Seat → List Seat
  | [] => [seat]
  | row :: rest =>
    if seat.id < row.id then seat :: row :: rest
    else if seat.id = row.id then seat :: rest
    else row :: insertRow seat rest

theorem mem_insertRow {seat s : Seat} {rows : List Seat} (h : s ∈ insertRow seat rows) :
    s = seat ∨ s ∈ rows := by
  induction rows with
  | nil => simpa [insertRow] using h
  | cons row rest ih => grind [insertRow]

theorem ascending_insertRow (seat : Seat) {rows : List Seat} (h : Ascending rows) :
    Ascending (insertRow seat rows) := by
  induction rows with
  | nil => simp [insertRow, Ascending]
  | cons row rest ih =>
    obtain ⟨hrow, hrest⟩ := List.pairwise_cons.1 h
    unfold insertRow
    split
    · rename_i hlt
      refine List.pairwise_cons.2 ⟨fun s hs => ?_, h⟩
      rcases List.mem_cons.1 hs with rfl | hs
      · exact hlt
      · exact Int.lt_trans hlt (hrow s hs)
    · split
      · rename_i heq
        exact List.pairwise_cons.2 ⟨fun s hs => heq ▸ hrow s hs, hrest⟩
      · refine List.pairwise_cons.2 ⟨fun s hs => ?_, ih hrest⟩
        rcases mem_insertRow hs with rfl | hs
        · omega
        · exact hrow s hs

def put (t : SeatTable) (seat : Seat) : SeatTable :=
  ⟨insertRow seat t.rows, ascending_insertRow seat t.ascending⟩

def putAll (t : SeatTable) (seats : List Seat) : SeatTable := seats.foldl put t

/-- When an id repeats, the last seat with it counts. -/
def ofList (seats : List Seat) : SeatTable := empty.putAll seats

theorem find?_insertRow (seat : Seat) (rows : List Seat) (id : Int) (h : Ascending rows) :
    (insertRow seat rows).find? (fun s => s.id = id)
      = if seat.id = id then some seat else rows.find? fun s => s.id = id := by
  induction rows with
  | nil => simp [insertRow, List.find?_cons]; split <;> simp_all
  | cons row rest ih =>
    obtain ⟨_, hrest⟩ := List.pairwise_cons.1 h
    unfold insertRow
    split
    · simp only [List.find?_cons]; grind
    · split
      · simp only [List.find?_cons]; grind
      · simp only [List.find?_cons, ih hrest]; grind

theorem get?_put (t : SeatTable) (seat : Seat) (id : Int) :
    (t.put seat).get? id = if seat.id = id then some seat else t.get? id :=
  find?_insertRow seat t.rows id t.ascending

theorem id_of_get? {t : SeatTable} {id : Int} {seat : Seat} (h : t.get? id = some seat) :
    seat.id = id := by
  have := List.find?_some h
  simpa using this

end SeatTable

end BoxOffice
