import BoxOffice.Engine
import BoxOffice.Proofs.StoreChanges

set_option autoImplicit false

namespace BoxOffice

open Engine (TxId Order Stage Gain)

/-- The transaction holds the row, and this is the row's committed seat. -/
structure Store.Grips (s : Store) (tx : TxId) (r : Int) (seat : Seat) : Prop where
  holds : s.Holds tx r
  get? : s.seats.get? r = some seat

namespace Engine

def Order.advance (length : Span) (s : Store) (now : Instant) (order : Order) (stage : Stage) :
    Store × Stage :=
  match order.move length stage with
  | .answer _ => (s, stage)
  | .ask request next =>
    match s.perform now request with
    | (s, some reply) => (s, next reply)
    | (s, none) => (s, stage)

def Order.KeyBooked (order : Order) (s : Store) : Prop :=
  ∃ k, order.key = some k ∧ ∃ b ∈ s.bookings, b.HasKey order.userId k

inductive Sound (length : Span) (s : Store) : Order → Stage → Prop
  | lookUp {order key} (hk : order.key = some key) : Sound length s order (.lookUp key)
  | opening {order} : Sound length s order .opening
  | fetching {order tx} (hb : s.tx tx = .blank tx) : Sound length s order (.fetching tx)
  | withdrawing {order tx} : Sound length s order (.withdrawing tx (.notFound "seat"))
  | deciding {order tx seat} (hb : s.tx tx = .blank tx) (hg : s.Grips tx order.seatId seat) :
      Sound length s order (.deciding tx seat)
  | writing {order tx seat now} (hb : s.tx tx = .blank tx) (hg : s.Grips tx order.seatId seat)
      (ha : order.admits length seat now = .ok ()) :
      Sound length s order (.writing tx order.seatId now)
  | recording {showId r user givenKey tx seat now} (hg : s.Grips tx r seat)
      (ha : (Order.buy showId r user givenKey).admits length seat now = .ok ())
      (hs : s.tx tx = ⟨tx, SeatTable.empty.put { seat with state := .sold }, []⟩) :
      Sound length s (.buy showId r user givenKey)
        (.recording tx ⟨user, showId, r, (Order.buy showId r user givenKey).key⟩)
  | holding {r user tx seat now} (hg : s.Grips tx r seat)
      (ha : (Order.hold r user).admits length seat now = .ok ())
      (hs : s.tx tx = ⟨tx, SeatTable.empty.put { seat with state := .locked now user }, []⟩) :
      Sound length s (.hold r user) (.committing tx (.hold now))
  | selling {showId r user givenKey tx seat now id} (hg : s.Grips tx r seat)
      (ha : (Order.buy showId r user givenKey).admits length seat now = .ok ())
      (hs : s.tx tx = ⟨tx, SeatTable.empty.put { seat with state := .sold },
        [⟨id, user, showId, r, (Order.buy showId r user givenKey).key⟩]⟩) :
      Sound length s (.buy showId r user givenKey)
        (.committing tx (.sale ⟨id, user, showId, r, (Order.buy showId r user givenKey).key⟩))
  | undoing {order tx e} (he : e = .keyTaken → order.KeyBooked s) :
      Sound length s order (.undoing tx e)
  | givingUp {order tx} : Sound length s order (.givingUp tx)
  | lookAgain {order key e} (hk : order.key = some key) (he : e = .keyTaken → order.KeyBooked s) :
      Sound length s order (.lookAgain key e)
  | finished {order outcome} : Sound length s order (.finished outcome)

inductive Advance (length : Span) (s : Store) (now : Instant) :
    Order → Stage → Store → Stage → Prop
  | found {order key b} (h : s.findBooking order.userId key = some b) :
      Advance length s now order (.lookUp key) s (.finished (.done (.booked b.id true)))
  | unknown {order key} (h : s.findBooking order.userId key = none) :
      Advance length s now order (.lookUp key) s .opening
  | begun {order} : Advance length s now order .opening s.begin.1 (.fetching s.nextTx)
  | granted {order tx seat s'} (hs : s' = s ∨ s' = s.claim tx order.seatId)
      (hg : s'.Grips tx order.seatId seat) :
      Advance length s now order (.fetching tx) s' (.deciding tx seat)
  | missing {order tx} (hn : s.seats.get? order.seatId = none) :
      Advance length s now order (.fetching tx) s (.withdrawing tx (.notFound "seat"))
  | waits {order tx} (hw : ¬(s.claim tx order.seatId).Holds tx order.seatId)
      (hn : s.seats.get? order.seatId ≠ none) :
      Advance length s now order (.fetching tx) (s.claim tx order.seatId) (.fetching tx)
  | withdrawn {order tx e} :
      Advance length s now order (.withdrawing tx e) (s.finish tx) (order.refuse e)
  | admitted {order tx seat} (hr : seat.id = order.seatId)
      (ha : order.admits length seat now = .ok ()) :
      Advance length s now order (.deciding tx seat) s (.writing tx order.seatId now)
  | rejected {order tx seat e} (ha : order.admits length seat now = .error e) :
      Advance length s now order (.deciding tx seat) s (.undoing tx e)
  | heldWritten {r user tx seat since} (hg : s.Grips tx r seat)
      (ha : (Order.hold r user).admits length seat since = .ok ()) :
      Advance length s now (.hold r user) (.writing tx r since)
        (s.setTx ⟨tx, SeatTable.empty.put { seat with state := .locked since user }, []⟩)
        (.committing tx (.hold since))
  | saleWritten {showId r user givenKey tx seat read} (hg : s.Grips tx r seat)
      (ha : (Order.buy showId r user givenKey).admits length seat read = .ok ()) :
      Advance length s now (.buy showId r user givenKey) (.writing tx r read)
        (s.setTx ⟨tx, SeatTable.empty.put { seat with state := .sold }, []⟩)
        (.recording tx ⟨user, showId, r, (Order.buy showId r user givenKey).key⟩)
  | insertFailed {order tx sale} (hf : s.faults.inserts = true) :
      Advance length s now order (.recording tx sale) s
        (.undoing tx (.unavailable "booking insert failed"))
  | insertTaken {order tx sale} (hk : Store.keyTaken s.bookings sale.userId sale.key = true) :
      Advance length s now order (.recording tx sale) s (.undoing tx .keyTaken)
  | inserted {order tx sale seats} (hf : s.faults.inserts = false)
      (hk : Store.keyTaken s.bookings sale.userId sale.key = false)
      (hs : s.tx tx = ⟨tx, seats, []⟩) :
      Advance length s now order (.recording tx sale)
        ({ s with lastBooking := s.lastBooking + 1 }.setTx
          ⟨tx, seats, [sale.booking (s.lastBooking + 1 : Nat)]⟩)
        (.committing tx (.sale (sale.booking (s.lastBooking + 1 : Nat))))
  | commitFailed {order tx gain} (hf : s.faults.commits = true) :
      Advance length s now order (.committing tx gain) (s.finish tx)
        (order.refuse (.unavailable "commit failed"))
  | commitTaken {order tx b} (hk : Store.keyTaken s.bookings b.userId b.key = true) :
      Advance length s now order (.committing tx (.sale b)) (s.finish tx) (order.refuse .keyTaken)
  | holdCommitted {r user tx seat since} (hf : s.faults.commits = false) (hg : s.Grips tx r seat)
      (ha : (Order.hold r user).admits length seat since = .ok ())
      (hs : s.tx tx = ⟨tx, SeatTable.empty.put { seat with state := .locked since user }, []⟩) :
      Advance length s now (.hold r user) (.committing tx (.hold since)) (s.committed tx)
        (.finished ((Gain.hold since).outcome length))
  | saleCommitted {showId r user givenKey tx seat read b} (hf : s.faults.commits = false)
      (hg : s.Grips tx r seat)
      (ha : (Order.buy showId r user givenKey).admits length seat read = .ok ())
      (hs : s.tx tx = ⟨tx, SeatTable.empty.put { seat with state := .sold }, [b]⟩)
      (hb : b = ⟨b.id, user, showId, r, (Order.buy showId r user givenKey).key⟩)
      (hk : Store.keyTaken s.bookings b.userId b.key = false) :
      Advance length s now (.buy showId r user givenKey) (.committing tx (.sale b)) (s.committed tx)
        (.finished (.done (.booked b.id false)))
  | undone {order tx e} :
      Advance length s now order (.undoing tx e) (s.finish tx) (order.refuse e)
  | gaveUp {order tx} :
      Advance length s now order (.givingUp tx) (s.finish tx) (.finished (.refused .lockTimeout))
  | foundAgain {order key e b} (h : s.findBooking order.userId key = some b) :
      Advance length s now order (.lookAgain key e) s (.finished (.done (.booked b.id true)))
  | unknownAgain {order key e} (h : s.findBooking order.userId key = none) :
      Advance length s now order (.lookAgain key e) s (.finished (.refused (unexplained e)))
  | finished {order outcome} :
      Advance length s now order (.finished outcome) s (.finished outcome)

variable {length : Span} {s s' : Store} {now : Instant} {order : Order} {stage stage' : Stage}

theorem admits_hold_iff {r user : Int} {seat : Seat} :
    (Order.hold r user).admits length seat now = .ok () ↔
      seat.state = .available ∨
        ∃ since holder, seat.state = .locked since holder ∧ Hold.isExpired since now length := by
  unfold Order.admits
  cases hs : seat.state with
  | available => simp
  | sold => simp
  | locked since holder =>
    by_cases he : Hold.isExpired since now length = true
    · simp [he]
    · simp [he]

theorem admits_hold_error {r user : Int} {seat : Seat} {e : BookingError}
    (h : (Order.hold r user).admits length seat now = .error e) :
    (e = .alreadyLocked ∧
      ∃ since holder, seat.state = .locked since holder ∧ ¬Hold.isExpired since now length) ∨
    (e = .alreadySold ∧ seat.state = .sold) := by
  unfold Order.admits at h
  cases hs : seat.state with
  | available => simp [hs] at h
  | sold =>
    simp only [hs, Except.error.injEq] at h
    exact Or.inr ⟨h.symm, rfl⟩
  | locked since holder =>
    by_cases he : Hold.isExpired since now length = true
    · simp [hs, he] at h
    · simp only [hs, if_neg he, Except.error.injEq] at h
      exact Or.inl ⟨h.symm, since, holder, rfl, he⟩

theorem admits_buy_iff {showId r user : Int} {givenKey : Option String} {seat : Seat} :
    (Order.buy showId r user givenKey).admits length seat now = .ok () ↔
      (∃ since, seat.state = .locked since user ∧ ¬Hold.isExpired since now length) ∧
        seat.showId = showId := by
  unfold Order.admits
  cases hs : seat.state with
  | available => simp
  | sold => simp
  | locked since holder =>
    by_cases he : Hold.isExpired since now length = true
    · simp [he]
    · by_cases hu : holder = user
      · by_cases hh : seat.showId = showId
        · simp [he, hu, hh]
        · simp [he, hu, hh]
      · simp [he, hu]

theorem admits_buy_error {showId r user : Int} {givenKey : Option String} {seat : Seat}
    {e : BookingError} (h : (Order.buy showId r user givenKey).admits length seat now = .error e) :
    e = .notLocked ∨ e = .lockExpired ∨ e = .lockedByOther ∨ e = .wrongShow := by
  unfold Order.admits at h
  cases hs : seat.state with
  | available => simp_all
  | sold => simp_all
  | locked since holder =>
    simp only [hs] at h
    split_ifs at h <;> cases h <;> simp

theorem Gain.outcome_ne_refused (gain : Gain) (length : Span) (e : BookingError) :
    gain.outcome length ≠ .refused e := by
  unfold Gain.outcome
  split
  · split <;> simp
  · simp

/-- Everything that a request can do from a sound stage. -/
theorem advance_of_sound (h : Sound length s order stage) :
    Advance length s now order stage (order.advance length s now stage).1
      (order.advance length s now stage).2 := by
  cases h with
  | lookUp hk =>
    rename_i key
    simp only [Order.advance, Order.move, Store.perform]
    cases hf : s.findBooking order.userId key with
    | none => exact .unknown hf
    | some b => exact .found hf
  | opening => exact .begun
  | fetching hb =>
    rename_i tx
    simp only [Order.advance, Order.move, Store.perform]
    rcases Store.fetch_cases (r := order.seatId) hb with
      ⟨seat, t, hf, ht, hh, hg⟩ | ⟨hf, hg⟩ | ⟨hf, hh, hg⟩
    · rw [hf]
      refine .granted ht ⟨hh, ?_⟩
      rcases ht with rfl | rfl
      · exact hg
      · rw [Store.seats_claim]
        exact hg
    · rw [hf]
      exact .missing hg
    · rw [hf]
      exact .waits hh hg
  | withdrawing => exact .withdrawn
  | deciding hb hg =>
    rename_i tx seat
    have hr := SeatTable.id_of_get? hg.get?
    simp only [Order.advance, Order.move, Store.perform]
    cases ha : order.admits length seat now with
    | ok u =>
      rw [hr]
      exact .admitted hr ha
    | error e => exact .rejected ha
  | writing hb hg ha =>
    simp only [Order.advance, Order.move, Store.perform]
    rw [Store.update_of_holds hb hg.holds hg.get?]
    cases order with
    | hold r user => exact .heldWritten hg ha
    | buy showId r user givenKey => exact .saleWritten hg ha
  | recording hg ha hs =>
    simp only [Order.advance, Order.move, Store.perform, Store.insert, hs, List.nil_append]
    by_cases hf : s.faults.inserts = true
    · rw [if_pos hf]
      exact .insertFailed hf
    · rw [if_neg hf]
      split
      · rename_i hk
        exact .insertTaken hk
      · rename_i hk
        exact .inserted (by simpa using hf) (by simpa using hk) hs
  | holding hg ha hs =>
    simp only [Order.advance, Order.move, Store.perform, Store.commit_eq, hs, List.any_nil]
    by_cases hf : s.faults.commits = true
    · rw [if_pos hf]
      exact .commitFailed hf
    · rw [if_neg hf]
      exact .holdCommitted (by simpa using hf) hg ha hs
  | selling hg ha hs =>
    simp only [Order.advance, Order.move, Store.perform, Store.commit_eq, hs, List.any_cons,
      List.any_nil, Bool.or_false]
    by_cases hf : s.faults.commits = true
    · rw [if_pos hf]
      exact .commitFailed hf
    · rw [if_neg hf]
      split
      · rename_i hk
        exact .commitTaken hk
      · rename_i hk
        exact .saleCommitted (by simpa using hf) hg ha hs rfl (by simpa using hk)
  | undoing he => exact .undone
  | givingUp => exact .gaveUp
  | lookAgain hk he =>
    rename_i key e
    simp only [Order.advance, Order.move, Store.perform]
    cases hf : s.findBooking order.userId key with
    | none => exact .unknownAgain hf
    | some b => exact .foundAgain hf
  | finished => exact .finished

end Engine

end BoxOffice
