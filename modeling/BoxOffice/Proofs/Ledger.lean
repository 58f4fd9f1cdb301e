import BoxOffice.Proofs.HoldReport
import BoxOffice.Session

set_option autoImplicit false

/-!
# The box office by the book

As long as nobody holds a row, the rules for holds and sales are a table: what an order comes to
depends on the committed seats and bookings, the clock and the faults that are switched on. The
table says nothing of transactions, row locks, staged writes or repeated searches. A session whose
errands are run one after the other answers as the table does and leaves what the table says.
-/

namespace BoxOffice

open Engine (TxId Order Stage Gain Outcome)

/-- What has been committed, and what else the outcome of the next order depends on. -/
structure Ledger where
  clock : Instant
  faults : Faults
  seats : SeatTable
  bookings : List Booking
  lastNumber : Nat

def Store.ledger (s : Store) (clock : Instant) : Ledger :=
  ⟨clock, s.faults, s.seats, s.bookings, s.lastBooking⟩

namespace Ledger

def ago (l : Ledger) (since : Instant) : Int := l.clock.since since

def lock (length : Span) (l : Ledger) (seat : Seat) (user : Int) : Ledger × Outcome :=
  if l.faults.commits then (l, .refused (.unavailable "commit failed"))
  else
    ({ l with seats := l.seats.put { seat with state := .locked l.clock user } },
      match l.clock.add? length with
      | some e => .done (.held e)
      | none => .beyondCalendar)

def hold (length : Span) (l : Ledger) (r user : Int) : Ledger × Outcome :=
  match l.seats.get? r with
  | none => (l, .refused (.notFound "seat"))
  | some seat =>
    match seat.state with
    | .sold => (l, .refused .alreadySold)
    | .locked since _ =>
      if l.ago since ≤ length.nanos then (l, .refused .alreadyLocked) else l.lock length seat user
    | .available => l.lock length seat user

/-- The seat is sold under the next number, which is used up even if the commit fails. -/
def sell (l : Ledger) (seat : Seat) (user : Int) (key : Option String) : Ledger × Outcome :=
  if l.faults.inserts then (l, .refused (.unavailable "booking insert failed"))
  else if l.faults.commits then
    ({ l with lastNumber := l.lastNumber + 1 }, .refused (.unavailable "commit failed"))
  else
    let b : Booking := ⟨(l.lastNumber + 1 : Nat), user, seat.showId, seat.id, key⟩
    ({ l with
        lastNumber := l.lastNumber + 1
        seats := l.seats.put { seat with state := .sold }
        bookings := l.bookings ++ [b] },
      .done (.booked b.id false))

/-- The booking that the user has made with the key, whatever it is for. An empty key is none. -/
def earlier? (l : Ledger) (user : Int) : Option String → Option Booking
  | none | some "" => none
  | some key => l.bookings.find? fun b => b.userId = user ∧ b.key = some key

def buy (length : Span) (l : Ledger) (showId r user : Int) (key : Option String) :
    Ledger × Outcome :=
  match l.earlier? user key with
  | some b => (l, .done (.booked b.id true))
  | none =>
    match l.seats.get? r with
    | none => (l, .refused (.notFound "seat"))
    | some seat =>
      match seat.state with
      | .available | .sold => (l, .refused .notLocked)
      | .locked since holder =>
        if length.nanos < l.ago since then (l, .refused .lockExpired)
        else if holder ≠ user then (l, .refused .lockedByOther)
        else if seat.showId ≠ showId then (l, .refused .wrongShow)
        else l.sell seat user (if key = some "" then none else key)

def serve (length : Span) (l : Ledger) : Order → Ledger × Outcome
  | .hold r user => l.hold length r user
  | .buy showId r user key => l.buy length showId r user key

def list (length : Span) (l : Ledger) (showId : Int) : List SeatView :=
  ((l.seats.rows.filter fun seat => seat.showId = showId).mergeSort
    fun a b => !decide (b.name < a.name)).map fun seat =>
      let view := SeatView.mk seat.id seat.showId seat.name
      match seat.state with
      | .available => view .available none none
      | .locked since holder =>
        if l.ago since ≤ length.nanos then view .locked (some since) (some holder)
        else view .available none none
      | .sold => view .sold none none

end Ledger

/-- What a session can be asked to do while nothing else is under way. -/
inductive Errand where
  | order (order : Order)
  | list (showId : Int)
  | advance (span : Span)
  | setClock (now : Instant)
  | setFaults (faults : Faults)

inductive Errand.Reply where
  | answer (answer : Answer)
  | seats (views : Except BookingError (List SeatView))
  | clock (now : Option Instant)
  | noted

def Errand.all {σ : Type} (run : σ → Errand → σ × Errand.Reply) (s : σ) :
    List Errand → σ × List Errand.Reply
  | [] => (s, [])
  | e :: errands =>
    let (s, reply) := run s e
    let (s, replies) := Errand.all run s errands
    (s, reply :: replies)

def Session.run (s : Session) : Errand → Session × Errand.Reply
  | .order order => let (s, answer) := s.call (.order order); (s, .answer answer)
  | .list showId => let (s, views) := s.seatMap showId; (s, .seats views)
  | .advance span =>
    match s.advance span with
    | some s => (s, .clock (some s.office.clock))
    | none => (s, .clock none)
  | .setClock now => let s := s.setClock now; (s, .clock (some s.office.clock))
  | .setFaults faults => (s.setFaults faults, .noted)

def Ledger.run (length : Span) (l : Ledger) : Errand → Ledger × Errand.Reply
  | .order order => let (l, outcome) := l.serve length order; (l, .answer (.outcome outcome))
  | .list showId => (l, .seats (.ok (l.list length showId)))
  | .advance span =>
    match l.clock.add? span with
    | some clock => ({ l with clock }, .clock (some clock))
    | none => (l, .clock none)
  | .setClock clock => ({ l with clock }, .clock (some clock))
  | .setFaults faults => ({ l with faults }, .noted)

theorem Errand.all_eq {σ τ : Type} {f : σ → Errand → σ × Errand.Reply}
    {g : τ → Errand → τ × Errand.Reply} {R : σ → τ → Prop}
    (hstep : ∀ {s t} e, R s t → R (f s e).1 (g t e).1 ∧ (f s e).2 = (g t e).2)
    (errands : List Errand) {s : σ} {t : τ} (h : R s t) :
    R (Errand.all f s errands).1 (Errand.all g t errands).1 ∧
      (Errand.all f s errands).2 = (Errand.all g t errands).2 := by
  induction errands generalizing s t with
  | nil => exact ⟨h, rfl⟩
  | cons e errands ih =>
    obtain ⟨h', hreply⟩ := hstep e h
    obtain ⟨hrest, hreplies⟩ := ih h'
    exact ⟨hrest, congrArg₂ List.cons hreply hreplies⟩

variable {length : Span} {now : Instant} {order : Order} {s s' : Store} {stage stage' : Stage}
variable {seat : Seat} {r user : Int} {a : TxId}

namespace Store

theorem holds_claim_of_free (hfree : s.holder r = none) : (s.claim a r).Holds a r := by
  have hnone : s.claims.find? (fun c => c.seatId = r) = none := by
    simpa [holder] using hfree
  have hmem : ⟨r, a⟩ ∉ s.claims := by
    intro hm
    have := List.find?_eq_none.1 hnone _ hm
    simp at this
  unfold Holds holder claim
  rw [if_neg hmem, List.find?_append, hnone]
  simp

theorem not_holds_of_free (hfree : s.holder r = none) : ¬s.Holds a r := by
  rw [Holds, hfree]
  nofun

theorem fetch_of_free (hb : s.tx a = .blank a) (hfree : s.holder r = none)
    (hg : s.seats.get? r = some seat) : s.fetch a r = (s.claim a r, some (.ok seat)) := by
  have hread : (s.claim a r).readHeld a r = .ok seat := by
    simp only [readHeld, read?, tx_claim, seats_claim, hb, hg]
    rfl
  unfold fetch
  rw [if_neg (not_holds_of_free hfree), hg]
  simp only [Option.isNone_some, Bool.false_eq_true, if_false]
  rw [if_pos (holds_claim_of_free hfree), hread]

theorem fetch_of_missing (hn : ¬s.Holds a r) (hg : s.seats.get? r = none) :
    s.fetch a r = (s, some (.error (.notFound "seat"))) := by
  unfold fetch
  rw [if_neg hn, hg]
  rfl

theorem insert_of_not_taken {sale : Sale} (hf : s.faults.inserts = false)
    (hk : keyTaken ((s.tx a).bookings ++ s.bookings) sale.userId sale.key = false) :
    s.insert a sale =
      ({ s with lastBooking := s.lastBooking + 1 }.setTx
          { s.tx a with
            bookings := (s.tx a).bookings ++ [sale.booking (s.lastBooking + 1 : Nat)] },
        .ok (sale.booking (s.lastBooking + 1 : Nat))) := by
  simp only [insert, hf, hk, Bool.false_eq_true, if_false]

theorem claims_eq_nil_iff : s.claims = [] ↔ ∀ r, s.holder r = none := by
  constructor
  · intro h r
    simp [holder, h]
  · intro h
    refine List.eq_nil_iff_forall_not_mem.2 fun c hc => ?_
    obtain ⟨b, hb⟩ := exists_holds_of_mem_claims hc
    exact not_holds_of_free (h c.seatId) hb

end Store

/-- Each request is answered at once and brings the order nearer to its end. -/
inductive Engine.Order.Leads (length : Span) (now : Instant) (order : Order) :
    Store → Stage → Store → Outcome → Prop
  | finished {s outcome} : order.Leads length now s (.finished outcome) s outcome
  | step {s stage s₁ stage₁ s' outcome}
      (ha : order.advance length s now stage = (s₁, stage₁)) (hlt : stage₁.rank < stage.rank)
      (h : order.Leads length now s₁ stage₁ s' outcome) :
      order.Leads length now s stage s' outcome

namespace Office

variable {o : Office} {deadline : Nat} {outcome : Outcome}

theorem serve_of_advance (hk : o.keeping = .memory)
    (ha : order.advance o.rules.holdLength o.store o.clock stage = (s', stage'))
    (hlt : stage'.rank < stage.rank) :
    o.serve deadline order stage = { o with store := s' }.serve deadline order stage' := by
  unfold Order.advance at ha
  split at ha
  · cases ha
    exact absurd hlt (Nat.lt_irrefl _)
  · rename_i request next hm
    split at ha
    · rename_i s₁ reply hp
      cases ha
      refine serve_of_reply hm ?_
      rw [perform_of_memory hk, hp]
    · cases ha
      exact absurd hlt (Nat.lt_irrefl _)

theorem serve_of_leads (h : order.Leads length now s stage s' outcome) (hk : o.keeping = .memory)
    (hlength : o.rules.holdLength = length) (hnow : o.clock = now) (hs : o.store = s) :
    o.serve deadline order stage = ({ o with store := s' }, .ok outcome) := by
  induction h generalizing o with
  | finished =>
    subst hs
    exact serve_of_answer (by rfl)
  | @step _ _ s₁ _ _ _ ha hlt _ ih =>
    subst hlength hnow hs
    rw [serve_of_advance hk ha hlt]
    exact ih (o := { o with store := s₁ }) hk rfl rfl rfl

end Office

namespace Engine.Order

/-- The order ends with this outcome, the ledger reads so then, and no claim is new. -/
def Posts (start : Store) (length : Span) (now : Instant) (order : Order) (s : Store)
    (stage : Stage) (entry : Ledger × Outcome) : Prop :=
  ∃ s', order.Leads length now s stage s' entry.2 ∧ s'.ledger now = entry.1 ∧
    s'.claims ⊆ start.claims

variable {start : Store} {entry : Ledger × Outcome}

theorem Posts.step (h : order.Posts start length now s' stage' entry)
    (ha : order.advance length s now stage = (s', stage')) (hlt : stage'.rank < stage.rank) :
    order.Posts start length now s stage entry := by
  obtain ⟨s'', hleads, hledger, hclaims⟩ := h
  exact ⟨s'', .step ha hlt hleads, hledger, hclaims⟩

theorem posts_finished {outcome : Outcome} (hc : s.claims ⊆ start.claims) :
    order.Posts start length now s (.finished outcome) (s.ledger now, outcome) :=
  ⟨s, .finished, rfl, hc⟩

def Unbooked (order : Order) (s : Store) : Prop :=
  ∀ key, order.key = some key → s.findBooking order.userId key = none

theorem posts_refuse {e : BookingError} (hu : order.Unbooked s) (he : e ≠ .keyTaken)
    (hc : s.claims ⊆ start.claims) :
    order.Posts start length now s (order.refuse e) (s.ledger now, .refused e) := by
  unfold refuse
  split
  · rename_i key hkey
    split
    · have hagain : order.advance length s now (.lookAgain key e) =
          (s, .finished (.refused e)) := by
        simp only [advance, move, Store.perform, hu key hkey, unexplained, if_neg he]
      exact (posts_finished hc).step hagain (by simp [Stage.rank])
    · exact posts_finished hc
  · exact posts_finished hc

structure Opened (start s : Store) (t : Tx) : Prop where
  tx : s.tx t.id = t
  seats : s.seats = start.seats
  bookings : s.bookings = start.bookings
  faults : s.faults = start.faults
  claims : ∀ c ∈ s.claims, c.tx = t.id ∨ c ∈ start.claims

variable {t : Tx}

theorem Opened.claims_finish (ho : Opened start s t) : (s.finish t.id).claims ⊆ start.claims := by
  intro c hc
  obtain ⟨hm, hne⟩ := Store.mem_claims_finish.1 hc
  exact (ho.claims c hm).resolve_left hne

theorem Opened.setTx (ho : Opened start s t) {u : Tx} (n : Nat) (hu : u.id = t.id) :
    Opened start ({ s with lastBooking := n }.setTx u) u where
  tx := by rw [Store.tx_setTx, if_pos rfl]
  seats := ho.seats
  bookings := ho.bookings
  faults := ho.faults
  claims c hc := by
    rw [hu]
    exact ho.claims c hc

theorem Opened.refuse (ho : Opened start s t) {e : BookingError} (hu : order.Unbooked start)
    (he : e ≠ .keyTaken) :
    order.Posts start length now (s.finish t.id) (order.refuse e)
      ({ start.ledger now with lastNumber := s.lastBooking }, .refused e) := by
  have hu' : order.Unbooked (s.finish t.id) := by
    intro key hkey
    rw [← hu key hkey]
    exact congrArg (List.find? _) ho.bookings
  have hledger : (s.finish t.id).ledger now =
      { start.ledger now with lastNumber := s.lastBooking } := by
    rw [Store.ledger, Store.ledger, ← ho.seats, ← ho.bookings, ← ho.faults]
    rfl
  rw [← hledger]
  exact posts_refuse hu' he ho.claims_finish

theorem Opened.undo (ho : Opened start s t) {e : BookingError} (hu : order.Unbooked start)
    (he : e ≠ .keyTaken) :
    order.Posts start length now s (.undoing t.id e)
      ({ start.ledger now with lastNumber := s.lastBooking }, .refused e) :=
  (ho.refuse hu he).step rfl
    (Nat.lt_of_le_of_lt (rank_refuse_le order e) (by simp [Stage.rank]))

theorem Opened.commit (ho : Opened start s t) {gain : Gain} (hu : order.Unbooked start)
    (hkeys : ∀ b ∈ t.bookings, Store.keyTaken start.bookings b.userId b.key = false) :
    order.Posts start length now s (.committing t.id gain)
      (if start.faults.commits then
        ({ start.ledger now with lastNumber := s.lastBooking },
          .refused (.unavailable "commit failed"))
      else
        ({ start.ledger now with
            lastNumber := s.lastBooking
            seats := start.seats.putAll t.seats.rows
            bookings := start.bookings ++ t.bookings }, gain.outcome length)) := by
  have hfree : ((s.tx t.id).bookings.any fun b =>
      Store.keyTaken s.bookings b.userId b.key) = false := by
    rw [ho.tx, ho.bookings]
    exact List.any_eq_false.2 fun b hb => by simp [hkeys b hb]
  by_cases hf : start.faults.commits = true
  · have hcommit : order.advance length s now (.committing t.id gain) =
        (s.finish t.id, order.refuse (.unavailable "commit failed")) := by
      simp only [advance, move, Store.perform, Store.commit_eq, ho.faults, if_pos hf]
    rw [if_pos hf]
    exact (ho.refuse hu (by simp)).step hcommit
      (Nat.lt_of_le_of_lt (rank_refuse_le order _) (by simp [Stage.rank]))
  · have hcommit : order.advance length s now (.committing t.id gain) =
        (s.committed t.id, .finished (gain.outcome length)) := by
      simp only [advance, move, Store.perform, Store.commit_eq, ho.faults, if_neg hf, hfree,
        Bool.false_eq_true, if_false]
    rw [if_neg hf]
    refine ⟨s.committed t.id, .step hcommit (by simp [Stage.rank]) .finished, ?_,
      ho.claims_finish⟩
    simp only [Store.ledger, Store.committed, ho.tx, ← ho.seats, ← ho.bookings, ← ho.faults]
    rfl

theorem opened_begin (s : Store) : Opened s s.begin.1 (.blank s.nextTx) where
  tx := by
    rw [Store.tx_begin]
    exact if_pos rfl
  seats := rfl
  bookings := rfl
  faults := rfl
  claims _ hc := Or.inr hc

theorem Opened.claim (ho : Opened start s t) (q : Int) : Opened start (s.claim t.id q) t where
  tx := (Store.tx_claim _ _ _ _).trans ho.tx
  seats := (Store.seats_claim _ _ _).trans ho.seats
  bookings := (Store.bookings_claim _ _ _).trans ho.bookings
  faults := (Store.faults_claim _ _ _).trans ho.faults
  claims c hc := by
    rcases Store.mem_claims_claim hc with hc | rfl
    · exact ho.claims c hc
    · exact Or.inl rfl

structure Granted (start s : Store) (a : TxId) (r : Int) (seat : Seat) : Prop where
  opened : Opened start s (.blank a)
  grips : s.Grips a r seat
  lastBooking : s.lastBooking = start.lastBooking

theorem Granted.ledger (hg : Granted start s a r seat) :
    { start.ledger now with lastNumber := s.lastBooking } = start.ledger now := by
  rw [hg.lastBooking]
  rfl

theorem posts_opening_missing (order : Order) (hu : order.Unbooked s)
    (hn : ¬s.Holds s.nextTx order.seatId) (hg : s.seats.get? order.seatId = none) :
    order.Posts s length now s .opening (s.ledger now, .refused (.notFound "seat")) := by
  have hfetch : order.advance length s.begin.1 now (.fetching s.nextTx) =
      (s.begin.1, .withdrawing s.nextTx (.notFound "seat")) := by
    simp only [advance, move, Store.perform]
    rw [Store.fetch_of_missing (s := s.begin.1) hn hg]
  have hwithdraw : order.advance length s.begin.1 now
      (.withdrawing s.nextTx (.notFound "seat")) =
      (s.begin.1.finish s.nextTx, order.refuse (.notFound "seat")) := rfl
  have hrefused : order.Posts s length now (s.begin.1.finish s.nextTx)
      (order.refuse (.notFound "seat")) (s.ledger now, .refused (.notFound "seat")) :=
    (opened_begin s).refuse hu (by simp)
  have hrank := rank_refuse_le order (.notFound "seat")
  exact ((hrefused.step hwithdraw (Nat.lt_of_le_of_lt hrank (by simp [Stage.rank]))).step hfetch
    (by simp [Stage.rank])).step rfl (by simp [Stage.rank])

theorem posts_opening_granted (order : Order) (hfree : s.holder order.seatId = none)
    (hg : s.seats.get? order.seatId = some seat)
    (h : ∀ s₁ a, Granted s s₁ a order.seatId seat →
      order.Posts s length now s₁ (.deciding a seat) entry) :
    order.Posts s length now s .opening entry := by
  have hblank : s.begin.1.tx s.nextTx = .blank s.nextTx := (opened_begin s).tx
  have hfetch : order.advance length s.begin.1 now (.fetching s.nextTx) =
      (s.begin.1.claim s.nextTx order.seatId, .deciding s.nextTx seat) := by
    simp only [advance, move, Store.perform]
    rw [Store.fetch_of_free hblank hfree hg]
  have hgranted : Granted s (s.begin.1.claim s.nextTx order.seatId) s.nextTx order.seatId seat :=
    { opened := (opened_begin s).claim order.seatId
      grips := ⟨Store.holds_claim_of_free hfree, by rw [Store.seats_claim]; exact hg⟩
      lastBooking := by
        unfold Store.claim
        split <;> rfl }
  exact ((h _ _ hgranted).step hfetch (by simp [Stage.rank])).step rfl (by simp [Stage.rank])

theorem Granted.rejected (order : Order) (hg : Granted start s a order.seatId seat)
    {e : BookingError} (hu : order.Unbooked start) (ha : order.admits length seat now = .error e)
    (he : e ≠ .keyTaken) :
    order.Posts start length now s (.deciding a seat) (start.ledger now, .refused e) := by
  have hdecide : order.advance length s now (.deciding a seat) = (s, .undoing a e) := by
    simp only [advance, move, Store.perform, ha]
  rw [← hg.ledger]
  exact (hg.opened.undo hu he).step hdecide (by simp [Stage.rank])

theorem Granted.admitted (order : Order) (hg : Granted start s a order.seatId seat)
    (ha : order.admits length seat now = .ok ())
    (h : ∀ s₁, Opened start s₁ ⟨a, SeatTable.empty.put { seat with state := order.newState now }, []⟩ →
      s₁.lastBooking = start.lastBooking →
      order.Posts start length now s₁ (order.afterWrite a order.seatId now) entry) :
    order.Posts start length now s (.deciding a seat) entry := by
  have hid : seat.id = order.seatId := SeatTable.id_of_get? hg.grips.get?
  have hdecide : order.advance length s now (.deciding a seat) =
      (s, .writing a order.seatId now) := by
    simp only [advance, move, Store.perform, ha, hid]
  have hblank : s.tx a = .blank a := hg.opened.tx
  have hwrite : order.advance length s now (.writing a order.seatId now) =
      (s.setTx ⟨a, SeatTable.empty.put { seat with state := order.newState now }, []⟩,
        order.afterWrite a order.seatId now) := by
    simp only [advance, move, Store.perform]
    rw [Store.update_of_holds hblank hg.grips.holds hg.grips.get?]
  have hrank := rank_afterWrite_le order a order.seatId now
  have hopened : Opened start (s.setTx
      ⟨a, SeatTable.empty.put { seat with state := order.newState now }, []⟩) _ :=
    hg.opened.setTx s.lastBooking rfl
  exact ((h _ hopened hg.lastBooking).step hwrite
    (Nat.lt_of_le_of_lt hrank (by simp [Stage.rank]))).step hdecide (by simp [Stage.rank])

theorem Granted.hold (hg : Granted start s a r seat)
    (ha : (hold r user).admits length seat now = .ok ()) :
    (hold r user).Posts start length now s (.deciding a seat)
      ((start.ledger now).lock length seat user) := by
  refine Granted.admitted (.hold r user) hg ha fun s₁ ho hlast => ?_
  have hcommit : (Order.hold r user).Posts start length now s₁ (.committing a (.hold now)) _ :=
    ho.commit (fun _ h => by cases h) (fun _ h => by cases h)
  rw [hlast, List.append_nil] at hcommit
  exact hcommit

theorem Unbooked.keyTaken (hu : order.Unbooked s) :
    Store.keyTaken s.bookings order.userId order.key = false :=
  (Store.keyTaken_eq_false_iff _ _ _).2 fun key hkey =>
    (Store.findBooking_eq_none_iff _ _ _).1 (hu key hkey)

theorem Granted.sell {showId : Int} {givenKey : Option String}
    (hg : Granted start s a r seat) (hu : (buy showId r user givenKey).Unbooked start)
    (ha : (buy showId r user givenKey).admits length seat now = .ok ())
    (hshow : seat.showId = showId) :
    (buy showId r user givenKey).Posts start length now s (.deciding a seat)
      ((start.ledger now).sell seat user (buy showId r user givenKey).key) := by
  obtain rfl : seat.id = r := SeatTable.id_of_get? hg.grips.get?
  subst hshow
  refine Granted.admitted (.buy seat.showId seat.id user givenKey) hg ha fun s₁ ho hlast => ?_
  let t : Tx := ⟨a, SeatTable.empty.put { seat with state := .sold }, []⟩
  let sale : Sale := ⟨user, seat.showId, seat.id, (buy seat.showId seat.id user givenKey).key⟩
  have ht : s₁.tx a = t := ho.tx
  unfold Ledger.sell
  change Posts start length now (.buy seat.showId seat.id user givenKey) s₁ (.recording a sale)
    (if start.faults.inserts then _ else _)
  by_cases hf : start.faults.inserts = true
  · have hinsert : advance length s₁ now (.buy seat.showId seat.id user givenKey)
        (.recording a sale) = (s₁, .undoing a (.unavailable "booking insert failed")) := by
      simp only [advance, move, Store.perform, Store.insert, ho.faults, if_pos hf]
    have hundo : (buy seat.showId seat.id user givenKey).Posts start length now s₁
        (.undoing a (.unavailable "booking insert failed")) _ := ho.undo hu (by simp)
    rw [hlast] at hundo
    rw [if_pos hf]
    exact hundo.step hinsert (by simp [Stage.rank])
  · let b : Booking := sale.booking (start.lastBooking + 1 : Nat)
    have hkey : Store.keyTaken ((s₁.tx a).bookings ++ s₁.bookings) sale.userId sale.key = false := by
      rw [ht, ho.bookings]
      exact hu.keyTaken
    have hinsert : advance length s₁ now (.buy seat.showId seat.id user givenKey)
        (.recording a sale) =
        ({ s₁ with lastBooking := start.lastBooking + 1 }.setTx { t with bookings := [b] },
          .committing a (.sale b)) := by
      simp only [advance, move, Store.perform]
      rw [Store.insert_of_not_taken (by rw [ho.faults]; exact eq_false_of_ne_true hf) hkey, ht, hlast]
      rfl
    have hstaged : Opened start ({ s₁ with lastBooking := start.lastBooking + 1 }.setTx
        { t with bookings := [b] }) { t with bookings := [b] } := ho.setTx _ rfl
    have hfree : ∀ b' ∈ [b], Store.keyTaken start.bookings b'.userId b'.key = false := by
      intro b' hb'
      rw [List.mem_singleton.1 hb']
      exact hu.keyTaken
    rw [if_neg hf]
    exact Posts.step (hstaged.commit hu hfree) hinsert (by simp [Stage.rank])

theorem posts_hold (hfree : s.holder r = none) :
    (hold r user).Posts s length now s .opening ((s.ledger now).hold length r user) := by
  have hu : (hold r user).Unbooked s := fun _ h => by cases h
  unfold Ledger.hold
  cases hg : (s.ledger now).seats.get? r with
  | none => exact posts_opening_missing (.hold r user) hu (Store.not_holds_of_free hfree) hg
  | some seat =>
    refine posts_opening_granted (.hold r user) hfree hg fun s₁ a hgr => ?_
    have refused : ∀ {e}, (hold r user).admits length seat now = .error e → e ≠ .keyTaken →
        (hold r user).Posts s length now s₁ (.deciding a seat) (s.ledger now, .refused e) :=
      Granted.rejected (.hold r user) hgr hu
    cases hst : seat.state with
    | available =>
      simp only [hst]
      exact hgr.hold (admits_hold_iff.2 (Or.inl hst))
    | sold =>
      simp only [hst]
      exact refused (by simp only [admits, hst]) (by simp)
    | locked since holder =>
      simp only [hst]
      by_cases he : (s.ledger now).ago since ≤ length.nanos
      · have hlive : Hold.isExpired since now length = false := decide_eq_false (Int.not_lt.2 he)
        rw [if_pos he]
        exact refused (by simp [admits, hst, hlive]) (by simp)
      · have hrun : Hold.isExpired since now length = true := decide_eq_true (Int.not_le.1 he)
        rw [if_neg he]
        exact hgr.hold (admits_hold_iff.2 (Or.inr ⟨since, holder, hst, hrun⟩))

theorem key_buy_eq (showId r user : Int) (givenKey : Option String) :
    (buy showId r user givenKey).key = if givenKey = some "" then none else givenKey := by
  unfold key
  cases givenKey with
  | none => rfl
  | some k => by_cases hk : k = "" <;> simp [Option.filter, hk]

theorem earlier?_eq (l : Ledger) (showId r user : Int) (givenKey : Option String) :
    l.earlier? user givenKey = (buy showId r user givenKey).key.bind fun key =>
      l.bookings.find? fun b => b.HasKey user key := by
  rw [key_buy_eq]
  unfold Ledger.earlier?
  split
  · rfl
  · rfl
  · rename_i k hk
    have hne : some k ≠ some "" := fun h => hk (Option.some.inj h)
    rw [if_neg hne]
    rfl

theorem posts_buy {showId : Int} {givenKey : Option String}
    (hu : (buy showId r user givenKey).Unbooked s) (hfree : s.holder r = none) :
    (buy showId r user givenKey).Posts s length now s .opening
      ((s.ledger now).buy length showId r user givenKey) := by
  have hearlier : (s.ledger now).earlier? user givenKey = none := by
    rw [earlier?_eq (s.ledger now) showId r user givenKey]
    cases hk : (buy showId r user givenKey).key with
    | none => rfl
    | some k => exact hu k hk
  unfold Ledger.buy
  rw [hearlier]
  simp only
  cases hg : (s.ledger now).seats.get? r with
  | none =>
    exact posts_opening_missing (.buy showId r user givenKey) hu (Store.not_holds_of_free hfree) hg
  | some seat =>
    refine posts_opening_granted (.buy showId r user givenKey) hfree hg fun s₁ a hgr => ?_
    have refused : ∀ {e}, (buy showId r user givenKey).admits length seat now = .error e →
        e ≠ .keyTaken → (buy showId r user givenKey).Posts s length now s₁ (.deciding a seat)
          (s.ledger now, .refused e) :=
      Granted.rejected (.buy showId r user givenKey) hgr hu
    cases hst : seat.state with
    | available | sold =>
      simp only [hst]
      exact refused (by simp only [admits, hst]) (by simp)
    | locked since holder =>
      simp only [hst]
      by_cases he : length.nanos < (s.ledger now).ago since
      · have hrun : Hold.isExpired since now length = true := decide_eq_true he
        rw [if_pos he]
        exact refused (by simp [admits, hst, hrun]) (by simp)
      · have hlive : Hold.isExpired since now length = false := decide_eq_false he
        rw [if_neg he]
        by_cases hh : holder ≠ user
        · rw [if_pos hh]
          exact refused (by simp [admits, hst, hlive, hh]) (by simp)
        · rw [if_neg hh]
          by_cases hs : seat.showId ≠ showId
          · rw [if_pos hs]
            exact refused (by simp [admits, hst, hlive, hh, hs]) (by simp)
          · rw [if_neg hs, ← key_buy_eq showId r user givenKey]
            refine hgr.sell hu (admits_buy_iff.2 ⟨⟨since, ?_, ?_⟩, not_not.1 hs⟩) (not_not.1 hs)
            · rw [hst, not_not.1 hh]
            · simp [hlive]

theorem posts_first (order : Order) (hfree : s.holder order.seatId = none) :
    order.Posts s length now s order.first ((s.ledger now).serve length order) := by
  cases order with
  | hold r user => exact posts_hold hfree
  | buy showId r user givenKey =>
    unfold first
    split
    · rename_i k hk
      have hsearch : (buy showId r user givenKey).advance length s now (.lookUp k) =
          (s, match s.findBooking user k with
            | some b => .finished (.done (.booked b.id true))
            | none => .opening) := by
        simp only [advance, move, Store.perform, userId]
        cases s.findBooking user k <;> rfl
      cases hf : s.findBooking user k with
      | some b =>
        have hearlier : (s.ledger now).earlier? user givenKey = some b := by
          rw [earlier?_eq (s.ledger now) showId r user givenKey, hk]
          exact hf
        rw [hf] at hsearch
        simp only [Ledger.serve, Ledger.buy, hearlier]
        exact (posts_finished (List.Subset.refl _)).step hsearch (by simp [Stage.rank])
      | none =>
        have hu : (buy showId r user givenKey).Unbooked s := by
          intro k' hk'
          obtain rfl := Option.some.inj (hk.symm.trans hk')
          exact hf
        rw [hf] at hsearch
        exact (posts_buy hu hfree).step hsearch (by simp [Stage.rank])
    · rename_i hk
      exact posts_buy (fun k hk' => absurd hk' (by simp [hk])) hfree

end Engine.Order

namespace Office

variable {o : Office}

theorem call_of_free (hk : o.keeping = .memory) (order : Order)
    (hfree : o.store.holder order.seatId = none) :
    ∃ s', o.call (.order order) = ({ o with store := s' },
        .outcome ((o.store.ledger o.clock).serve o.rules.holdLength order).2) ∧
      s'.ledger o.clock = ((o.store.ledger o.clock).serve o.rules.holdLength order).1 ∧
      s'.claims ⊆ o.store.claims := by
  have hposts : order.Posts o.store o.rules.holdLength o.clock o.store order.first _ :=
    Order.posts_first order hfree
  obtain ⟨s', hleads, hledger, hclaims⟩ := hposts
  exact ⟨s', call_of_serve (serve_of_leads hleads hk rfl rfl rfl), hledger, hclaims⟩

end Office

theorem Store.list_ledger (s : Store) (now : Instant) (length : Span) (showId : Int) :
    (s.ledger now).list length showId =
      (s.seatsOfShow showId).map fun seat => Hold.display seat now length := by
  refine List.map_congr_left fun seat _ => ?_
  unfold Hold.display
  cases hst : seat.state with
  | available | sold => rfl
  | locked since holder =>
    simp only
    by_cases he : (s.ledger now).ago since ≤ length.nanos
    · have hlive : Hold.isExpired since now length = false := decide_eq_false (Int.not_lt.2 he)
      rw [if_pos he, hlive]
      rfl
    · have hrun : Hold.isExpired since now length = true := decide_eq_true (Int.not_le.1 he)
      rw [if_neg he, hrun]
      rfl

namespace Session

/-- The session and the ledger stand at the same point, and no row is held. -/
structure Follows (length : Span) (s : Session) (l : Ledger) : Prop where
  memory : s.office.keeping = .memory
  holdLength : s.office.rules.holdLength = length
  claims : s.office.store.claims = []
  ledger : s.office.store.ledger s.office.clock = l

theorem Follows.step {s : Session} {l : Ledger} (e : Errand) (h : Follows length s l) :
    Follows length (s.run e).1 (l.run length e).1 ∧ (s.run e).2 = (l.run length e).2 := by
  obtain ⟨hk, hlength, hclaims, rfl⟩ := h
  subst hlength
  cases e with
  | order order =>
    obtain ⟨s', hcall, hledger, hsub⟩ :=
      Office.call_of_free hk order (Store.claims_eq_nil_iff.1 hclaims _)
    rw [hclaims] at hsub
    simp only [Session.run, Session.call, hcall, Ledger.run]
    exact ⟨⟨hk, rfl, List.subset_nil.1 hsub, hledger⟩, trivial⟩
  | list showId =>
    have hmap : s.seatMap showId =
        (s, .ok ((s.office.store.ledger s.office.clock).list s.office.rules.holdLength showId)) := by
      simp only [Session.seatMap, Office.seatMap, Office.seatsOfShow, hk, Except.map,
        Store.list_ledger]
    simp only [Session.run, hmap, Ledger.run]
    exact ⟨⟨hk, rfl, hclaims, rfl⟩, trivial⟩
  | advance span =>
    simp only [Session.run, Session.advance, Ledger.run, Store.ledger]
    cases s.office.clock.add? span with
    | none => exact ⟨⟨hk, rfl, hclaims, rfl⟩, rfl⟩
    | some now => exact ⟨⟨hk, rfl, hclaims, rfl⟩, rfl⟩
  | setClock now => exact ⟨⟨hk, rfl, hclaims, rfl⟩, rfl⟩
  | setFaults faults => exact ⟨⟨hk, rfl, hclaims, rfl⟩, rfl⟩

/-- Errands that are run one after the other are answered by the ledger, and afterwards the seats,
the bookings, the number of the latest booking and the clock are what the ledger says. -/
theorem errands_follow_ledger (s : Session) (hk : s.office.keeping = .memory)
    (hfree : ∀ r, s.office.store.holder r = none) (errands : List Errand) :
    let ran := Errand.all Session.run s errands
    let posted := Errand.all (Ledger.run s.office.rules.holdLength)
      (s.office.store.ledger s.office.clock) errands
    ran.2 = posted.2 ∧ ran.1.office.store.ledger ran.1.office.clock = posted.1 := by
  intro ran posted
  have hstart : Follows s.office.rules.holdLength s (s.office.store.ledger s.office.clock) :=
    ⟨hk, rfl, Store.claims_eq_nil_iff.2 hfree, rfl⟩
  obtain ⟨hend, hreplies⟩ := Errand.all_eq (fun e h => h.step e) errands hstart
  exact ⟨hreplies, hend.ledger⟩

/-- A sale whose first commit fails, so that its number is lost, and a retry for another seat. -/
def oneSeatDay : List Errand :=
  [.order (.hold 1 7), .setFaults ⟨false, true⟩, .order (.buy 5 1 7 (some "k")),
    .setFaults ⟨false, false⟩, .order (.buy 5 1 7 (some "k")), .order (.buy 9 99 7 (some "k")),
    .order (.hold 1 8)]

theorem errands_follow_ledger_oneSeatDay :
    ∃ o, (Office.Plan.oneSeat 600).office? ⟨[], [], []⟩ ⟨none, false, false, 3600, []⟩ = some o ∧
      o.keeping = .memory ∧ (∀ r, o.store.holder r = none) ∧
      (Errand.all Session.run (.ofOffice o) oneSeatDay).2 =
        [.answer (.outcome (.done (.held ⟨600000000000, false, by decide, by decide⟩))), .noted,
          .answer (.outcome (.refused (.unavailable "commit failed"))), .noted,
          .answer (.outcome (.done (.booked 2 false))), .answer (.outcome (.done (.booked 2 true))),
          .answer (.outcome (.refused .alreadySold))] := by
  let o : Office :=
    ((Office.Plan.oneSeat 600).office? ⟨[], [], []⟩ ⟨none, false, false, 3600, []⟩).get rfl
  obtain ⟨hreplies, -⟩ := errands_follow_ledger (.ofOffice o) rfl (fun _ => rfl) oneSeatDay
  exact ⟨o, rfl, rfl, fun _ => rfl, hreplies.trans rfl⟩

end Session

end BoxOffice
