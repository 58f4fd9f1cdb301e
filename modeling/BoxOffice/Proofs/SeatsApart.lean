import BoxOffice.Proofs.Calls
import BoxOffice.Proofs.DraftedStores
import BoxOffice.Proofs.SeatMap
import Mathlib.Logic.Equiv.Basic

set_option autoImplicit false

/-!
# Calls on different seats

All that a call leaves in the ledger is a posting: a row, a sale, a number that is used up. Which
posting it is depends on the row of the order's own seat and on the bookings with its own key. So
calls on different seats commute, except that the numbers of new bookings are given out in the order
of the calls. A transaction that is open elsewhere uses up numbers at most.
-/

namespace BoxOffice

open Engine (Order Outcome)

namespace SeatTable

theorem put_comm (t : SeatTable) {seat row : Seat} (h : seat.id ≠ row.id) :
    (t.put seat).put row = (t.put row).put seat := by
  refine eq_of_get? fun r => ?_
  simp only [get?_put]
  split
  · rename_i hr
    rw [if_neg fun hs => h (hs.trans hr.symm)]
  · rfl

end SeatTable

/-- The outcome if new bookings had other numbers. A booking that is reported again keeps its
number. -/
def Engine.Outcome.renumber (σ : Int → Int) : Outcome → Outcome
  | .done (.booked id false) => .done (.booked (σ id) false)
  | outcome => outcome

def Booking.renumber (σ : Int → Int) (b : Booking) : Booking := { b with id := σ b.id }

/-- What a call leaves behind, and what it is told. -/
structure Posting where
  row? : Option Seat
  sale? : Option Sale
  numbered : Bool
  told : Int → Outcome

namespace Posting

def seats (p : Posting) (t : SeatTable) : SeatTable := p.row?.elim t t.put

def bookings (p : Posting) (number : Int) : List Booking :=
  (p.sale?.map fun sale => sale.booking number).toList

def entry (p : Posting) (l : Ledger) : Ledger × Outcome :=
  let next : Int := (l.lastNumber + 1 : Nat)
  ({ l with
      seats := p.seats l.seats
      bookings := l.bookings ++ p.bookings next
      lastNumber := l.lastNumber + p.numbered.toNat }, p.told next)

structure Fits (p : Posting) (order : Order) : Prop where
  row : ∀ row ∈ p.row?, row.id = order.seatId
  sale : ∀ sale ∈ p.sale?, sale.userId = order.userId ∧ sale.key = order.key
  numbered : p.numbered = false → p.sale? = none ∧ ∀ m n, p.told m = p.told n
  told : ∀ (σ : Int → Int) (n : Int), (p.told n).renumber σ = p.told (σ n)

variable {order : Order} {outcome : Outcome} {row : Seat} {sale : Sale}

def nothing (outcome : Outcome) : Posting := ⟨none, none, false, fun _ => outcome⟩

def lost (outcome : Outcome) : Posting := ⟨none, none, true, fun _ => outcome⟩

def held (row : Seat) (outcome : Outcome) : Posting := ⟨some row, none, false, fun _ => outcome⟩

def sold (row : Seat) (sale : Sale) : Posting :=
  ⟨some row, some sale, true, fun id => .done (.booked id false)⟩

@[simp] theorem entry_nothing (l : Ledger) : (nothing outcome).entry l = (l, outcome) := by
  simp [entry, seats, bookings, nothing]

@[simp] theorem entry_lost (l : Ledger) :
    (lost outcome).entry l = ({ l with lastNumber := l.lastNumber + 1 }, outcome) := by
  simp [entry, seats, bookings, lost]

@[simp] theorem entry_held (l : Ledger) :
    (held row outcome).entry l = ({ l with seats := l.seats.put row }, outcome) := by
  simp [entry, seats, bookings, held]

@[simp] theorem entry_sold (l : Ledger) :
    (sold row sale).entry l =
      ({ l with
          seats := l.seats.put row
          bookings := l.bookings ++ [sale.booking (l.lastNumber + 1 : Nat)]
          lastNumber := l.lastNumber + 1 }, .done (.booked (l.lastNumber + 1 : Nat) false)) := rfl

theorem fits_nothing (h : ∀ σ, outcome.renumber σ = outcome) : (nothing outcome).Fits order where
  row _ hr := by cases hr
  sale _ hs := by cases hs
  numbered _ := ⟨rfl, fun _ _ => rfl⟩
  told σ _ := h σ

theorem fits_lost (h : ∀ σ, outcome.renumber σ = outcome) : (lost outcome).Fits order where
  row _ hr := by cases hr
  sale _ hs := by cases hs
  numbered hn := by cases hn
  told σ _ := h σ

theorem fits_held (hr : row.id = order.seatId) (h : ∀ σ, outcome.renumber σ = outcome) :
    (held row outcome).Fits order where
  row _ hmem := by
    cases hmem
    exact hr
  sale _ hs := by cases hs
  numbered _ := ⟨rfl, fun _ _ => rfl⟩
  told σ _ := h σ

theorem fits_sold (hr : row.id = order.seatId) (hu : sale.userId = order.userId)
    (hk : sale.key = order.key) : (sold row sale).Fits order where
  row _ hmem := by
    cases hmem
    exact hr
  sale _ hmem := by
    cases hmem
    exact ⟨hu, hk⟩
  numbered hn := by cases hn
  told _ _ := rfl

theorem seats_comm {p q : Posting} {a b : Order} (hp : p.Fits a) (hq : q.Fits b)
    (hseat : a.seatId ≠ b.seatId) (t : SeatTable) : p.seats (q.seats t) = q.seats (p.seats t) := by
  unfold seats
  cases hrow : p.row? with
  | none => rfl
  | some row =>
    cases hrow' : q.row? with
    | none => rfl
    | some row' =>
      have hid : row'.id ≠ row.id := by
        rw [hp.row row hrow, hq.row row' hrow']
        exact hseat.symm
      exact t.put_comm hid

section Fits

variable {p : Posting} {σ : Int → Int} {m n : Int}

theorem Fits.renumber_told (h : p.Fits order) (hσ : p.numbered = true → σ m = n) :
    (p.told m).renumber σ = p.told n := by
  rw [h.told]
  cases hn : p.numbered with
  | false => exact (h.numbered hn).2 _ _
  | true => rw [hσ hn]

theorem Fits.renumber_bookings (h : p.Fits order) (hσ : p.numbered = true → σ m = n) :
    (p.bookings m).map (Booking.renumber σ) = p.bookings n := by
  unfold bookings
  cases hs : p.sale? with
  | none => rfl
  | some sale =>
    have hn : p.numbered = true := by
      by_contra hn
      cases hs.symm.trans (h.numbered (eq_false_of_ne_true hn)).1
    rw [← hσ hn]
    rfl

/-- The postings of two orders in a row change places, and so do their numbers. -/
def exchange (p q : Posting) (n : Nat) : Equiv.Perm Int :=
  if p.numbered ∧ q.numbered then Equiv.swap (n + 1) (n + 2) else Equiv.refl Int

theorem exchange_first (p q : Posting) (n : Nat) (hn : p.numbered = true) :
    p.exchange q n (n + 1 : Nat) = (n + q.numbered.toNat + 1 : Nat) := by
  unfold exchange
  cases hq : q.numbered with
  | false => simp
  | true =>
    rw [if_pos ⟨hn, rfl⟩]
    exact Equiv.swap_apply_left _ _

theorem exchange_second (p q : Posting) (n : Nat) (hn : q.numbered = true) :
    p.exchange q n (n + p.numbered.toNat + 1 : Nat) = (n + 1 : Nat) := by
  unfold exchange
  cases hp : p.numbered with
  | false => simp
  | true =>
    rw [if_pos ⟨rfl, hn⟩]
    exact Equiv.swap_apply_right _ _

end Fits

end Posting

namespace Ledger

variable {length : Span} {l l' : Ledger} {order : Order} {showId r user : Int} {seat : Seat}
variable {givenKey : Option String}

/-- All that an order can see of the ledger is the same, but for the latest number. -/
structure Alike (order : Order) (l l' : Ledger) : Prop where
  clock : l'.clock = l.clock
  faults : l'.faults = l.faults
  row : l'.seats.get? order.seatId = l.seats.get? order.seatId
  repeated : l'.repeated? order = l.repeated? order

def SamePosting (order : Order) (l l' : Ledger) (e e' : Ledger × Outcome) : Prop :=
  ∃ p : Posting, p.Fits order ∧ e = p.entry l ∧ e' = p.entry l'

theorem samePosting_nothing {outcome : Outcome} (h : ∀ σ, outcome.renumber σ = outcome) :
    SamePosting order l l' (l, outcome) (l', outcome) :=
  ⟨.nothing outcome, Posting.fits_nothing h, by simp, by simp⟩

theorem samePosting_refused (e : BookingError) :
    SamePosting order l l' (l, .refused e) (l', .refused e) :=
  samePosting_nothing fun _ => rfl

theorem SamePosting.ite {c : Prop} [Decidable c] {x x' y y' : Ledger × Outcome}
    (hx : c → SamePosting order l l' x x') (hy : ¬c → SamePosting order l l' y y') :
    SamePosting order l l' (if c then x else y) (if c then x' else y') := by
  split <;> rename_i hc
  · exact hx hc
  · exact hy hc

theorem Alike.lock (h : Alike (.hold r user) l l') (hid : seat.id = r) :
    SamePosting (.hold r user) l l' (l.lock length seat user) (l'.lock length seat user) := by
  unfold Ledger.lock
  rw [h.clock, h.faults]
  refine .ite (fun _ => samePosting_refused _) fun _ => ?_
  refine ⟨.held { seat with state := .locked l.clock user }
    ((Engine.Gain.hold l.clock).outcome length), Posting.fits_held hid fun σ => ?_, ?_, ?_⟩
  · unfold Engine.Gain.outcome
    simp only
    split <;> rfl
  · rw [Posting.entry_held]
    rfl
  · rw [Posting.entry_held, ← h.clock, ← h.faults]
    rfl

theorem Alike.hold (h : Alike (.hold r user) l l') :
    SamePosting (.hold r user) l l' (l.hold length r user) (l'.hold length r user) := by
  have hrow : l'.seats.get? r = l.seats.get? r := h.row
  unfold Ledger.hold
  rw [hrow]
  cases hg : l.seats.get? r with
  | none => exact samePosting_refused _
  | some seat =>
    have hlock : SamePosting (.hold r user) l l' (l.lock length seat user)
        (l'.lock length seat user) := h.lock (SeatTable.id_of_get? hg)
    cases hst : seat.state with
    | available =>
      simp only [hst]
      exact hlock
    | sold =>
      simp only [hst]
      exact samePosting_refused _
    | locked since holder =>
      simp only [hst, ago, h.clock]
      exact .ite (fun _ => samePosting_refused _) fun _ => hlock

theorem Alike.sell (h : Alike (.buy showId r user givenKey) l l') (hid : seat.id = r) :
    let key := (Order.buy showId r user givenKey).key
    SamePosting (.buy showId r user givenKey) l l' (l.sell seat user key)
      (l'.sell seat user key) := by
  intro key
  unfold Ledger.sell
  rw [h.faults]
  refine .ite (fun _ => samePosting_refused _) fun _ => .ite (fun _ => ?_) fun _ => ?_
  · exact ⟨.lost (.refused (.unavailable "commit failed")), Posting.fits_lost fun _ => rfl, by simp,
      by simp [h.faults]⟩
  · exact ⟨.sold { seat with state := .sold } ⟨user, seat.showId, seat.id, key⟩,
      Posting.fits_sold hid rfl rfl, rfl, by rw [Posting.entry_sold, ← h.faults]; rfl⟩

theorem Alike.buy (h : Alike (.buy showId r user givenKey) l l') :
    SamePosting (.buy showId r user givenKey) l l' (l.buy length showId r user givenKey)
      (l'.buy length showId r user givenKey) := by
  have hrow : l'.seats.get? r = l.seats.get? r := h.row
  have hearlier : l'.earlier? user givenKey = l.earlier? user givenKey := by
    rw [Order.earlier?_eq l' showId r user, Order.earlier?_eq l showId r user]
    exact h.repeated
  unfold Ledger.buy
  rw [hrow, hearlier, ← Order.key_buy_eq showId r user givenKey]
  cases l.earlier? user givenKey with
  | some b => exact samePosting_nothing fun _ => rfl
  | none =>
    simp only
    cases hg : l.seats.get? r with
    | none => exact samePosting_refused _
    | some seat =>
      cases hst : seat.state with
      | available | sold =>
        simp only [hst]
        exact samePosting_refused _
      | locked since holder =>
        simp only [hst, ago, h.clock]
        exact .ite (fun _ => samePosting_refused _) fun _ =>
          .ite (fun _ => samePosting_refused _) fun _ =>
          .ite (fun _ => samePosting_refused _) fun _ => h.sell (SeatTable.id_of_get? hg)

theorem Alike.turnAway (h : Alike order l l') :
    SamePosting order l l' (l, l.turnAway order) (l', l'.turnAway order) := by
  unfold Ledger.turnAway
  rw [h.repeated, h.row]
  cases l.repeated? order with
  | some b => exact samePosting_nothing fun _ => rfl
  | none =>
    simp only
    split <;> exact samePosting_refused _

theorem Alike.meet (h : Alike order l l') (length : Span) (held : Bool) :
    SamePosting order l l' (l.meet length held order) (l'.meet length held order) := by
  unfold Ledger.meet
  refine .ite (fun _ => h.turnAway) fun _ => ?_
  cases order with
  | hold r user => exact h.hold
  | buy showId r user givenKey => exact h.buy

end Ledger

/-- The orders are of one user, who names them by one key. -/
def Engine.Order.SharesKey (a b : Order) : Prop :=
  a.userId = b.userId ∧ a.key = b.key ∧ a.key ≠ none

instance (a b : Order) : Decidable (a.SharesKey b) := inferInstanceAs (Decidable (_ ∧ _))

structure Timed where
  clock : Instant
  order : Order

def Answer.renumber (σ : Int → Int) : Answer → Answer
  | .outcome told => .outcome (told.renumber σ)
  | .response r => .response r

structure InTurn where
  first : Answer
  second : Answer
  seats : SeatTable
  bookings : List Booking

/-- The same calls in the other order, with new bookings renumbered: the answers, the seats and, up
to their order, the bookings agree. -/
structure InTurn.Exchanged (σ : Int → Int) (before : List Booking) (r r' : InTurn) : Prop where
  first : r'.second = r.first.renumber σ
  second : r'.first = r.second.renumber σ
  seats : r'.seats = r.seats
  bookings : ∃ new new', r.bookings = before ++ new ∧ r'.bookings = before ++ new' ∧
    new'.Perm (new.map (Booking.renumber σ))

namespace Ledger

variable {length : Span} {l l' : Ledger} {order : Order}

/-- Two orders meet the ledger one after the other, while the same rows are held. -/
def inTurn (length : Span) (held : Int → Bool) (l : Ledger) (x y : Timed) : InTurn :=
  let first := { l with clock := x.clock }.meet length (held x.order.seatId) x.order
  let second := { first.1 with clock := y.clock }.meet length (held y.order.seatId) y.order
  ⟨.outcome first.2, .outcome second.2, second.1.seats, second.1.bookings⟩

theorem alike_entry {p : Posting} {a b : Order} (hp : p.Fits a) (hseat : a.seatId ≠ b.seatId)
    (hkey : ¬a.SharesKey b) (l : Ledger) (t u : Instant) :
    Alike b { l with clock := u } { (p.entry { l with clock := t }).1 with clock := u } where
  clock := rfl
  faults := rfl
  row := by
    cases hr : p.row? with
    | none => simp [Posting.entry, Posting.seats, hr]
    | some row =>
      have hid : row.id ≠ b.seatId := hp.row row hr ▸ hseat
      simp [Posting.entry, Posting.seats, hr, SeatTable.get?_put, hid]
  repeated := by
    unfold repeated?
    cases hk : b.key with
    | none => rfl
    | some key =>
      have hnew : (p.bookings (l.lastNumber + 1 : Nat)).find?
          (fun c => c.HasKey b.userId key) = none := by
        refine List.find?_eq_none.2 fun c hc => ?_
        obtain ⟨sale, hs, rfl⟩ := Option.map_eq_some_iff.1 (Option.mem_toList.1 hc)
        obtain ⟨huser, hsale⟩ := hp.sale sale hs
        refine decide_eq_true_iff.not.2 fun h => hkey ⟨huser.symm.trans h.1, ?_, ?_⟩
        · rw [hk, ← hsale]
          exact h.2
        · rw [← hsale]
          exact ne_of_eq_of_ne h.2 (Option.some_ne_none key)
      simp only [Posting.entry, Option.bind_some, List.find?_append, hnew, Option.or_none]

theorem alike_meet {a b : Order} (hseat : a.seatId ≠ b.seatId) (hkey : ¬a.SharesKey b)
    (length : Span) (held : Bool) (l : Ledger) (t u : Instant) :
    Alike b { l with clock := u }
      { ({ l with clock := t }.meet length held a).1 with clock := u } := by
  have hself : Alike a { l with clock := t } { l with clock := t } := ⟨rfl, rfl, rfl, rfl⟩
  obtain ⟨p, hp, hposted, -⟩ := hself.meet length held
  rw [hposted]
  exact alike_entry hp hseat hkey l t u

theorem exchanged_inTurn {x y : Timed} (held : Int → Bool) (l : Ledger)
    (hseat : x.order.seatId ≠ y.order.seatId) (hkey : ¬x.order.SharesKey y.order) :
    ∃ σ : Equiv.Perm Int,
      (σ = Equiv.refl Int ∨ σ = Equiv.swap (l.lastNumber + 1 : Int) (l.lastNumber + 2)) ∧
      InTurn.Exchanged σ l.bookings (l.inTurn length held x y) (l.inTurn length held y x) := by
  have hkey' : ¬y.order.SharesKey x.order := fun ⟨hu, hk, hn⟩ => hkey ⟨hu.symm, hk.symm, hk ▸ hn⟩
  -- Each order's posting is found for both ledgers at once, the one that the other order has
  -- already written to and the one that it has not.
  obtain ⟨p, hp, hfirst, hsecond⟩ :=
    (alike_meet hseat.symm hkey' length (held y.order.seatId) l y.clock x.clock).meet length
      (held x.order.seatId)
  obtain ⟨q, hq, hfirst', hsecond'⟩ :=
    (alike_meet hseat hkey length (held x.order.seatId) l x.clock y.clock).meet length
      (held y.order.seatId)
  rw [hfirst'] at hsecond
  rw [hfirst] at hsecond'
  have hσ := p.exchange_first q l.lastNumber
  have hσ' := p.exchange_second q l.lastNumber
  refine ⟨p.exchange q l.lastNumber, ?_, ?_⟩
  · unfold Posting.exchange
    split
    · exact Or.inr rfl
    · exact Or.inl rfl
  · simp only [inTurn, hfirst, hfirst', hsecond, hsecond']
    refine ⟨congrArg Answer.outcome (hp.renumber_told hσ).symm,
      congrArg Answer.outcome (hq.renumber_told hσ').symm, Posting.seats_comm hp hq hseat l.seats,
      p.bookings (l.lastNumber + 1 : Nat) ++ q.bookings (l.lastNumber + p.numbered.toNat + 1 : Nat),
      q.bookings (l.lastNumber + 1 : Nat) ++ p.bookings (l.lastNumber + q.numbered.toNat + 1 : Nat),
      List.append_assoc _ _ _, List.append_assoc _ _ _, ?_⟩
    rw [List.map_append, hp.renumber_bookings hσ, hq.renumber_bookings hσ']
    exact List.perm_append_comm

theorem serve_later (length : Span) (l : Ledger) (k : Nat) (order : Order) :
    (serve length { l with lastNumber := l.lastNumber + k } order).2 =
      (l.serve length order).2.renumber (· + k) := by
  have halike : Alike order l { l with lastNumber := l.lastNumber + k } := ⟨rfl, rfl, rfl, rfl⟩
  obtain ⟨p, hp, hposted, hposted'⟩ := halike.meet length false
  have hserve : l.serve length order = p.entry l := hposted
  rw [hserve, show serve length _ order = _ from hposted']
  refine (hp.renumber_told fun _ => ?_).symm
  change (l.lastNumber + 1 : Nat) + (k : Int) = (l.lastNumber + k + 1 : Nat)
  omega

end Ledger

namespace Store

variable {s : Store} {tx b : Engine.TxId}

theorem ledger_perform (s : Store) (tx : Engine.TxId) (c : Tx.Call) (now : Instant) :
    ∃ k, (c.perform s tx).1.ledger now =
      { s.ledger now with lastNumber := s.lastBooking + k } := by
  cases c with
  | fetch r =>
    have hclaim : (s.claim tx r).ledger now = s.ledger now := by
      unfold claim
      split <;> rfl
    refine ⟨0, ?_⟩
    simp only [Tx.Call.perform, fetch]
    split
    · rfl
    · split
      · rfl
      · split <;> exact hclaim
  | update r state =>
    refine ⟨0, ?_⟩
    simp only [Tx.Call.perform, update]
    split
    · rfl
    · split <;> rfl
  | insert sale =>
    simp only [Tx.Call.perform, insert]
    split
    · exact ⟨0, rfl⟩
    · split
      · exact ⟨0, rfl⟩
      · exact ⟨1, rfl⟩

theorem ledger_performAll (tx : Engine.TxId) (calls : List Tx.Call) (s : Store) (now : Instant) :
    ∃ k, (s.performAll tx calls).1.ledger now =
      { s.ledger now with lastNumber := s.lastBooking + k } := by
  induction calls generalizing s with
  | nil => exact ⟨0, rfl⟩
  | cons c calls ih =>
    obtain ⟨j, hj⟩ := ledger_perform s tx c now
    obtain ⟨k, hk⟩ := ih (c.perform s tx).1
    have hlast : (c.perform s tx).1.lastBooking = s.lastBooking + j := congrArg Ledger.lastNumber hj
    refine ⟨j + k, hk.trans ?_⟩
    rw [hj, hlast, Nat.add_assoc]

theorem Holds.performAll {r : Int} (hne : b ≠ tx) (calls : List Tx.Call) (h : s.Holds b r) :
    (s.performAll tx calls).1.Holds b r := by
  induction calls generalizing s with
  | nil => exact h
  | cons c calls ih =>
    exact ih ((beside_perform s tx c).changed.holds b r (fun he => hne (Option.some.inj he)) h)

end Store

namespace Office

variable {o : Office} {length : Span}

def inTurn (o : Office) (x y : Timed) : InTurn :=
  let first := { o with clock := x.clock }.call (.order x.order)
  let second := { first.1 with clock := y.clock }.call (.order y.order)
  ⟨first.2, second.2, second.1.store.seats, second.1.store.bookings⟩

theorem inTurn_eq (hk : o.keeping = .memory) (hnum : o.store.Numbered) (x y : Timed) :
    o.inTurn x y = (o.store.ledger o.clock).inTurn o.rules.holdLength
      (fun r => (o.store.holder r).isSome) x y := by
  obtain ⟨s₁, elapsed₁, hfirst, hledger₁, hnum₁, hholder₁⟩ :=
    call_comes (o := { o with clock := x.clock }) hk hnum x.order
  obtain ⟨s₂, elapsed₂, hsecond, hledger₂, -, -⟩ :=
    call_comes (o := { o with clock := y.clock, store := s₁, elapsed := elapsed₁ }) hk hnum₁ y.order
  simp only [hholder₁] at hledger₂ hsecond
  have hnext : s₁.ledger y.clock = { s₁.ledger x.clock with clock := y.clock } := rfl
  rw [hnext, hledger₁] at hledger₂ hsecond
  have hseats : s₂.seats = _ := congrArg Ledger.seats hledger₂
  have hbookings : s₂.bookings = _ := congrArg Ledger.bookings hledger₂
  simp only [inTurn, hfirst, hsecond, hseats, hbookings]
  rfl

def during (o : Office) (calls : List Tx.Call) : Office :=
  { o with store := (o.store.begin.1.performAll o.store.nextTx calls).1 }

theorem free_of_free_during (hnum : o.store.Numbered) (calls : List Tx.Call) {r : Int}
    (hfree : (o.during calls).store.holder r = none) : o.store.holder r = none := by
  cases h : o.store.holder r with
  | none => rfl
  | some b =>
    have hb : o.store.begin.1.Holds b r := h
    have hne : b ≠ o.store.nextTx := Nat.ne_of_lt (Store.holder_lt hnum h)
    cases hfree.symm.trans (hb.performAll hne calls)

theorem start_during (hk : o.keeping = .memory) (hnum : o.store.Numbered) (x : Timed)
    (calls : List Tx.Call) (hfree : (o.during calls).store.holder x.order.seatId = none) :
    ∃ k : Nat, (o.during calls).store.lastBooking = o.store.lastBooking + k ∧
      ({ o.during calls with clock := x.clock }.start (.order x.order)).2 =
        .answered (({ o with clock := x.clock }.call (.order x.order)).2.renumber (· + k)) := by
  obtain ⟨k, hledger⟩ :=
    Store.ledger_performAll o.store.nextTx calls o.store.begin.1 x.clock
  obtain ⟨_, hstart⟩ :=
    start_of_free (o := { o.during calls with clock := x.clock }) hk x.order hfree
  have hfree' : o.store.holder x.order.seatId = none := free_of_free_during hnum calls hfree
  obtain ⟨_, hcall, -⟩ := call_of_free (o := { o with clock := x.clock }) hk x.order hfree'
  have hduring : (o.during calls).store.ledger x.clock =
      { o.store.ledger x.clock with lastNumber := o.store.lastBooking + k } := hledger
  refine ⟨k, congrArg Ledger.lastNumber hledger, ?_⟩
  rw [hstart, hcall]
  simp only [hduring]
  exact congrArg (Progress.answered ∘ Answer.outcome)
    ((o.store.ledger x.clock).serve_later o.rules.holdLength k x.order)

/-- Calls on different seats are independent. Unless they are one user's and share a key, it does
not matter which comes first, but for the numbers of two new bookings; and a call does not wait for
a transaction that is open elsewhere, nor is its answer another, but for the number of a new
booking. -/
theorem seats_are_apart (o : Office) (hk : o.keeping = .memory) (hnum : o.store.Numbered) :
    (∀ x y : Timed, x.order.seatId ≠ y.order.seatId → ¬x.order.SharesKey y.order →
      ∃ σ : Equiv.Perm Int,
        (σ = Equiv.refl Int ∨
          σ = Equiv.swap (o.store.lastBooking + 1 : Int) (o.store.lastBooking + 2)) ∧
        InTurn.Exchanged σ o.store.bookings (o.inTurn x y) (o.inTurn y x)) ∧
    ∀ (x : Timed) (calls : List Tx.Call), (o.during calls).store.holder x.order.seatId = none →
      ∃ k : Nat, (o.during calls).store.lastBooking = o.store.lastBooking + k ∧
        ({ o.during calls with clock := x.clock }.start (.order x.order)).2 =
          .answered (({ o with clock := x.clock }.call (.order x.order)).2.renumber (· + k)) := by
  refine ⟨fun x y hseat hkey => ?_, start_during hk hnum⟩
  rw [inTurn_eq hk hnum x y, inTurn_eq hk hnum y x]
  exact Ledger.exchanged_inTurn _ (o.store.ledger o.clock) hseat hkey

def firstSale : Timed := ⟨⟨598000000000, false, by decide, by decide⟩, .buy 5 1 7 (some "k")⟩

def secondSale : Timed := ⟨⟨599000000000, false, by decide, by decide⟩, .buy 5 2 7 (some "m")⟩

def saleUnderWay : List Tx.Call := [.fetch 1, .update 1 .sold, .insert ⟨7, 5, 1, some "m"⟩]

def askedForThird : List Bustle.Event :=
  [.order (.arrive (.hold 3 9)), .order (.go 0), .order (.go 0)]

def threeSeats : Office :=
  (Plan.threeSeats.office? ⟨[], [], []⟩ ⟨none, false, false, 3600, []⟩).get rfl

def thirdSeatTaken : Office where
  __ := threeSeats
  store := ((Bustle.ofStore threeSeats.store .epoch).run Traffic.tenMinutes askedForThird).store

theorem seats_are_apart_twoSales :
    thirdSeatTaken.keeping = .memory ∧ thirdSeatTaken.store.Numbered ∧
      thirdSeatTaken.store.Holds 0 3 ∧
      (∃ σ : Equiv.Perm Int, InTurn.Exchanged σ [] (thirdSeatTaken.inTurn firstSale secondSale)
        (thirdSeatTaken.inTurn secondSale firstSale)) ∧
      (thirdSeatTaken.inTurn firstSale secondSale).first = .outcome (.done (.booked 1 false)) ∧
      (thirdSeatTaken.inTurn secondSale firstSale).second = .outcome (.done (.booked 2 false)) ∧
      (thirdSeatTaken.during saleUnderWay).store.Holds 1 1 ∧
      ({ thirdSeatTaken.during saleUnderWay with clock := secondSale.clock }.start
        (.order secondSale.order)).2 = .answered (.outcome (.done (.booked 2 false))) := by
  have hnum : thirdSeatTaken.store.Numbered :=
    Bustle.numbered_run (s := threeSeats.store) ⟨rfl, rfl⟩ .epoch askedForThird
  obtain ⟨happart, hbeside⟩ := seats_are_apart thirdSeatTaken rfl hnum
  obtain ⟨σ, hσ, hexchanged⟩ := happart firstSale secondSale (by decide) (by decide)
  obtain ⟨k, hk, hstart⟩ := hbeside secondSale saleUnderWay rfl
  obtain rfl : k = 1 := by
    have hlast : (thirdSeatTaken.during saleUnderWay).store.lastBooking = 1 := rfl
    have hbefore : thirdSeatTaken.store.lastBooking = 0 := rfl
    omega
  refine ⟨rfl, hnum, rfl, ⟨σ, hexchanged⟩, ?_, ?_, rfl, ?_⟩
  · rw [inTurn_eq rfl hnum]
    rfl
  · rw [inTurn_eq rfl hnum]
    rfl
  · obtain ⟨_, hcall, -⟩ := call_of_free (o := { thirdSeatTaken with clock := secondSale.clock }) rfl
      secondSale.order rfl
    rw [hstart, hcall]
    rfl

end Office

end BoxOffice
