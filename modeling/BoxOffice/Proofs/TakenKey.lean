import BoxOffice.Proofs.Replay
import BoxOffice.Proofs.Sales
import BoxOffice.Proofs.Visits

set_option autoImplicit false

/-!
# Orders that get the row when their key is already taken

An order looks for its key before it waits for the row, and another order with the key may be
served meanwhile. It never sells a second seat then: either the sale is stopped at the insert, or
the seat is not locked any more, and both send it to look for the key again. What the other guards
say of the seat is answered as it stands, since no booking with the key can have caused it.
-/

namespace BoxOffice

open Engine (TxId Order Stage Outcome Advance)

namespace Engine

/-- The order is told of a booking, though it has come too late to find it at first. -/
def replay (b : Booking) : Outcome := .done (.booked b.id true)

/-- The way from the judgement of the seat to an answer, when the order's key has the booking. -/
inductive Told (b : Booking) : Outcome → Stage → Prop
  | writing {tx r now} : Told b (replay b) (.writing tx r now)
  | recording {tx sale} : Told b (replay b) (.recording tx sale)
  | undoing {tx e} (he : e = .keyTaken ∨ e = .notLocked) : Told b (replay b) (.undoing tx e)
  | lookAgain {key e} : Told b (replay b) (.lookAgain key e)
  | refusing {tx e} (he : ¬(e = .keyTaken ∨ e = .notLocked)) : Told b (.refused e) (.undoing tx e)
  | answered {outcome} : Told b outcome (.finished outcome)

variable {length : Span} {s s' : Store} {now : Instant} {order : Order} {stage stage' : Stage}
variable {b : Booking} {key : String} {outcome : Outcome}

inductive Verdict (b : Booking) : Except BookingError Unit → Outcome → Prop
  | admitted : Verdict b (.ok ()) (replay b)
  | notLocked : Verdict b (.error .notLocked) (replay b)
  | refused {e} (he : e = .lockExpired ∨ e = .lockedByOther ∨ e = .wrongShow) :
      Verdict b (.error e) (.refused e)

theorem Told.next (ht : Told b outcome stage) (hs : Sound length s order stage)
    (hu : KeysUnique s.bookings) (hm : b ∈ s.bookings) (hk : order.key = some key)
    (hb : b.HasKey order.userId key) (hf : ∀ tx sale, stage = .recording tx sale →
      s.faults.inserts = false)
    (ha : Advance length s now order stage s' stage') : Told b outcome stage' := by
  cases ht with
  | writing =>
    cases hs with
    | writing =>
      cases ha with
      | heldWritten => cases hk
      | saleWritten => exact .recording
  | recording =>
    cases ha with
    | insertFailed hf' =>
      rw [hf _ _ rfl] at hf'
      cases hf'
    | insertTaken => exact .undoing (Or.inl rfl)
    | inserted hf' hn =>
      -- The booking is committed, so the insert would have met its key.
      cases hs with
      | recording => exact absurd hb ((Store.keyTaken_eq_false_iff _ _ _).1 hn key hk b hm)
  | undoing he =>
    cases ha with
    | undone =>
      rw [refuse_of_key hk, if_pos he]
      exact .lookAgain
  | lookAgain =>
    cases hs with
    | lookAgain hk' =>
      obtain rfl := Option.some.inj (hk.symm.trans hk')
      cases ha with
      | foundAgain h =>
        obtain ⟨hm', hb'⟩ := Store.findBooking_eq_some h
        rw [hu.eq hm' hm hb' hb]
        exact .answered
      | unknownAgain h => exact absurd hb ((Store.findBooking_eq_none_iff _ _ _).1 h b hm)
  | refusing he =>
    cases ha with
    | undone =>
      rw [refuse_of_key hk, if_neg he]
      exact .answered
  | answered =>
    cases ha with
    | finished => exact .answered

theorem Told.of_judged {showId r user : Int} {givenKey : Option String} {tx : TxId} {seat : Seat}
    (ha : Advance length s now (.buy showId r user givenKey) (.deciding tx seat) s' stage') :
    ∃ outcome, Told b outcome stage' ∧
      Verdict b ((Order.buy showId r user givenKey).admits length seat now) outcome := by
  cases ha with
  | admitted hr hok =>
    rw [hok]
    exact ⟨_, .writing, .admitted⟩
  | rejected hno =>
    rw [hno]
    rcases admits_buy_error hno with rfl | he
    · exact ⟨_, .undoing (Or.inr rfl), .notLocked⟩
    · refine ⟨_, .refusing ?_, .refused he⟩
      rcases he with rfl | rfl | rfl <;> decide

end Engine

namespace Traffic

open Engine (Told Verdict replay)

variable {length : Span} {s : Store} {t : Traffic} {e : Event} {j : Nat} {order : Order}
variable {b : Booking} {key : String} {outcome : Outcome}

def Spared (j : Nat) (t : Traffic) (e : Event) : Prop :=
  e = .go j → ∀ order,
    (∀ tx sale, t.visits j = some ⟨order, .recording tx sale⟩ → t.store.faults.inserts = false) ∧
    ∀ tx gain, t.visits j = some ⟨order, .committing tx gain⟩ → t.store.faults.commits = false

theorem spared_of_off (hf : t.store.faults = ⟨false, false⟩) : Spared j t e := by
  intro _ order
  rw [hf]
  exact ⟨fun _ _ _ => rfl, fun _ _ _ => rfl⟩

/-- The visit is on its way to an answer that stands already. -/
structure Settles (b : Booking) (order : Order) (outcome : Outcome) (j : Nat) (t : Traffic) :
    Prop where
  agreed : t.Agreed
  mem : b ∈ t.store.bookings
  told : ∃ stage, t.visits j = some ⟨order, stage⟩ ∧ Told b outcome stage ∧ stage.Granted

theorem Settles.step (h : t.Settles b order outcome j) (ht : t.Sound length)
    (hk : order.key = some key) (hb : b.HasKey order.userId key) (hf : Spared j t e) :
    (t.step length e).Settles b order outcome j := by
  obtain ⟨stage, hj, hst, hg⟩ := h.told
  have heff := ht.effect (happens ht e)
  refine ⟨heff.agreed h.agreed, heff.mem_bookings h.mem, ?_⟩
  by_cases he : e = .go j
  · subst e
    obtain ⟨s', stage', ha, hstep⟩ := ht.step_go hj
    rw [hstep]
    refine ⟨stage', Function.update_self _ _ _, ?_, (ha.granted_next hg).1⟩
    refine hst.next (ht.stage j _ hj) h.agreed.unique h.mem hk hb ?_ ha
    rintro tx sale rfl
    exact (hf rfl order).1 tx sale hj
  · exact ⟨stage, ht.stays_step hj hg.1 he, hst, hg⟩

theorem Settles.run (h : t.Settles b order outcome j) (ht : t.Sound length)
    (hk : order.key = some key) (hb : b.HasKey order.userId key) {events : List Event}
    (hf : Along length (Spared j) t events) :
    (t.run length events).Settles b order outcome j :=
  ht.run_along h hf fun ht hf h => h.step ht hk hb hf

theorem Sales.admits_eq {start : SeatTable} {showId user : Int} {givenKey : Option String}
    {tx : TxId} {seat : Seat} (hs : s.Sales start) (hb : b ∈ s.bookings)
    (hg : s.Grips tx b.seatId seat) (now : Instant) :
    (Order.buy showId b.seatId user givenKey).admits length seat now = .error .notLocked := by
  obtain ⟨seat', hg', hsold, -⟩ := hs.booked b hb
  obtain rfl := Option.some.inj (hg'.symm.trans hg.get?)
  simp only [Order.admits, hsold]

/-- An order with a key is granted the row of its seat when there is a booking with its key, and no
fault meets it. It is told of that booking, unless the hold on its seat has run out, is another
user's or is of another show: then that is what it is told. If the booking is for its own seat, it
is always told of the booking. -/
theorem verdict_on_taken_key (hs : s.Arises) (hr : s.AtRest) (clock : Instant)
    (before : List Event) (showId r user : Int) (hk : key ≠ "") :
    let t := (ofStore s clock).run length before
    let order := Order.buy showId r user (some key)
    ∀ b ∈ t.store.bookings, b.HasKey user key →
    ∀ j tx tx' seat, t.visits j = some ⟨order, .fetching tx⟩ →
      (t.step length (.go j)).visits j = some ⟨order, .deciding tx' seat⟩ →
    ∀ wait, .go j ∉ wait →
      let t₁ := (t.step length (.go j)).run length wait
      let judged := order.admits length seat t₁.clock
      (s.bookings = [] → b.seatId = r → judged = .error .notLocked) ∧
      ∀ later, Along length (Spared j) t₁ (.go j :: later) →
        let t₂ := t₁.run length (.go j :: later)
        (∀ outcome, t₂.visits j = some ⟨order, .finished outcome⟩ → Verdict b judged outcome) ∧
        (5 ≤ later.count (.go j) →
          ∃ outcome, t₂.visits j = some ⟨order, .finished outcome⟩) := by
  intro t order b hm hb j tx tx' seat hj hj' wait hwait t₁ judged
  have ht : t.Sound length := (sound_ofStore hr clock).run before
  have ht₀ : (t.step length (.go j)).Sound length := ht.step (.go j)
  have ht₁ : t₁.Sound length := ht₀.run wait
  have hj₁ : t₁.visits j = some ⟨order, .deciding tx' seat⟩ := ht₀.stays hj' rfl hwait
  have hm₁ : b ∈ t₁.store.bookings :=
    ht.run_induction (P := fun t => b ∈ t.store.bookings) hm
      (fun ht h hm => (ht.effect h).mem_bookings hm) (.go j :: wait)
  refine ⟨fun hnone hbr => ?_, fun later hf => ?_⟩
  · have hsales : t.store.Sales s.seats := (sound_ofStore hr clock).sales (sales_start hnone) before
    have hsales₁ : t₁.store.Sales s.seats := ht.sales hsales (.go j :: wait)
    subst r
    cases ht₁.stage j _ hj₁ with
    | deciding hblank hg => exact Sales.admits_eq hsales₁ hm₁ hg _
  · intro t₂
    have hagreed : t₁.Agreed :=
      ht.agreed ((sound_ofStore hr clock).agreed (agreed_ofStore hs.keyed.committed clock) before)
        (.go j :: wait)
    obtain ⟨s', stage', ha, hstep⟩ := ht₁.step_go hj₁
    obtain ⟨outcome, htold, hverdict⟩ := Told.of_judged (b := b) ha
    have hj₂ : (t₁.step length (.go j)).visits j = some ⟨order, stage'⟩ := by
      rw [hstep]
      exact Function.update_self _ _ _
    obtain ⟨hg, hrank⟩ := ha.granted_next ⟨rfl, Nat.le_refl 6⟩
    have heff := ht₁.effect (happens ht₁ (.go j))
    have hsettles : (t₁.step length (.go j)).Settles b order outcome j :=
      ⟨heff.agreed hagreed, heff.mem_bookings hm₁, stage', hj₂, htold, hg⟩
    have hend := hsettles.run (ht₁.step (.go j)) (key_buy hk) hb hf.2
    constructor
    · intro outcome' hout
      obtain ⟨stage, hstage, htold', -⟩ := hend.told
      obtain ⟨-, rfl⟩ := Visit.mk.inj (Option.some.inj (hout.symm.trans hstage))
      cases htold'
      exact hverdict
    · intro hcount
      exact (ht₁.step (.go j)).finished_of_count hj₂ hg (hrank.trans hcount)

/-- Buyer 7 has a hold on seat 1, an old one on seat 3, and one on seat 4 of another show. -/
def fourSeats : Store :=
  .ofSeats [⟨1, 5, "A1", .locked .epoch 7⟩, ⟨2, 5, "A2", .locked .epoch 8⟩,
    ⟨3, 5, "A3", .locked ⟨-600000000001, false, by decide, by decide⟩ 7⟩,
    ⟨4, 6, "A1", .locked .epoch 7⟩]

/-- He asks for seat 1 twice and for each of the others once, always with the key k. Nobody finds
the key at first, and the first order for seat 1 is served to its end. -/
def oneKey : List Event :=
  [.arrive (.buy 5 1 7 (some "k")), .arrive (.buy 5 2 7 (some "k")),
    .arrive (.buy 5 3 7 (some "k")), .arrive (.buy 5 4 7 (some "k")),
    .arrive (.buy 5 1 7 (some "k")), .go 0, .go 1, .go 2, .go 3, .go 4, .go 0, .go 1, .go 2, .go 3,
    .go 4, .go 0, .go 4, .go 0, .go 0, .go 0, .go 0]

def onceBooked : Traffic := (ofStore fourSeats .epoch).run tenMinutes oneKey

/-- The second order for seat 1 gets the row when the first has been served. -/
theorem verdict_on_taken_key_second :
    let order := Order.buy 5 1 7 (some "k")
    let later := List.replicate 5 (Event.go 4)
    fourSeats.Arises ∧ fourSeats.AtRest ∧ "k" ≠ "" ∧
      ⟨1, 7, 5, 1, some "k"⟩ ∈ onceBooked.store.bookings ∧
      onceBooked.visits 4 = some ⟨order, .fetching 4⟩ ∧
      (onceBooked.step tenMinutes (.go 4)).visits 4 =
        some ⟨order, .deciding 4 ⟨1, 5, "A1", .sold⟩⟩ ∧
      Along tenMinutes (Spared 4) (onceBooked.step tenMinutes (.go 4)) (.go 4 :: later) ∧
      (onceBooked.run tenMinutes (.go 4 :: .go 4 :: later)).visits 4 =
        some ⟨order, .finished (.done (.booked 1 true))⟩ := by
  have hm : (⟨1, 7, 5, 1, some "k"⟩ : Booking) ∈ onceBooked.store.bookings := by decide +kernel
  have hj : onceBooked.visits 4 = some ⟨.buy 5 1 7 (some "k"), .fetching 4⟩ := by decide +kernel
  have hj' : (onceBooked.step tenMinutes (.go 4)).visits 4 =
      some ⟨.buy 5 1 7 (some "k"), .deciding 4 ⟨1, 5, "A1", .sold⟩⟩ := by decide +kernel
  have hf : Along tenMinutes (Spared 4) (onceBooked.step tenMinutes (.go 4))
      (.go 4 :: List.replicate 5 (.go 4)) :=
    ⟨spared_of_off rfl, spared_of_off rfl, spared_of_off rfl, spared_of_off rfl, spared_of_off rfl,
      spared_of_off rfl, trivial⟩
  refine ⟨.ofSeats _, ⟨rfl, rfl⟩, by decide, hm, hj, hj', hf, ?_⟩
  obtain ⟨htold, hend⟩ := (verdict_on_taken_key (.ofSeats _) ⟨rfl, rfl⟩ .epoch oneKey 5 1 7
    (by decide) _ hm ⟨rfl, rfl⟩ 4 4 4 _ hj hj' [] nofun).2 _ hf
  obtain ⟨outcome, hout⟩ := hend (by decide)
  -- The seat was sold, so it is not locked, and the order looks for its key again.
  have hverdict : Verdict _ (.error .notLocked) outcome := htold outcome hout
  cases hverdict with
  | notLocked => exact hout
  | refused he => simp at he

/-- The orders for the other seats get their rows at the same moment, and none is told of the
booking. -/
theorem taken_key_refused :
    fourSeats.Arises ∧ fourSeats.AtRest ∧ "k" ≠ "" ∧
      onceBooked.store.faults = ⟨false, false⟩ ∧
      (∃ b ∈ onceBooked.store.bookings, b.HasKey 7 "k") ∧
      (∃ tx tx' seat, onceBooked.visits 1 = some ⟨.buy 5 2 7 (some "k"), .fetching tx⟩ ∧
        (onceBooked.step tenMinutes (.go 1)).visits 1 =
          some ⟨.buy 5 2 7 (some "k"), .deciding tx' seat⟩) ∧
      (onceBooked.run tenMinutes [.go 1, .go 1, .go 1]).visits 1 =
        some ⟨.buy 5 2 7 (some "k"), .finished (.refused .lockedByOther)⟩ ∧
      (onceBooked.run tenMinutes [.go 2, .go 2, .go 2]).visits 2 =
        some ⟨.buy 5 3 7 (some "k"), .finished (.refused .lockExpired)⟩ ∧
      (onceBooked.run tenMinutes [.go 3, .go 3, .go 3]).visits 3 =
        some ⟨.buy 5 4 7 (some "k"), .finished (.refused .wrongShow)⟩ := by
  refine ⟨.ofSeats _, ⟨rfl, rfl⟩, by decide, rfl, ?_,
    ⟨1, 1, ⟨2, 5, "A2", .locked .epoch 8⟩, ?_, ?_⟩, ?_, ?_, ?_⟩
  · decide +kernel
  · decide +kernel
  · decide +kernel
  · decide +kernel
  · decide +kernel
  · decide +kernel

end Traffic

end BoxOffice
