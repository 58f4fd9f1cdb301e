import BoxOffice.Office
import BoxOffice.Proofs.LeapSeconds
import BoxOffice.Proofs.TrafficEffects

set_option autoImplicit false

/-!
# A hold counts until the instant it promises

A buyer who holds a seat is told an instant. While the readings of the clock do not pass it, nobody
else gets the seat, every seat map shows the hold or the sale, and the holder can buy. Each of the
three reckons the end of the hold anew, from the instant of the lock.
-/

namespace BoxOffice

open Engine (TxId Order Stage Gain Outcome Receipt Advance)
open Function (update)

namespace Engine

def Stage.Admitted : Stage → Prop
  | .writing _ _ _ | .recording _ _ | .committing _ _ => True
  | _ => False

variable {length : Span} {s s' : Store} {now : Instant} {order : Order} {stage stage' : Stage}

theorem Sound.grips_of_admitted (h : Sound length s order stage) (ha : stage.Admitted) :
    ∃ tx seat, stage.tx? = some tx ∧ s.Grips tx order.seatId seat := by
  cases h with
  | writing hb hg => exact ⟨_, _, rfl, hg⟩
  | recording hg => exact ⟨_, _, rfl, hg⟩
  | holding hg => exact ⟨_, _, rfl, hg⟩
  | selling hg => exact ⟨_, _, rfl, hg⟩
  | _ => exact ha.elim

theorem Sound.grips_of_deciding {tx : TxId} {seat : Seat}
    (h : Sound length s order (.deciding tx seat)) : s.Grips tx order.seatId seat := by
  cases h
  assumption

theorem not_admitted_refuse (order : Order) (e : BookingError) : ¬(order.refuse e).Admitted := by
  unfold Order.refuse
  split
  · split <;> exact id
  · exact id

theorem not_admitted_first (order : Order) : ¬order.first.Admitted := by
  unfold Order.first
  split <;> exact id

theorem Advance.of_admitted (h : Advance length s now order stage s' stage')
    (ha : stage'.Admitted) :
    stage.Admitted ∨
      ∃ tx seat, stage = .deciding tx seat ∧ order.admits length seat now = .ok () := by
  cases h with
  | admitted hr h => exact Or.inr ⟨_, _, rfl, h⟩
  | heldWritten | saleWritten | inserted => exact Or.inl trivial
  | withdrawn | commitFailed | commitTaken | undone => exact absurd ha (not_admitted_refuse _ _)
  | _ => exact ha.elim

/-- The stages of the holder's purchase from the grant on, and how many requests are left. -/
inductive Buying (s : Store) (showId r user : Int) (givenKey : Option String) (since : Instant) :
    Stage → Nat → Prop
  | deciding {tx seat} (hs : seat.state = .locked since user) (hh : seat.showId = showId) :
      Buying s showId r user givenKey since (.deciding tx seat) 4
  | writing {tx now} : Buying s showId r user givenKey since (.writing tx r now) 3
  | recording {tx} :
      Buying s showId r user givenKey since
        (.recording tx ⟨user, showId, r, (Order.buy showId r user givenKey).key⟩) 2
  | committing {tx b}
      (hb : b = ⟨b.id, user, showId, r, (Order.buy showId r user givenKey).key⟩) :
      Buying s showId r user givenKey since (.committing tx (.sale b)) 1
  | finished {b seat}
      (hb : b = ⟨b.id, user, showId, r, (Order.buy showId r user givenKey).key⟩)
      (hm : b ∈ s.bookings) (hg : s.seats.get? r = some seat) (hs : seat.state = .sold) :
      Buying s showId r user givenKey since (.finished (.done (.booked b.id false))) 0

end Engine

namespace Traffic

/-- No fault meets this visit, and when it writes its booking nobody else has used its key. -/
def Undisturbed (j : Nat) (t : Traffic) (ev : Event) : Prop :=
  ev = .go j → ∀ order,
    (∀ tx sale, t.visits j = some ⟨order, .recording tx sale⟩ →
      t.store.faults.inserts = false ∧ ¬order.KeyBooked t.store) ∧
    ∀ tx gain, t.visits j = some ⟨order, .committing tx gain⟩ →
      t.store.faults.commits = false ∧ ¬order.KeyBooked t.store

/-- While nobody reads the clock past the end of a user's hold on a seat, that began at `start`. -/
structure Honoured (start : Traffic) (r showId user : Int) (since : Instant) (t : Traffic) :
    Prop where
  seat : ∃ seat, t.store.seats.get? r = some seat ∧ seat.showId = showId ∧
    (seat.state = .locked since user ∨
      seat.state = .sold ∧ ∃ b ∈ t.store.bookings, b.seatId = r)
  admitted : ∀ j v, t.visits j = some v → v.order.seatId = r → v.stage.Admitted →
    ∃ showId givenKey, v.order = .buy showId r user givenKey
  bookings : ∃ new, t.store.bookings = start.store.bookings ++ new ∧
    ∀ b ∈ new, b.seatId = r → b.userId = user
  held : ∀ j other receipt, t.visits j = some ⟨.hold r other, .finished (.done receipt)⟩ →
    start.visits j = some ⟨.hold r other, .finished (.done receipt)⟩

variable {length : Span} {s : Store} {start t t' : Traffic} {ev : Event} {i j : Nat} {v w : Visit}
variable {r user showId : Int} {since e : Instant} {order : Order}

theorem Honoured.buyer (hh : Honoured start r showId user since t)
    (hn : ¬Hold.isExpired since t.clock length) {seat : Seat}
    (hs : t.store.seats.get? r = some seat) (hr : order.seatId = r)
    (ha : order.admits length seat t.clock = .ok ()) :
    ∃ showId givenKey, order = .buy showId r user givenKey := by
  obtain ⟨seat', hs', -, hstate⟩ := hh.seat
  obtain rfl := Option.some.inj (hs.symm.trans hs')
  cases order with
  | hold q other =>
    rcases Engine.admits_hold_iff.1 ha with hfree | ⟨since', holder, hlocked, hexpired⟩
    · rcases hstate with hl | ⟨hl, -⟩ <;> rw [hfree] at hl <;> cases hl
    · rcases hstate with hl | ⟨hl, -⟩
      · rw [hlocked] at hl
        cases hl
        exact absurd hexpired hn
      · rw [hlocked] at hl
        cases hl
  | buy showId' q other givenKey =>
    obtain ⟨⟨since', hlocked, -⟩, -⟩ := Engine.admits_buy_iff.1 ha
    cases hr
    rcases hstate with hl | ⟨hl, -⟩
    · rw [hlocked] at hl
      cases hl
      exact ⟨_, _, rfl⟩
    · rw [hlocked] at hl
      cases hl

theorem Honoured.step_admitted (hh : Honoured start r showId user since t) (ht : t.Sound length)
    (hn : ∀ now, t.reading? r ev = some now → ¬Hold.isExpired since now length)
    (h : Happens length t ev t') (hv : t'.visits j = some v) (hr : v.order.seatId = r)
    (ha : v.stage.Admitted) : ∃ showId givenKey, v.order = .buy showId r user givenKey := by
  rcases h.visit_before hv with hv | ⟨-, -, hf⟩ | ⟨stage, s', hgo, hj, -, had⟩ |
    ⟨stage, -, -, hw, hf⟩
  · exact hh.admitted j v hv hr ha
  · rw [hf] at ha
    exact absurd ha (Engine.not_admitted_first _)
  · rcases had.of_admitted ha with hadm | ⟨tx, seat, rfl, hok⟩
    · exact hh.admitted j ⟨v.order, stage⟩ hj hr hadm
    · have hg := (ht.stage j _ hj).grips_of_deciding
      have hread : t.reading? r ev = some t.clock := by
        simp only [hgo, reading?, hj, if_pos hr]
      rw [hr] at hg
      exact hh.buyer (hn _ hread) hg.get? hr hok
  · rw [hf] at ha
    cases stage with
    | opening | fetching | withdrawing => exact ha.elim
    | _ => cases hw

theorem Honoured.keep (hh : Honoured start r showId user since t)
    (hadm : ∀ j v, t'.visits j = some v → v.order.seatId = r → v.stage.Admitted →
      ∃ showId givenKey, v.order = .buy showId r user givenKey)
    (hg : t'.store.seats.get? r = t.store.seats.get? r) {more : List Booking}
    (hb : t'.store.bookings = t.store.bookings ++ more) (hm : ∀ b ∈ more, b.seatId ≠ r)
    (hheld : ∀ j other receipt,
      t'.visits j = some ⟨.hold r other, .finished (.done receipt)⟩ →
      t.visits j = some ⟨.hold r other, .finished (.done receipt)⟩) :
    Honoured start r showId user since t' := by
  obtain ⟨seat, hs, hshow, hstate⟩ := hh.seat
  obtain ⟨new, hnew, husers⟩ := hh.bookings
  refine ⟨⟨seat, hg.trans hs, hshow, ?_⟩, hadm, ⟨new ++ more, ?_, ?_⟩, ?_⟩
  · rw [hb]
    rcases hstate with hl | ⟨hl, b, hb, hbr⟩
    · exact Or.inl hl
    · exact Or.inr ⟨hl, b, List.mem_append_left _ hb, hbr⟩
  · rw [hb, hnew, List.append_assoc]
  · intro b hb hbr
    rcases List.mem_append.1 hb with hb | hb
    · exact husers b hb hbr
    · exact absurd hbr (hm b hb)
  · exact fun j other receipt hj => hh.held j other receipt (hheld j other receipt hj)

theorem Honoured.sell (hh : Honoured start r showId user since t)
    (hadm : ∀ j v, t'.visits j = some v → v.order.seatId = r → v.stage.Admitted →
      ∃ showId givenKey, v.order = .buy showId r user givenKey)
    {seat : Seat} (hg : t.store.seats.get? r = some seat)
    (hg' : t'.store.seats.get? r = some { seat with state := .sold }) {b : Booking}
    (hb : t'.store.bookings = t.store.bookings ++ [b]) (hbr : b.seatId = r)
    (hbu : b.userId = user)
    (hheld : ∀ j other receipt,
      t'.visits j = some ⟨.hold r other, .finished (.done receipt)⟩ →
      t.visits j = some ⟨.hold r other, .finished (.done receipt)⟩) :
    Honoured start r showId user since t' := by
  obtain ⟨seat', hs, hshow, -⟩ := hh.seat
  obtain rfl := Option.some.inj (hs.symm.trans hg)
  obtain ⟨new, hnew, husers⟩ := hh.bookings
  have hmem : b ∈ t'.store.bookings := by
    rw [hb]
    exact List.mem_append_right _ (List.mem_singleton.2 rfl)
  refine ⟨⟨_, hg', hshow, Or.inr ⟨rfl, b, hmem, hbr⟩⟩, hadm, ⟨new ++ [b], ?_, ?_⟩, ?_⟩
  · rw [hb, hnew, List.append_assoc]
  · intro a hm har
    rcases List.mem_append.1 hm with hm | hm
    · exact husers a hm har
    · rw [List.mem_singleton.1 hm]
      exact hbu
  · exact fun j other receipt hj => hh.held j other receipt (hheld j other receipt hj)

theorem Honoured.step (hh : Honoured start r showId user since t) (ht : t.Sound length)
    (hn : ∀ now, t.reading? r ev = some now → ¬Hold.isExpired since now length)
    (h : Happens length t ev t') : Honoured start r showId user since t' := by
  have hadm : ∀ j v, t'.visits j = some v → v.order.seatId = r → v.stage.Admitted →
      ∃ showId givenKey, v.order = .buy showId r user givenKey :=
    fun j v hv hr ha => hh.step_admitted ht hn h hv hr ha
  cases ht.effect h with
  | none hseats hb hv =>
    refine hh.keep hadm ?_ (hb.trans (List.append_nil _).symm) nofun ?_
    · rw [hseats]
    · intro j other receipt hj
      rcases hv j _ _ hj rfl with hj | ⟨x, hx⟩ | ⟨key, b, hk, -⟩
      · exact hj
      · cases hx
      · cases hk
  | hold hi hg ha hseats hb hv =>
    rename_i i q other tx since' seat'
    have hq : q ≠ r := by
      rintro rfl
      obtain ⟨showId', givenKey, hbuy⟩ := hh.admitted i _ hi rfl trivial
      cases hbuy
    refine hh.keep hadm ?_ (hb.trans (List.append_nil _).symm) nofun ?_
    · rw [hseats, get?_put_of_grips hg, if_neg hq.symm]
    · intro j other' receipt hj
      rw [hv] at hj
      rcases of_update hj with ⟨-, hj⟩ | ⟨-, hj⟩
      · have hqr := congrArg (Option.map fun v => v.order.seatId) hj
        exact absurd (Option.some.inj hqr) hq
      · exact hj
  | sale hi hg ha hbk hk hseats hb hv =>
    rename_i i showId' q other givenKey tx b seat' read
    have hbq : b.seatId = q := by rw [hbk]
    have hheld : ∀ j other receipt,
        t'.visits j = some ⟨.hold r other, .finished (.done receipt)⟩ →
        t.visits j = some ⟨.hold r other, .finished (.done receipt)⟩ := by
      intro j other' receipt hj
      rw [hv] at hj
      rcases of_update hj with ⟨-, hj⟩ | ⟨-, hj⟩
      · cases hj
      · exact hj
    by_cases hq : q = r
    · subst hq
      have hget := get?_put_of_grips hg .sold q
      rw [← hseats, if_pos rfl] at hget
      obtain ⟨showId'', givenKey', hbuy⟩ := hh.admitted i _ hi rfl trivial
      cases hbuy
      refine hh.sell hadm hg.get? hget hb hbq ?_ hheld
      rw [hbk]
    · refine hh.keep hadm ?_ hb ?_ hheld
      · rw [hseats, get?_put_of_grips hg, if_neg (Ne.symm hq)]
      · intro a hm
        rw [List.mem_singleton.1 hm, hbq]
        exact hq

theorem Sound.honoured (ht : t.Sound length) (h : Happens length t ev t')
    (hi : t.visits i ≠ some ⟨.hold r user, .finished (.done (.held e))⟩)
    (hi' : t'.visits i = some ⟨.hold r user, .finished (.done (.held e))⟩) :
    ∃ seat since, Hold.expiresAt? since length = some e ∧
      t'.store.seats.get? r = some seat ∧ seat.state = .locked since user ∧
      Honoured t' r seat.showId user since t' := by
  cases ht.effect h with
  | none hseats hb hv =>
    rcases hv i _ _ hi' rfl with hi' | ⟨x, hx⟩ | ⟨key, b, hk, -⟩
    · exact absurd hi' hi
    · cases hx
    · cases hk
  | sale hj hg ha hbk hk hseats hb hv =>
    rw [hv] at hi'
    rcases of_update hi' with ⟨-, hi'⟩ | ⟨-, hi'⟩
    · cases hi'
    · exact absurd hi' hi
  | hold hj hg ha hseats hb hv =>
    rename_i j q other tx since seat
    have hvi := hi'
    rw [hv] at hvi
    rcases of_update hvi with ⟨hij, hvi⟩ | ⟨-, hvi⟩
    · injection hvi with hvi
      injection hvi with horder hstage
      injection horder with hq hu
      subst q other hij
      have he : Hold.expiresAt? since length = some e := by
        injection hstage with hout
        unfold Gain.outcome at hout
        cases hx : Hold.expiresAt? since length with
        | none => simp [hx] at hout
        | some x => simpa [hx] using hout
      have hget : t'.store.seats.get? r = some { seat with state := .locked since user } := by
        rw [hseats, get?_put_of_grips hg, if_pos rfl]
      refine ⟨_, since, he, hget, rfl, ⟨_, hget, rfl, Or.inl rfl⟩, ?_, ⟨[], ?_, nofun⟩, ?_⟩
      · intro k v hk hr ha
        rw [hv] at hk
        rcases of_update hk with ⟨-, hk⟩ | ⟨hki, hk⟩
        · cases hk
          exact ha.elim
        · obtain ⟨tx', seat', htx, hg'⟩ := (ht.stage k v hk).grips_of_admitted ha
          rw [hr] at hg'
          obtain rfl := hg.holds.eq hg'.holds
          exact absurd (ht.tx_inj k i v _ tx hk hj htx rfl) hki
      · rw [List.append_nil]
      · exact fun _ _ _ h => h
    · exact absurd hvi hi

theorem Honoured.run (hh : Honoured start r showId user since t) (ht : t.Sound length)
    {events : List Event}
    (hn : ∀ now ∈ t.readings length r events, ¬Hold.isExpired since now length) :
    Honoured start r showId user since (t.run length events) :=
  ht.run_along hh (along_of_readings hn) fun ht hn hh => hh.step ht hn (happens ht _)

theorem Honoured.seatMap (hh : Honoured start r showId user since t)
    {o : Office} (hk : o.keeping = .memory) (hs : o.store = t.store)
    (hl : o.rules.holdLength = length) (hn : ¬Hold.isExpired since o.clock length) :
    ∃ views, (o.seatMap showId).2 = .ok views ∧ (∃ view ∈ views, view.id = r) ∧
      ∀ view ∈ views, view.id = r →
        (view.status = .locked ∧ view.lockedAt = some since ∧ view.userId = some user) ∨
          view.status = .sold := by
  obtain ⟨seat, hg, hshow, hstate⟩ := hh.seat
  have hviews : (o.seatMap showId).2 = .ok ((t.store.seatsOfShow showId).map
      fun seat => Hold.display seat o.clock length) := by
    simp only [Office.seatMap, Office.seatsOfShow, hk, hs, hl, Except.map]
  have hid : ∀ seat, (Hold.display seat o.clock length).id = seat.id := by
    intro seat
    unfold Hold.display
    split
    · rfl
    · split <;> rfl
    · rfl
  have hmem : ∀ x, x ∈ t.store.seatsOfShow showId ↔ x ∈ t.store.seats.rows ∧ x.showId = showId := by
    intro x
    simp [Store.seatsOfShow]
  refine ⟨_, hviews, ⟨Hold.display seat o.clock length, ?_, ?_⟩, ?_⟩
  · exact List.mem_map_of_mem ((hmem seat).2 ⟨SeatTable.mem_of_get? hg, hshow⟩)
  · exact (hid seat).trans (SeatTable.id_of_get? hg)
  · intro view hview hr
    obtain ⟨x, hx, rfl⟩ := List.mem_map.1 hview
    have hgx := SeatTable.get?_of_mem ((hmem x).1 hx).1
    rw [← hid x, hr] at hgx
    obtain rfl := Option.some.inj (hgx.symm.trans hg)
    rcases hstate with hl | ⟨hl, -⟩
    · left
      simp [Hold.display, hl, hn]
    · right
      simp [Hold.display, hl]

variable {givenKey : Option String} {stage stage' : Stage} {now : Instant} {s' : Store} {n : Nat}

theorem not_keyBooked {sale : Option String}
    (h : ¬(Order.buy showId r user givenKey).KeyBooked s)
    (hk : sale = (Order.buy showId r user givenKey).key) :
    Store.keyTaken s.bookings user sale ≠ true := by
  intro ht
  obtain ⟨k, hsale, b, hm, hb⟩ := (Store.keyTaken_eq_true_iff _ _ _).1 ht
  exact h ⟨k, hk.symm.trans hsale, b, hm, hb⟩

theorem buying_go (hb : Engine.Buying s showId r user givenKey since stage n)
    (ha : Advance length s now (.buy showId r user givenKey) stage s' stage')
    (hn : ∀ tx seat, stage = .deciding tx seat → ¬Hold.isExpired since now length)
    (hi : ∀ tx sale, stage = .recording tx sale →
      s.faults.inserts = false ∧ ¬(Order.buy showId r user givenKey).KeyBooked s)
    (hc : ∀ tx gain, stage = .committing tx gain →
      s.faults.commits = false ∧ ¬(Order.buy showId r user givenKey).KeyBooked s) :
    Engine.Buying s' showId r user givenKey since stage' (n - 1) := by
  cases hb with
  | deciding hs hh =>
    have hok : ∀ {seat : Seat}, seat.state = .locked since user → seat.showId = showId →
        (Order.buy showId r user givenKey).admits length seat now = .ok () := fun hs hh =>
      Engine.admits_buy_iff.2 ⟨⟨since, hs, hn _ _ rfl⟩, hh⟩
    cases ha with
    | admitted hr ha => exact .writing
    | rejected ha =>
      rw [hok hs hh] at ha
      cases ha
  | writing =>
    cases ha with
    | saleWritten hg ha => exact .recording
  | recording =>
    obtain ⟨hf, hk⟩ := hi _ _ rfl
    cases ha with
    | insertFailed hf' =>
      rw [hf] at hf'
      cases hf'
    | insertTaken ht => exact absurd ht (not_keyBooked hk rfl)
    | inserted hf ht hs => exact .committing rfl
  | committing hb =>
    obtain ⟨hf, hk⟩ := hc _ _ rfl
    have huser := congrArg Booking.userId hb
    have hkey := congrArg Booking.key hb
    simp only at huser hkey
    cases ha with
    | commitFailed hf' =>
      rw [hf] at hf'
      cases hf'
    | commitTaken ht =>
      rw [huser] at ht
      exact absurd ht (not_keyBooked hk hkey)
    | saleCommitted hf hg ha hs hb ht =>
      have hget := get?_put_of_grips hg .sold r
      rw [← Store.seats_committed hs, if_pos rfl] at hget
      refine .finished hb ?_ hget rfl
      rw [Store.bookings_committed hs]
      exact List.mem_append_right _ (List.mem_singleton.2 rfl)
  | finished hb hm hg hs =>
    cases ha
    exact .finished hb hm hg hs

def Buys (showId r user : Int) (givenKey : Option String) (since : Instant) (j n : Nat)
    (t : Traffic) : Prop :=
  ∃ stage, t.visits j = some ⟨.buy showId r user givenKey, stage⟩ ∧
    Engine.Buying t.store showId r user givenKey since stage n

theorem Buys.step (hb : Buys showId r user givenKey since j n t) (ht : t.Sound length)
    (hn : ∀ now, t.reading? r ev = some now → ¬Hold.isExpired since now length)
    (hu : Undisturbed j t ev) :
    Buys showId r user givenKey since j (n - [ev].count (.go j)) (t.step length ev) := by
  obtain ⟨stage, hj, hs⟩ := hb
  by_cases hev : ev = .go j
  · subst ev
    obtain ⟨s', stage', ha, hstep⟩ := ht.step_go hj
    rw [hstep, List.count_singleton_self]
    refine ⟨stage', Function.update_self _ _ _, buying_go hs ha ?_ ?_ ?_⟩
    · rintro tx seat rfl
      refine hn _ ?_
      simp only [reading?, hj, Order.seatId, if_true]
    · rintro tx sale rfl
      exact (hu rfl _).1 tx sale hj
    · rintro tx gain rfl
      exact (hu rfl _).2 tx gain hj
  · have heff := ht.effect (happens ht ev)
    rw [List.count_singleton, beq_eq_false_iff_ne.2 hev]
    refine ⟨stage, ?_, ?_⟩
    · rcases ht.visit (happens ht ev) hj with hj | ⟨hgo, -⟩ | ⟨hw, -⟩
      · exact hj
      · exact absurd hgo hev
      · cases hs <;> cases hw
    · cases hs with
      | deciding hs hh => exact .deciding hs hh
      | writing => exact .writing
      | recording => exact .recording
      | committing hb => exact .committing hb
      | finished hb hm hg hs =>
        exact .finished hb (heff.mem_bookings hm) (heff.get?_of_sold hg hs) hs

theorem Buys.run (hb : Buys showId r user givenKey since j n t) (ht : t.Sound length)
    {events : List Event}
    (hn : ∀ now ∈ t.readings length r events, ¬Hold.isExpired since now length)
    (hu : Along length (Undisturbed j) t events) :
    Buys showId r user givenKey since j (n - events.count (.go j)) (t.run length events) := by
  induction events generalizing t n with
  | nil => exact hb
  | cons ev events ih =>
    have hn' := along_of_readings hn
    have hstep := hb.step ht hn'.1 hu.1
    have hrest : ∀ now ∈ (t.step length ev).readings length r events,
        ¬Hold.isExpired since now length :=
      fun now hm => hn now (List.mem_append_right _ hm)
    have hcount : ([ev] ++ events).count (.go j) = [ev].count (.go j) + events.count (.go j) :=
      List.count_append
    rw [List.singleton_append] at hcount
    rw [hcount, ← Nat.sub_sub]
    exact ih hstep (ht.step ev) hrest hu.2

def holdUnderWay : List Event := [.arrive (.hold 1 7), .go 0, .go 0, .go 0, .go 0]

def oneSeat : Store := .ofSeats [⟨1, 5, "A1", .available⟩]

def promised : Instant := ⟨600000000000, false, by decide, by decide⟩

end Traffic

end BoxOffice
