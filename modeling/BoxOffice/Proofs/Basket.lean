import BoxOffice.Proofs.HoldPromise
import BoxOffice.Proofs.Visits

set_option autoImplicit false

/-!
# Many purchases with one key

A buyer holds some seats and sends any number of purchases with one key, for the same seat or for
different ones. One of them sells its seat, and all others are told of that booking. They may learn
of it at their first request, from a seat that is not locked any more, at their insert or at their
commit; in the last two cases they have already staged the sale of another seat. `Part` lists what
a purchase can be doing before and after the sale.
-/

namespace BoxOffice

open Engine (TxId Order Stage Advance)
open Function (update)

/-- Seats that a user holds, as they are at first, and the key that he buys them with. -/
structure Basket where
  user : Int
  key : String
  seats : List Seat

namespace Basket

def order (c : Basket) (seat : Seat) : Order := .buy seat.showId seat.id c.user (some c.key)

def Names (c : Basket) (r : Int) : Prop := ∃ seat ∈ c.seats, seat.id = r

instance (c : Basket) (r : Int) : Decidable (c.Names r) :=
  inferInstanceAs (Decidable (∃ _ ∈ _, _))

def Concerns (c : Basket) (b : Booking) : Prop := c.Names b.seatId ∨ b.HasKey c.user c.key

instance (c : Basket) (b : Booking) : Decidable (c.Concerns b) :=
  inferInstanceAs (Decidable (_ ∨ _))

/-- An order without the key, and no other purchase of these seats by their holder. -/
structure Stranger (c : Basket) (order : Order) : Prop where
  key : ¬(order.userId = c.user ∧ order.key = some c.key)
  buyer : ∀ showId r givenKey, order = .buy showId r c.user givenKey → ¬c.Names r

/-- The purchases are served without a break, and no faults are switched on. -/
inductive Allows (c : Basket) (t : Traffic) : Event → Prop
  | call {seat} (hs : seat ∈ c.seats) : Allows c t (.arrive (c.order seat))
  | stranger {order} (ho : c.Stranger order) : Allows c t (.arrive order)
  | go (i : Nat) : Allows c t (.go i)
  | expire {i} (hi : ∀ v, t.visits i = some v → c.Stranger v.order) : Allows c t (.expire i)
  | leave {i} (hi : ∀ v, t.visits i = some v → c.Stranger v.order) : Allows c t (.leave i)
  | clock (now : Instant) : Allows c t (.clock now)

/-- Whoever reads the clock for one of the seats finds that its hold counts. -/
def Live (c : Basket) (length : Span) (t : Traffic) (e : Event) : Prop :=
  ∀ seat ∈ c.seats, ∀ since, seat.state = .locked since c.user →
    ∀ now, t.reading? seat.id e = some now → ¬Hold.isExpired since now length

structure Opens (c : Basket) (s : Store) : Prop where
  rest : s.AtRest
  faults : s.faults = ⟨false, false⟩
  seat : ∀ seat ∈ c.seats, s.seats.get? seat.id = some seat
  held : ∀ seat ∈ c.seats, ∃ since, seat.state = .locked since c.user
  key : c.key ≠ ""
  unused : ∀ b ∈ s.bookings, ¬b.HasKey c.user c.key

inductive Phase where
  | unsold
  | sold (winner : Nat) (seat : Seat) (id : Int)

namespace Phase

def state (seat : Seat) : Phase → SeatState
  | unsold => seat.state
  | sold _ its _ => if its.id = seat.id then .sold else seat.state

def sale (c : Basket) : Phase → List Booking
  | unsold => []
  | sold _ seat id => [⟨id, c.user, seat.showId, seat.id, some c.key⟩]

end Phase

inductive Part (c : Basket) (p : Phase) (j : Nat) (seat : Seat) : Stage → Prop
  | lookUp : Part c p j seat (.lookUp c.key)
  | opening : Part c p j seat .opening
  | fetching {tx} : Part c p j seat (.fetching tx)
  | deciding {tx read} : Part c p j seat (.deciding tx read)
  | writing {tx now} : Part c p j seat (.writing tx seat.id now)
  | recording {tx} : Part c p j seat (.recording tx ⟨c.user, seat.showId, seat.id, some c.key⟩)
  | committing {tx id} :
      Part c p j seat (.committing tx (.sale ⟨id, c.user, seat.showId, seat.id, some c.key⟩))
  | undoing {tx e} (he : e = .keyTaken ∨ e = .notLocked) (hp : p ≠ .unsold) :
      Part c p j seat (.undoing tx e)
  | lookAgain {e} (hp : p ≠ .unsold) : Part c p j seat (.lookAgain c.key e)
  | replayed {k sold id} (hp : p = .sold k sold id) (hk : j ≠ k) :
      Part c p j seat (.finished (.done (.booked id true)))
  | fresh {id} (hp : p = .sold j seat id) :
      Part c p j seat (.finished (.done (.booked id false)))

inductive Role (c : Basket) (p : Phase) (j : Nat) : Order → Stage → Prop
  | call {seat stage} (hs : seat ∈ c.seats) (hp : Part c p j seat stage) :
      Role c p j (c.order seat) stage
  | stranger {order stage} (ho : c.Stranger order) (hn : c.Names order.seatId → ¬stage.Admitted) :
      Role c p j order stage

/-- The store and the visits in a phase; `s₀` is the store at first. -/
structure Stands (c : Basket) (s₀ : Store) (p : Phase) (t : Traffic) : Prop where
  faults : t.store.faults = ⟨false, false⟩
  seat : ∀ seat ∈ c.seats, t.store.seats.get? seat.id = some { seat with state := p.state seat }
  sales : ∃ new, t.store.bookings = s₀.bookings ++ new ∧
    new.filter (fun b => c.Concerns b) = p.sale c
  role : ∀ j v, t.visits j = some v → Role c p j v.order v.stage
  winner : ∀ j seat id, p = .sold j seat id → seat ∈ c.seats ∧
    t.visits j = some ⟨c.order seat, .finished (.done (.booked id false))⟩

variable {c : Basket} {length : Span} {s₀ s s' : Store} {p p' : Phase} {t t' : Traffic}
variable {e : Event} {i j : Nat} {seat : Seat} {order : Order} {stage stage' : Stage} {b : Booking}

theorem key_order (ho : c.Opens s₀) (seat : Seat) : (c.order seat).key = some c.key := by
  simp [order, Order.key, ho.key]

theorem not_stranger_order (ho : c.Opens s₀) (seat : Seat) : ¬c.Stranger (c.order seat) :=
  fun h => h.key ⟨rfl, key_order ho seat⟩

theorem Stands.sold_of_hasKey (hc : Stands c s₀ p t) (ho : c.Opens s₀)
    (hm : b ∈ t.store.bookings) (hb : b.HasKey c.user c.key) :
    ∃ j seat, p = .sold j seat b.id := by
  obtain ⟨new, hnew, hsale⟩ := hc.sales
  rw [hnew] at hm
  rcases List.mem_append.1 hm with hm | hm
  · exact absurd hb (ho.unused b hm)
  · have hmem : b ∈ p.sale c := by
      rw [← hsale]
      exact List.mem_filter.2 ⟨hm, decide_eq_true (Or.inr hb)⟩
    cases p with
    | unsold => cases hmem
    | sold j seat id =>
      obtain rfl := List.mem_singleton.1 hmem
      exact ⟨j, seat, rfl⟩

theorem Stands.unsold_of_forall (hc : Stands c s₀ p t)
    (h : ∀ b ∈ t.store.bookings, ¬b.HasKey c.user c.key) : p = .unsold := by
  obtain ⟨new, hnew, hsale⟩ := hc.sales
  cases p with
  | unsold => rfl
  | sold j seat id =>
    have hm : (⟨id, c.user, seat.showId, seat.id, some c.key⟩ : Booking) ∈ new :=
      List.mem_of_mem_filter (by rw [hsale]; exact List.mem_singleton.2 rfl)
    rw [hnew] at h
    exact absurd ⟨rfl, rfl⟩ (h _ (List.mem_append_right _ hm))

theorem Stands.read (hc : Stands c s₀ p t) (ht : t.Sound length) (hs : seat ∈ c.seats)
    {tx : TxId} {read : Seat} (hv : t.visits i = some ⟨order, .deciding tx read⟩)
    (hr : order.seatId = seat.id) : read = { seat with state := p.state seat } := by
  have hg := (ht.stage i _ hv).grips_of_deciding.get?
  change t.store.seats.get? order.seatId = _ at hg
  rw [hr, hc.seat seat hs] at hg
  exact (Option.some.inj hg).symm

theorem Phase.state_eq (p : Phase) (seat : Seat) :
    p.state seat = seat.state ∨ p.state seat = .sold ∧ p ≠ .unsold := by
  cases p with
  | unsold => exact Or.inl rfl
  | sold j sold id =>
    by_cases h : sold.id = seat.id
    · exact Or.inr ⟨if_pos h, nofun⟩
    · exact Or.inl (if_neg h)

theorem judged_order {since now : Instant} (hheld : seat.state = .locked since c.user)
    (hlive : ¬Hold.isExpired since now length) (p : Phase) :
    (c.order seat).admits length { seat with state := p.state seat } now = .ok () ∨
      (c.order seat).admits length { seat with state := p.state seat } now = .error .notLocked ∧
        p ≠ .unsold := by
  rcases p.state_eq seat with hst | ⟨hst, hp⟩
  · exact Or.inl (Engine.admits_buy_iff.2 ⟨⟨since, hst.trans hheld, hlive⟩, rfl⟩)
  · exact Or.inr ⟨by simp only [order, Order.admits, hst], hp⟩

theorem not_admits_stranger {since now : Instant} (hx : c.Stranger order) (hs : seat ∈ c.seats)
    (hr : order.seatId = seat.id) (hheld : seat.state = .locked since c.user)
    (hlive : ¬Hold.isExpired since now length) :
    order.admits length { seat with state := p.state seat } now ≠ .ok () := by
  intro ha
  have hst : p.state seat = .locked since c.user := by
    rcases p.state_eq seat with hst | ⟨hst, -⟩
    · exact hst.trans hheld
    · exact absurd hst (Traffic.not_sold_of_admits ha)
  cases order with
  | hold r user =>
    rcases Engine.admits_hold_iff.1 ha with hfree | ⟨since', holder, hl, he⟩
    · rw [hst] at hfree
      cases hfree
    · rw [hst] at hl
      cases hl
      exact hlive he
  | buy showId r user givenKey =>
    obtain ⟨⟨since', hl, -⟩, -⟩ := Engine.admits_buy_iff.1 ha
    rw [hst] at hl
    cases hl
    exact hx.buyer showId r givenKey rfl ⟨seat, hs, hr.symm⟩

theorem Part.sold {k : Nat} {its : Seat} {id : Int} (h : Part c .unsold j seat stage) :
    Part c (.sold k its id) j seat stage := by
  cases h with
  | lookUp => exact .lookUp
  | opening => exact .opening
  | fetching => exact .fetching
  | deciding => exact .deciding
  | writing => exact .writing
  | recording => exact .recording
  | committing => exact .committing
  | undoing he hp | lookAgain hp => exact absurd rfl hp
  | replayed hp | fresh hp => cases hp

theorem Role.sold {k : Nat} {its : Seat} {id : Int} (h : Role c .unsold j order stage) :
    Role c (.sold k its id) j order stage := by
  cases h with
  | call hs hp => exact .call hs hp.sold
  | stranger hx hn => exact .stranger hx hn

theorem Stands.stay (hc : Stands c s₀ p t) {w : Option Visit}
    (hv : t'.visits = update t.visits i w) (hf : t'.store.faults = t.store.faults)
    (hs : ∀ seat ∈ c.seats, t'.store.seats.get? seat.id = t.store.seats.get? seat.id)
    {more : List Booking} (hb : t'.store.bookings = t.store.bookings ++ more)
    (hm : ∀ b ∈ more, ¬c.Concerns b) (hw : ∀ v, w = some v → Role c p i v.order v.stage)
    (hwin : ∀ order outcome, t.visits i = some ⟨order, .finished outcome⟩ →
      w = some ⟨order, .finished outcome⟩) :
    Stands c s₀ p t' := by
  refine ⟨hf.trans hc.faults, fun seat hseat => (hs seat hseat).trans (hc.seat seat hseat), ?_, ?_,
    ?_⟩
  · obtain ⟨new, hnew, hsale⟩ := hc.sales
    refine ⟨new ++ more, by rw [hb, hnew, List.append_assoc], ?_⟩
    rw [List.filter_append, hsale, List.filter_eq_nil_iff.2, List.append_nil]
    exact fun b hmem => by simpa using hm b hmem
  · intro k v hk
    rw [hv] at hk
    rcases Traffic.of_update hk with ⟨rfl, hvw⟩ | ⟨-, hk⟩
    · exact hw v hvw
    · exact hc.role k v hk
  · intro j seat id hp
    obtain ⟨hseat, hj⟩ := hc.winner j seat id hp
    refine ⟨hseat, ?_⟩
    rw [hv]
    by_cases hji : j = i
    · subst j
      rw [Function.update_self]
      exact hwin _ _ hj
    · rw [Function.update_of_ne hji]
      exact hj

theorem Stands.sell (hc : Stands c s₀ .unsold t) {id : Int} (hseat : seat ∈ c.seats)
    (hv : t'.visits = update t.visits i
      (some ⟨c.order seat, .finished (.done (.booked id false))⟩))
    (hf : t'.store.faults = t.store.faults)
    (hs : t'.store.seats = t.store.seats.put { seat with state := .sold })
    (hb : t'.store.bookings =
      t.store.bookings ++ [⟨id, c.user, seat.showId, seat.id, some c.key⟩]) :
    Stands c s₀ (.sold i seat id) t' := by
  refine ⟨hf.trans hc.faults, ?_, ?_, ?_, ?_⟩
  · intro other hother
    have hget := hc.seat other hother
    rw [hs, SeatTable.get?_put]
    by_cases hid : seat.id = other.id
    · have hsame : some seat = some other :=
        (hc.seat seat hseat).symm.trans ((congrArg _ hid).trans hget)
      obtain rfl := Option.some.inj hsame
      rw [if_pos rfl, Phase.state, if_pos rfl]
    · rw [if_neg hid, hget, Phase.state, Phase.state, if_neg hid]
  · obtain ⟨new, hnew, hsale⟩ := hc.sales
    refine ⟨new ++ _, by rw [hb, hnew, List.append_assoc], ?_⟩
    rw [List.filter_append, hsale, List.filter_cons_of_pos]
    · rfl
    · exact decide_eq_true (Or.inr ⟨rfl, rfl⟩)
  · intro k v hk
    rw [hv] at hk
    rcases Traffic.of_update hk with ⟨rfl, hvw⟩ | ⟨-, hk⟩
    · cases hvw
      exact .call hseat (.fresh rfl)
    · exact (hc.role k v hk).sold
  · intro j its id' hp
    cases hp
    refine ⟨hseat, ?_⟩
    rw [hv, Function.update_self]

theorem Stands.replayed (hc : Stands c s₀ p t) (ho : c.Opens s₀) (hm : b ∈ t.store.bookings)
    (hb : b.HasKey c.user c.key) (hv : t.visits i = some ⟨order, stage⟩)
    (hn : ∀ outcome, stage ≠ .finished outcome) :
    Part c p i seat (.finished (.done (.booked b.id true))) := by
  obtain ⟨k, its, hp⟩ := hc.sold_of_hasKey ho hm hb
  refine .replayed hp ?_
  rintro rfl
  have hi := (hc.winner i its b.id hp).2
  obtain ⟨-, rfl⟩ := Visit.mk.inj (Option.some.inj (hv.symm.trans hi))
  exact hn _ rfl

theorem Stands.sold_of_keyTaken (hc : Stands c s₀ p t) (ho : c.Opens s₀)
    (hk : Store.keyTaken t.store.bookings c.user (some c.key) = true) : p ≠ .unsold := by
  obtain ⟨key, hkey, b, hm, hb⟩ := (Store.keyTaken_eq_true_iff _ _ _).1 hk
  cases hkey
  obtain ⟨k, its, rfl⟩ := hc.sold_of_hasKey ho hm hb
  exact nofun

theorem Stands.part_next (hc : Stands c s₀ p t) (ht : t.Sound length) (ho : c.Opens s₀)
    (hs : seat ∈ c.seats) (hv : t.visits i = some ⟨c.order seat, stage⟩)
    (hp : Part c p i seat stage)
    (hlive : ∀ tx read, stage = .deciding tx read →
      ∀ since, seat.state = .locked since c.user → ¬Hold.isExpired since t.clock length)
    (ha : Advance length t.store t.clock (c.order seat) stage s' stage') :
    s'.seats = t.store.seats ∧ s'.bookings = t.store.bookings ∧ Part c p i seat stage' ∨
    ∃ id, p = .unsold ∧ s'.seats = t.store.seats.put { seat with state := .sold } ∧
      s'.bookings = t.store.bookings ++ [⟨id, c.user, seat.showId, seat.id, some c.key⟩] ∧
      stage' = .finished (.done (.booked id false)) := by
  have hkey := key_order ho seat
  cases hp with
  | lookUp =>
    cases ha with
    | found h =>
      obtain ⟨hm, hb⟩ := Store.findBooking_eq_some h
      exact Or.inl ⟨rfl, rfl, hc.replayed ho hm hb hv fun _ h => nomatch h⟩
    | unknown => exact Or.inl ⟨rfl, rfl, .opening⟩
  | opening =>
    cases ha with
    | begun => exact Or.inl ⟨rfl, rfl, .fetching⟩
  | fetching =>
    obtain ⟨hseats, hb⟩ := ha.data fun _ _ => nofun
    cases ha with
    | granted => exact Or.inl ⟨hseats, hb, .deciding⟩
    | missing hn => cases (hc.seat seat hs).symm.trans hn
    | waits => exact Or.inl ⟨hseats, hb, .fetching⟩
  | deciding =>
    obtain rfl := hc.read ht hs hv rfl
    obtain ⟨since, hheld⟩ := ho.held seat hs
    rcases judged_order hheld (hlive _ _ rfl since hheld) p with hok | ⟨hno, hp⟩
    · cases ha with
      | admitted => exact Or.inl ⟨rfl, rfl, .writing⟩
      | rejected h => cases hok.symm.trans h
    · cases ha with
      | admitted hr h => cases hno.symm.trans h
      | rejected h =>
        cases hno.symm.trans h
        exact Or.inl ⟨rfl, rfl, .undoing (Or.inr rfl) hp⟩
  | writing =>
    cases ha with
    | saleWritten =>
      refine Or.inl ⟨rfl, rfl, ?_⟩
      change Part c p i seat (.recording _ ⟨_, _, _, (c.order seat).key⟩)
      rw [hkey]
      exact .recording
  | recording =>
    cases ha with
    | insertFailed hf =>
      rw [hc.faults] at hf
      cases hf
    | insertTaken hk => exact Or.inl ⟨rfl, rfl, .undoing (Or.inl rfl) (hc.sold_of_keyTaken ho hk)⟩
    | inserted => exact Or.inl ⟨rfl, rfl, .committing⟩
  | committing =>
    rename_i tx id
    cases ha with
    | commitFailed hf =>
      rw [hc.faults] at hf
      cases hf
    | commitTaken hk =>
      rw [Engine.refuse_of_key hkey, if_pos (Or.inl rfl)]
      exact Or.inl ⟨rfl, rfl, .lookAgain (hc.sold_of_keyTaken ho hk)⟩
    | saleCommitted hf hg had hst hb hk =>
      -- The key is looked for once more at the commit, so this is the first sale with it.
      obtain rfl := hc.unsold_of_forall ((Store.keyTaken_eq_false_iff _ _ _).1 hk _ rfl)
      have hget : some seat = some _ := (hc.seat seat hs).symm.trans hg.get?
      obtain rfl := Option.some.inj hget
      exact Or.inr ⟨id, rfl, Store.seats_committed hst, Store.bookings_committed hst, rfl⟩
  | undoing he hp =>
    cases ha with
    | undone =>
      rw [Engine.refuse_of_key hkey, if_pos he]
      exact Or.inl ⟨rfl, rfl, .lookAgain hp⟩
  | lookAgain hp =>
    cases ha with
    | foundAgain h =>
      obtain ⟨hm, hb⟩ := Store.findBooking_eq_some h
      exact Or.inl ⟨rfl, rfl, hc.replayed ho hm hb hv fun _ h => nomatch h⟩
    | unknownAgain h =>
      exact absurd (hc.unsold_of_forall ((Store.findBooking_eq_none_iff _ _ _).1 h)) hp
  | replayed hp hk =>
    cases ha with
    | finished => exact Or.inl ⟨rfl, rfl, .replayed hp hk⟩
  | fresh hp =>
    cases ha with
    | finished => exact Or.inl ⟨rfl, rfl, .fresh hp⟩

theorem Stands.go_call (hc : Stands c s₀ p t) (ht : t.Sound length) (ho : c.Opens s₀)
    (hs : seat ∈ c.seats) (hv : t.visits i = some ⟨c.order seat, stage⟩)
    (hp : Part c p i seat stage)
    (hlive : ∀ tx read, stage = .deciding tx read →
      ∀ since, seat.state = .locked since c.user → ¬Hold.isExpired since t.clock length)
    (ha : Advance length t.store t.clock (c.order seat) stage s' stage') :
    ∃ p', Stands c s₀ p'
      { t with store := s', visits := update t.visits i (some ⟨c.order seat, stage'⟩) } := by
  rcases hc.part_next ht ho hs hv hp hlive ha with ⟨hseats, hb, hp'⟩ | ⟨id, rfl, hseats, hb, rfl⟩
  · refine ⟨p, hc.stay rfl (Traffic.advance_faults ha) (fun other _ => ?_)
      (hb.trans (List.append_nil _).symm) nofun ?_ ?_⟩
    · change s'.seats.get? other.id = _
      rw [hseats]
    · intro v hw
      cases hw
      exact .call hs hp'
    · intro order outcome hi
      obtain ⟨rfl, rfl⟩ := Visit.mk.inj (Option.some.inj (hv.symm.trans hi))
      rw [ha.finished_eq]
  · exact ⟨_, hc.sell hs rfl (Traffic.advance_faults ha) hseats hb⟩

theorem Stands.go_stranger (hc : Stands c s₀ p t) (ht : t.Sound length) (ho : c.Opens s₀)
    (hv : t.visits i = some ⟨order, stage⟩) (hx : c.Stranger order)
    (hn : c.Names order.seatId → ¬stage.Admitted)
    (hlive : ∀ tx read, stage = .deciding tx read → ∀ seat ∈ c.seats, order.seatId = seat.id →
      ∀ since, seat.state = .locked since c.user → ¬Hold.isExpired since t.clock length)
    (ha : Advance length t.store t.clock order stage s' stage') :
    Stands c s₀ p { t with store := s', visits := update t.visits i (some ⟨order, stage'⟩) } := by
  have hstay : ∀ {more}, s'.bookings = t.store.bookings ++ more → (∀ b ∈ more, ¬c.Concerns b) →
      (∀ seat ∈ c.seats, s'.seats.get? seat.id = t.store.seats.get? seat.id) →
      (c.Names order.seatId → ¬stage'.Admitted) → Stands c s₀ p
        { t with store := s', visits := update t.visits i (some ⟨order, stage'⟩) } := by
    intro more hb hm hs hn'
    refine hc.stay rfl (Traffic.advance_faults ha) hs hb hm ?_ ?_
    · intro v hw
      cases hw
      exact .stranger hx hn'
    · intro order' outcome hi
      obtain ⟨rfl, rfl⟩ := Visit.mk.inj (Option.some.inj (hv.symm.trans hi))
      rw [ha.finished_eq]
  -- At one of the seats a stranger is never admitted and so commits nothing; elsewhere he may
  -- commit, but what he writes is neither of these seats nor of this key.
  by_cases hr : c.Names order.seatId
  · have hcommit : ∀ tx gain, stage ≠ .committing tx gain := by
      rintro tx gain rfl
      exact hn hr trivial
    obtain ⟨hs, hb⟩ := ha.data hcommit
    refine hstay (hb.trans (List.append_nil _).symm) nofun (fun seat _ => by rw [hs]) ?_
    intro _ hadm
    rcases ha.of_admitted hadm with h | ⟨tx, read, rfl, hok⟩
    · exact hn hr h
    · obtain ⟨seat, hs, hid⟩ := hr
      obtain ⟨since, hheld⟩ := ho.held seat hs
      obtain rfl := hc.read ht hs hv hid.symm
      exact not_admits_stranger hx hs hid.symm hheld (hlive tx _ rfl seat hs hid.symm since hheld)
        hok
  · obtain ⟨more, hb, hm⟩ := ha.bookings
    refine hstay hb ?_ ?_ fun h => absurd h hr
    · intro b hmem hb
      obtain ⟨hbr, hbu, hbk⟩ := hm b hmem
      rcases hb with hnames | ⟨huser, hkey⟩
      · rw [hbr] at hnames
        exact hr hnames
      · exact hx.key ⟨hbu.symm.trans huser, hbk.symm.trans hkey⟩
    · intro seat hs
      exact (Traffic.advance_elsewhere ha fun h => hr ⟨seat, hs, h.symm⟩).1

end Basket

end BoxOffice
