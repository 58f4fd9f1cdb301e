import BoxOffice.Proofs.TrafficSoundness

set_option autoImplicit false

namespace BoxOffice

open Engine (TxId Order Stage Gain Outcome Advance)
open Function (update)

/-- The answer names a committed booking of the order's user with the order's key. -/
def Engine.Order.Replayed (order : Order) (s : Store) (outcome : Outcome) : Prop :=
  ∃ key b, order.key = some key ∧ b ∈ s.bookings ∧ b.HasKey order.userId key ∧
    outcome = .done (.booked b.id true)

namespace Traffic

/-- Nobody is answered for the first time with anything but a refusal or an earlier booking. -/
def NoNews (t t' : Traffic) : Prop :=
  ∀ i v outcome, t'.visits i = some v → v.stage = .finished outcome →
    t.visits i = some v ∨ (∃ e, outcome = .refused e) ∨ v.order.Replayed t.store outcome

inductive Effect (length : Span) (t t' : Traffic) : Prop
  | none (hs : t'.store.seats = t.store.seats) (hb : t'.store.bookings = t.store.bookings)
      (hv : NoNews t t')
  | hold {i : Nat} {r user : Int} {tx : TxId} {since : Instant} {seat : Seat}
      (hi : t.visits i = some ⟨.hold r user, .committing tx (.hold since)⟩)
      (hg : t.store.Grips tx r seat)
      (ha : (Order.hold r user).admits length seat since = .ok ())
      (hs : t'.store.seats = t.store.seats.put { seat with state := .locked since user })
      (hb : t'.store.bookings = t.store.bookings)
      (hv : t'.visits = update t.visits i
        (some ⟨.hold r user, .finished ((Gain.hold since).outcome length)⟩))
  | sale {i : Nat} {showId r user : Int} {givenKey : Option String} {tx : TxId} {b : Booking}
      {seat : Seat} {read : Instant}
      (hi : t.visits i = some ⟨.buy showId r user givenKey, .committing tx (.sale b)⟩)
      (hg : t.store.Grips tx r seat)
      (ha : (Order.buy showId r user givenKey).admits length seat read = .ok ())
      (hn : b = ⟨b.id, user, showId, r, (Order.buy showId r user givenKey).key⟩)
      (hk : Store.keyTaken t.store.bookings b.userId b.key = false)
      (hs : t'.store.seats = t.store.seats.put { seat with state := .sold })
      (hb : t'.store.bookings = t.store.bookings ++ [b])
      (hv : t'.visits = update t.visits i
        (some ⟨.buy showId r user givenKey, .finished (.done (.booked b.id false))⟩))

variable {length : Span} {s : Store} {t t' : Traffic} {e : Event} {i j : Nat} {v w : Visit}

theorem not_sold_of_admits {order : Order} {seat : Seat} {now : Instant}
    (ha : order.admits length seat now = .ok ()) : seat.state ≠ .sold := by
  intro hs
  cases order <;> simp [Order.admits, hs] at ha

theorem get?_put_of_grips {tx : TxId} {r : Int} {seat : Seat} (hg : s.Grips tx r seat)
    (state : SeatState) (q : Int) :
    (s.seats.put { seat with state }).get? q =
      if q = r then some { seat with state } else s.seats.get? q := by
  have hr := SeatTable.id_of_get? hg.get?
  rw [SeatTable.get?_put]
  simp only [hr, eq_comm]

theorem advance_elsewhere {now : Instant} {order : Order} {stage stage' : Stage} {s' : Store}
    {r : Int} (h : Advance length s now order stage s' stage') (hr : order.seatId ≠ r) :
    s'.seats.get? r = s.seats.get? r ∧
      (s'.bookings.filter fun b => b.seatId = r) = s.bookings.filter fun b => b.seatId = r := by
  cases h with
  | granted hs hg =>
    rcases hs with rfl | rfl
    · exact ⟨rfl, rfl⟩
    · rw [Store.seats_claim, Store.bookings_claim]
      exact ⟨rfl, rfl⟩
  | waits =>
    rw [Store.seats_claim, Store.bookings_claim]
    exact ⟨rfl, rfl⟩
  | holdCommitted hf hg ha hst =>
    have hne := Ne.symm hr
    rw [Store.seats_committed hst, Store.bookings_committed hst, List.append_nil,
      get?_put_of_grips hg]
    exact ⟨if_neg hne, rfl⟩
  | saleCommitted hf hg ha hst hb =>
    have hne := Ne.symm hr
    have hbr := congrArg Booking.seatId hb
    rw [Store.seats_committed hst, Store.bookings_committed hst, get?_put_of_grips hg,
      List.filter_append, List.filter_cons_of_neg, List.filter_nil, List.append_nil]
    · exact ⟨if_neg hne, rfl⟩
    · rw [hbr]
      exact fun h => hr (of_decide_eq_true h)
  | _ => exact ⟨rfl, rfl⟩

theorem advance_faults {now : Instant} {order : Order} {stage stage' : Stage} {s' : Store}
    (h : Advance length s now order stage s' stage') : s'.faults = s.faults := by
  cases h with
  | granted hs hg =>
    rcases hs with rfl | rfl
    · rfl
    · exact Store.faults_claim _ _ _
  | waits => exact Store.faults_claim _ _ _
  | _ => rfl

theorem faults_deserted (s : Store) (stage : Stage) : (s.deserted stage).faults = s.faults := by
  unfold Store.deserted
  split <;> rfl

theorem seats_deserted (s : Store) (stage : Stage) : (s.deserted stage).seats = s.seats := by
  unfold Store.deserted
  split <;> rfl

theorem bookings_deserted (s : Store) (stage : Stage) :
    (s.deserted stage).bookings = s.bookings := by
  unfold Store.deserted
  split <;> rfl

theorem refuse_eq_finished {order : Order} {e : BookingError} {outcome : Outcome}
    (h : order.refuse e = .finished outcome) : outcome = .refused e := by
  unfold Order.refuse at h
  split at h
  · split at h
    · cases h
    · exact (Stage.finished.inj h).symm
  · exact (Stage.finished.inj h).symm

theorem noNews_update {w : Option Visit} (ht' : t'.visits = update t.visits i w)
    (hw : ∀ u outcome, w = some u → u.stage = .finished outcome →
      t.visits i = some u ∨ (∃ e, outcome = .refused e) ∨ u.order.Replayed t.store outcome) :
    NoNews t t' := by
  intro j u outcome hj hu
  rw [ht'] at hj
  rcases of_update hj with ⟨rfl, hjw⟩ | ⟨-, hj⟩
  · exact hw u outcome hjw hu
  · exact Or.inl hj

theorem Sound.effect_go (ht : t.Sound length) (hv : t.visits i = some v) {s' : Store}
    {stage' : Stage} (ha : Advance length t.store t.clock v.order v.stage s' stage') :
    Effect length t
      { t with store := s', visits := update t.visits i (some ⟨v.order, stage'⟩) } := by
  have quiet : s'.seats = t.store.seats → s'.bookings = t.store.bookings →
      (∀ outcome, stage' = .finished outcome → v.stage = stage' ∨
        (∃ e, outcome = .refused e) ∨ v.order.Replayed t.store outcome) →
      Effect length t
        { t with store := s', visits := update t.visits i (some ⟨v.order, stage'⟩) } := by
    intro hs hb ho
    refine .none hs hb (noNews_update rfl fun u outcome hu hf => ?_)
    cases hu
    rcases ho outcome hf with h | h
    · rw [← h]
      exact Or.inl hv
    · exact Or.inr h
  obtain ⟨order, stage⟩ := v
  have hs := ht.stage i _ hv
  simp only at ha hs quiet ⊢
  cases ha with
  | unknown | begun | missing | admitted | rejected | heldWritten | saleWritten | insertFailed
  | insertTaken | inserted => exact quiet rfl rfl fun _ h => nomatch h
  | granted hc hg =>
    rcases hc with rfl | rfl
    · exact quiet rfl rfl fun _ h => nomatch h
    · exact quiet (Store.seats_claim _ _ _) (Store.bookings_claim _ _ _) fun _ h => nomatch h
  | waits => exact quiet (Store.seats_claim _ _ _) (Store.bookings_claim _ _ _) fun _ h => nomatch h
  | withdrawn | commitFailed | commitTaken | undone =>
    exact quiet rfl rfl fun outcome h => Or.inr (Or.inl ⟨_, refuse_eq_finished h⟩)
  | gaveUp | unknownAgain =>
    exact quiet rfl rfl fun outcome h => Or.inr (Or.inl ⟨_, (Stage.finished.inj h).symm⟩)
  | finished => exact quiet rfl rfl fun outcome h => Or.inl rfl
  | found h =>
    cases hs with
    | lookUp hk =>
      obtain ⟨hm, hu⟩ := Store.findBooking_eq_some h
      exact quiet rfl rfl fun outcome he =>
        Or.inr (Or.inr ⟨_, _, hk, hm, hu, (Stage.finished.inj he).symm⟩)
  | foundAgain h =>
    cases hs with
    | lookAgain hk =>
      obtain ⟨hm, hu⟩ := Store.findBooking_eq_some h
      exact quiet rfl rfl fun outcome he =>
        Or.inr (Or.inr ⟨_, _, hk, hm, hu, (Stage.finished.inj he).symm⟩)
  | holdCommitted hf hg ha hst =>
    refine .hold hv hg ha ?_ ?_ rfl
    · rw [Store.seats_committed hst]
    · rw [Store.bookings_committed hst, List.append_nil]
  | saleCommitted hf hg ha hst hn hk =>
    refine .sale hv hg ha hn hk ?_ ?_ rfl
    · rw [Store.seats_committed hst]
    · rw [Store.bookings_committed hst]

theorem Sound.effect (ht : t.Sound length) (h : Happens length t e t') : Effect length t t' := by
  cases h with
  | arrives order =>
    refine .none rfl rfl (noNews_update rfl fun u outcome hu hf => ?_)
    cases hu
    unfold Order.first at hf
    split at hf <;> cases hf
  | goes hv ha => exact ht.effect_go hv ha
  | expires hv hw =>
    refine .none rfl rfl (noNews_update rfl fun u outcome hu hf => ?_)
    cases hu
    rename_i v
    cases hs : v.stage with
    | opening =>
      rw [hs] at hf
      exact Or.inr (Or.inl ⟨_, (Stage.finished.inj hf).symm⟩)
    | fetching | withdrawing => simp [hs, Stage.expire] at hf
    | _ => simp [hs, Stage.isWaiting] at hw
  | leaves hv hw =>
    refine .none (seats_deserted _ _) (bookings_deserted _ _) (noNews_update rfl fun u _ hu => ?_)
    cases hu
  | clock | faults | nothing => exact .none rfl rfl fun i v _ hv _ => Or.inl hv

theorem Effect.mem_bookings (h : Effect length t t') {b : Booking} (hm : b ∈ t.store.bookings) :
    b ∈ t'.store.bookings := by
  cases h with
  | none hs hb hv =>
    rw [hb]
    exact hm
  | hold hi hg ha hs hb hv =>
    rw [hb]
    exact hm
  | sale hi hg ha hn hk hs hb hv =>
    rw [hb]
    exact List.mem_append_left _ hm

theorem Effect.get?_of_sold (h : Effect length t t') {r : Int} {seat : Seat}
    (hr : t.store.seats.get? r = some seat) (hs : seat.state = .sold) :
    t'.store.seats.get? r = some seat := by
  have keep : ∀ {tx q seat' state} {order : Order} {now},
      t.store.Grips tx q seat' → order.admits length seat' now = .ok () →
      (t.store.seats.put { seat' with state }).get? r = some seat := by
    intro tx q seat' state order now hg ha
    rw [get?_put_of_grips hg, if_neg]
    · exact hr
    · rintro rfl
      obtain rfl := Option.some.inj (hr.symm.trans hg.get?)
      exact not_sold_of_admits ha hs
  cases h with
  | none hseats hb hv =>
    rw [hseats]
    exact hr
  | hold hi hg ha hseats hb hv =>
    rw [hseats]
    exact keep hg ha
  | sale hi hg ha hn hk hseats hb hv =>
    rw [hseats]
    exact keep hg ha

end Traffic

end BoxOffice
