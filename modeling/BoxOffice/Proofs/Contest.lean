import BoxOffice.Proofs.HoldPromise

set_option autoImplicit false

/-!
# A contest for one seat

Any number of buyers want one seat, and each asks to hold it and, if that is granted, to buy it. A
contest goes through four phases: nobody has looked at the clock yet, the first who did is on his
way to the hold, he holds the seat, he has bought it. `Part` says what each order for the seat can
be doing in each phase.
-/

namespace BoxOffice

open Engine (TxId Order Stage Gain Advance)
open Function (update)

structure Contest where
  showId : Int
  seatId : Int
  users : List Int

namespace Contest

/-- Each buyer asks once to hold the seat and, when told that he holds it, once to buy it. There
are no other orders for the seat, nobody stops waiting for it, and no faults are switched on. -/
inductive Allows (c : Contest) (t : Traffic) : Event → Prop
  | hold {user} (hu : user ∈ c.users)
      (hn : ∀ i v, t.visits i = some v → v.order ≠ .hold c.seatId user) :
      Allows c t (.arrive (.hold c.seatId user))
  | buy {user i e} (hi : t.visits i = some ⟨.hold c.seatId user, .finished (.done (.held e))⟩)
      (hn : ∀ i v, t.visits i = some v → v.order ≠ .buy c.showId c.seatId user none) :
      Allows c t (.arrive (.buy c.showId c.seatId user none))
  | other {order} (ho : order.seatId ≠ c.seatId) : Allows c t (.arrive order)
  | go (i : Nat) : Allows c t (.go i)
  | expire {i} (hi : ∀ v, t.visits i = some v → v.order.seatId ≠ c.seatId) :
      Allows c t (.expire i)
  | leave {i} (hi : ∀ v, t.visits i = some v → v.order.seatId ≠ c.seatId) :
      Allows c t (.leave i)
  | clock (now : Instant) : Allows c t (.clock now)

/-- Every buyer has come, whoever was granted the hold has come to buy, and nobody can go on. -/
structure Complete (c : Contest) (length : Span) (t : Traffic) : Prop where
  came : ∀ user ∈ c.users, ∃ i v, t.visits i = some v ∧ v.order = .hold c.seatId user
  bought : ∀ i user e,
    t.visits i = some ⟨.hold c.seatId user, .finished (.done (.held e))⟩ →
    ∃ j v, t.visits j = some v ∧ v.order = .buy c.showId c.seatId user none
  still : ∀ i v, t.visits i = some v → v.order.seatId = c.seatId → t.step length (.go i) = t

/-- Numbers are those of the visits to hold and to buy the seat. -/
inductive Phase where
  | untaken
  | taking (i : Nat) (user : Int)
  | held (i : Nat) (user : Int)
  | sold (i : Nat) (user : Int) (j : Nat) (id : Int)

namespace Phase

def first? : Phase → Option Nat
  | untaken => none
  | taking i _ | held i _ | sold i _ _ _ => some i

def state (seat : Seat) (since : Instant) : Phase → SeatState
  | untaken | taking _ _ => seat.state
  | held _ user => .locked since user
  | sold _ _ _ _ => .sold

def sales (c : Contest) : Phase → List Booking
  | sold _ user _ id => [⟨id, user, c.showId, c.seatId, none⟩]
  | _ => []

def Reads (length : Span) (since : Instant) : Phase → List Instant → Prop
  | untaken, readings => (∀ now ∈ readings.head?, now = since) ∧
      ∀ now ∈ readings.tail, ¬Hold.isExpired since now length
  | _, readings => ∀ now ∈ readings, ¬Hold.isExpired since now length

end Phase

inductive Early : Stage → Prop
  | opening : Early .opening
  | fetching {tx} : Early (.fetching tx)
  | deciding {tx seat} : Early (.deciding tx seat)

inductive TurnedDown : Stage → Prop
  | undoing {tx e} (he : e = .alreadyLocked ∨ e = .alreadySold) : TurnedDown (.undoing tx e)
  | finished {e} (he : e = .alreadyLocked ∨ e = .alreadySold) :
      TurnedDown (.finished (.refused e))

inductive Part (c : Contest) (since e : Instant) (p : Phase) (j : Nat) : Order → Stage → Prop
  | early {user stage} (hu : user ∈ c.users) (hj : p.first? ≠ some j) (hs : Early stage) :
      Part c since e p j (.hold c.seatId user) stage
  | turnedDown {user stage} (hu : user ∈ c.users) (hj : p.first? ≠ some j) (hp : p ≠ .untaken)
      (hs : TurnedDown stage) : Part c since e p j (.hold c.seatId user) stage
  | writing {user tx} (hu : user ∈ c.users) (hp : p = .taking j user) :
      Part c since e p j (.hold c.seatId user) (.writing tx c.seatId since)
  | committing {user tx} (hu : user ∈ c.users) (hp : p = .taking j user) :
      Part c since e p j (.hold c.seatId user) (.committing tx (.hold since))
  | holder {user} (hu : user ∈ c.users)
      (hp : p = .held j user ∨ ∃ k id, p = .sold j user k id) :
      Part c since e p j (.hold c.seatId user) (.finished (.done (.held e)))
  | buyer {i user stage} (hp : p = .held i user) (hs : Early stage) :
      Part c since e p j (.buy c.showId c.seatId user none) stage
  | selling {i user tx now} (hp : p = .held i user) :
      Part c since e p j (.buy c.showId c.seatId user none) (.writing tx c.seatId now)
  | recording {i user tx} (hp : p = .held i user) :
      Part c since e p j (.buy c.showId c.seatId user none)
        (.recording tx ⟨user, c.showId, c.seatId, none⟩)
  | closing {i user tx id} (hp : p = .held i user) :
      Part c since e p j (.buy c.showId c.seatId user none)
        (.committing tx (.sale ⟨id, user, c.showId, c.seatId, none⟩))
  | owner {i user id} (hp : p = .sold i user j id) :
      Part c since e p j (.buy c.showId c.seatId user none)
        (.finished (.done (.booked id false)))

/-- A contest in one of its phases; `seat` and `bookings` are those of the start. -/
structure Stands (c : Contest) (seat : Seat) (bookings : List Booking) (since e : Instant)
    (p : Phase) (t : Traffic) : Prop where
  faults : t.store.faults = ⟨false, false⟩
  seat : t.store.seats.get? c.seatId = some { seat with state := p.state seat since }
  sales : (t.store.bookings.filter fun b => b.seatId = c.seatId) = bookings ++ p.sales c
  part : ∀ j v, t.visits j = some v → v.order.seatId = c.seatId →
    Part c since e p j v.order v.stage
  distinct : ∀ j k v w, t.visits j = some v → t.visits k = some w →
    v.order.seatId = c.seatId → v.order = w.order → j = k
  first : ∀ i, p.first? = some i → ∃ user stage, t.visits i = some ⟨.hold c.seatId user, stage⟩
  owner : ∀ i user j id, p = .sold i user j id →
    t.visits j =
      some ⟨.buy c.showId c.seatId user none, .finished (.done (.booked id false))⟩

variable {c : Contest} {length : Span} {seat : Seat} {bs : List Booking} {since e now : Instant}
variable {p p' : Phase} {t t' : Traffic} {s' : Store} {i j k : Nat} {user : Int} {order : Order}
variable {stage stage' : Stage} {v : Visit}

theorem Part.taking (h : Part c since e .untaken k order stage) (hk : k ≠ i) :
    Part c since e (.taking i user) k order stage := by
  cases h with
  | early hu hj hs => exact .early hu (fun h => hk (Option.some.inj h).symm) hs
  | turnedDown hu hj hp hs => exact absurd rfl hp
  | holder hu hp =>
    rcases hp with hp | ⟨_, _, hp⟩ <;> cases hp
  | writing hu hp | committing hu hp => cases hp
  | buyer hp | selling hp | recording hp | closing hp | owner hp => cases hp

theorem Part.held (h : Part c since e (.taking i user) k order stage) (hk : k ≠ i) :
    Part c since e (.held i user) k order stage := by
  cases h with
  | early hu hj hs => exact .early hu hj hs
  | turnedDown hu hj hp hs => exact .turnedDown hu hj nofun hs
  | holder hu hp =>
    rcases hp with hp | ⟨_, _, hp⟩ <;> cases hp
  | writing hu hp | committing hu hp =>
    cases hp
    exact absurd rfl hk
  | buyer hp | selling hp | recording hp | closing hp | owner hp => cases hp

theorem Part.sold {id : Int} (h : Part c since e (.held i user) k order stage)
    (hn : order ≠ .buy c.showId c.seatId user none) :
    Part c since e (.sold i user j id) k order stage := by
  cases h with
  | early hu hj hs => exact .early hu hj hs
  | turnedDown hu hj hp hs => exact .turnedDown hu hj nofun hs
  | holder hu hp =>
    rcases hp with hp | ⟨_, _, hp⟩
    · cases hp
      exact .holder hu (Or.inr ⟨j, id, rfl⟩)
    · cases hp
  | writing hu hp | committing hu hp => cases hp
  | buyer hp | selling hp | recording hp | closing hp =>
    cases hp
    exact absurd rfl hn
  | owner hp => cases hp

theorem Part.of_first (h : Part c since e p i (.hold c.seatId user) stage)
    (hi : p.first? = some i) :
    user ∈ c.users ∧ (p = .taking i user ∧ stage.Admitted ∨
      (p = .held i user ∨ ∃ k id, p = .sold i user k id) ∧
        stage = .finished (.done (.held e))) := by
  cases h with
  | early hu hj hs | turnedDown hu hj hp hs => exact absurd hi hj
  | writing hu hp | committing hu hp => exact ⟨hu, Or.inl ⟨hp, trivial⟩⟩
  | holder hu hp => exact ⟨hu, Or.inr ⟨hp, rfl⟩⟩

theorem Stands.change (hc : Stands c seat bs since e p t)
    (hv : t.visits i = some ⟨order, stage⟩) (hf : s'.faults = t.store.faults)
    (hs : s'.seats.get? c.seatId = some { seat with state := p'.state seat since })
    (hb : (s'.bookings.filter fun b => b.seatId = c.seatId) = bs ++ p'.sales c)
    (hp : order.seatId = c.seatId → Part c since e p' i order stage')
    (hothers : ∀ k v, k ≠ i → t.visits k = some v → v.order.seatId = c.seatId →
      Part c since e p' k v.order v.stage)
    (hfirst : ∀ k, p'.first? = some k →
      p.first? = some k ∨ k = i ∧ ∃ user, order = .hold c.seatId user)
    (howner : ∀ k user j id, p' = .sold k user j id →
      update t.visits i (some ⟨order, stage'⟩) j =
        some ⟨.buy c.showId c.seatId user none, .finished (.done (.booked id false))⟩) :
    Stands c seat bs since e p'
      { t with store := s', visits := update t.visits i (some ⟨order, stage'⟩) } := by
  have before : ∀ {j v}, update t.visits i (some ⟨order, stage'⟩) j = some v →
      ∃ w, t.visits j = some w ∧ w.order = v.order := by
    intro j v hj
    rcases Traffic.of_update hj with ⟨rfl, hw⟩ | ⟨-, hj⟩
    · cases hw
      exact ⟨_, hv, rfl⟩
    · exact ⟨v, hj, rfl⟩
  refine ⟨hf.trans hc.faults, hs, hb, ?_, ?_, ?_, howner⟩
  · intro j v hj hr
    rcases Traffic.of_update hj with ⟨rfl, hw⟩ | ⟨hji, hj⟩
    · cases hw
      exact hp hr
    · exact hothers j v hji hj hr
  · intro j k v w hj hk hr hvw
    obtain ⟨v', hj, hv'⟩ := before hj
    obtain ⟨w', hk, hw'⟩ := before hk
    rw [← hv'] at hr hvw
    rw [← hw'] at hvw
    exact hc.distinct j k v' w' hj hk hr hvw
  · intro k hk
    change ∃ user stage, update t.visits i _ k = _
    by_cases hki : k = i
    · subst k
      rw [Function.update_self]
      rcases hfirst i hk with hk | ⟨-, user, hu⟩
      · obtain ⟨user, stage, hi⟩ := hc.first i hk
        obtain rfl : order = .hold c.seatId user :=
          congrArg Visit.order (Option.some.inj (hv.symm.trans hi))
        exact ⟨user, stage', rfl⟩
      · rw [hu]
        exact ⟨user, stage', rfl⟩
    · rw [Function.update_of_ne hki]
      rcases hfirst k hk with hk | ⟨hk, -⟩
      · exact hc.first k hk
      · exact absurd hk hki

theorem Stands.stay (hc : Stands c seat bs since e p t) (hv : t.visits i = some ⟨order, stage⟩)
    (ha : Advance length t.store t.clock order stage s' stage')
    (hs : s'.seats.get? c.seatId = t.store.seats.get? c.seatId)
    (hb : (s'.bookings.filter fun b => b.seatId = c.seatId) =
      t.store.bookings.filter fun b => b.seatId = c.seatId)
    (hp : order.seatId = c.seatId → Part c since e p i order stage') :
    Stands c seat bs since e p
      { t with store := s', visits := update t.visits i (some ⟨order, stage'⟩) } := by
  refine hc.change hv (Traffic.advance_faults ha) (hs.trans hc.seat) (hb.trans hc.sales) hp
    (fun k v _ hk hr => hc.part k v hk hr) (fun k hk => Or.inl hk) ?_
  intro k user j id hsold
  have hj := hc.owner k user j id hsold
  by_cases hji : j = i
  · subst j
    obtain ⟨rfl, rfl⟩ := Visit.mk.inj (Option.some.inj (hv.symm.trans hj))
    cases ha
    rw [Function.update_self]
  · rw [Function.update_of_ne hji]
    exact hj

theorem Stands.elsewhere (hc : Stands c seat bs since e p t)
    (hf : t'.store.faults = t.store.faults)
    (hs : t'.store.seats.get? c.seatId = t.store.seats.get? c.seatId)
    (hb : (t'.store.bookings.filter fun b => b.seatId = c.seatId) =
      t.store.bookings.filter fun b => b.seatId = c.seatId)
    (hv : ∀ j v, v.order.seatId = c.seatId → (t'.visits j = some v ↔ t.visits j = some v)) :
    Stands c seat bs since e p t' := by
  refine ⟨hf.trans hc.faults, hs.trans hc.seat, hb.trans hc.sales, ?_, ?_, ?_, ?_⟩
  · intro j v hj hr
    exact hc.part j v ((hv j v hr).1 hj) hr
  · intro j k v w hj hk hr hvw
    have hr' := hr
    rw [hvw] at hr'
    exact hc.distinct j k v w ((hv j v hr).1 hj) ((hv k w hr').1 hk) hr hvw
  · intro i hi
    obtain ⟨user, stage, hi⟩ := hc.first i hi
    exact ⟨user, stage, (hv i _ rfl).2 hi⟩
  · intro i user j id hp
    exact (hv j _ rfl).2 (hc.owner i user j id hp)

theorem Stands.alone (hc : Stands c seat bs since e (.taking k user) t) (ht : t.Sound length)
    (hv : t.visits i = some v) {tx : TxId} (htx : v.stage.tx? = some tx)
    (hh : t.store.Holds tx c.seatId) : i = k := by
  obtain ⟨user', stage, hk⟩ := hc.first k rfl
  have hadm : stage.Admitted := by
    rcases ((hc.part k _ hk rfl).of_first rfl).2 with ⟨-, h⟩ | ⟨hp | ⟨_, _, hp⟩, -⟩
    · exact h
    · cases hp
    · cases hp
  obtain ⟨tx', seat', htx', hg⟩ := (ht.stage k _ hk).grips_of_admitted hadm
  obtain rfl := hh.eq hg.holds
  exact ht.tx_inj i k v _ tx hv hk htx htx'

theorem Stands.read (hc : Stands c seat bs since e p t) (ht : t.Sound length) {tx : TxId}
    {seat' : Seat} (hv : t.visits i = some ⟨order, .deciding tx seat'⟩)
    (hr : order.seatId = c.seatId) : seat' = { seat with state := p.state seat since } := by
  have hg := (ht.stage i _ hv).grips_of_deciding.get?
  change t.store.seats.get? order.seatId = _ at hg
  rw [hr, hc.seat] at hg
  exact (Option.some.inj hg).symm

theorem Stands.untaken_of_admits (hc : Stands c seat bs since e p t) (ht : t.Sound length)
    (hn : p ≠ .untaken → ¬Hold.isExpired since t.clock length)
    {tx : TxId} {seat' : Seat}
    (hv : t.visits i = some ⟨.hold c.seatId user, .deciding tx seat'⟩) (hi : p.first? ≠ some i)
    (ha : (Order.hold c.seatId user).admits length seat' t.clock = .ok ()) : p = .untaken := by
  have hread := hc.read ht hv rfl
  cases p with
  | untaken => rfl
  | taking k other =>
    have hg := (ht.stage i _ hv).grips_of_deciding
    obtain rfl := hc.alone ht hv rfl hg.holds
    exact absurd rfl hi
  | held k other =>
    have hlive := hn nofun
    subst seat'
    rcases Engine.admits_hold_iff.1 ha with h | ⟨since', holder, h, hx⟩
    · cases h
    · cases h
      exact absurd hx hlive
  | sold k other j id =>
    subst seat'
    exact absurd rfl (Traffic.not_sold_of_admits ha)

theorem Early.next {s : Store} (hs : Early stage) (hg : s.seats.get? order.seatId ≠ none)
    (ha : Advance length s now order stage s' stage') :
    (∃ tx seat, stage = .deciding tx seat) ∨
      (Early stage' ∧ s'.seats = s.seats ∧ s'.bookings = s.bookings ∧
        ∀ tx seat, stage ≠ .deciding tx seat) := by
  cases hs with
  | opening =>
    cases ha with
    | begun => exact Or.inr ⟨.fetching, rfl, rfl, fun _ _ h => nomatch h⟩
  | fetching =>
    cases ha with
    | granted hs hg =>
      rcases hs with rfl | rfl
      · exact Or.inr ⟨.deciding, rfl, rfl, fun _ _ h => nomatch h⟩
      · exact Or.inr ⟨.deciding, Store.seats_claim _ _ _, Store.bookings_claim _ _ _,
          fun _ _ h => nomatch h⟩
    | missing hn => exact absurd hn hg
    | waits =>
      exact Or.inr ⟨.fetching, Store.seats_claim _ _ _, Store.bookings_claim _ _ _,
        fun _ _ h => nomatch h⟩
  | deciding => exact Or.inl ⟨_, _, rfl⟩

theorem Stands.go_early (hc : Stands c seat bs since e p t) (ht : t.Sound length)
    (hfree : (Order.hold c.seatId user).admits length seat since = .ok ())
    (hv : t.visits i = some ⟨.hold c.seatId user, stage⟩) (hu : user ∈ c.users)
    (hi : p.first? ≠ some i) (hs : Early stage)
    (hn : ∀ tx seat', stage = .deciding tx seat' →
      (p = .untaken → t.clock = since) ∧
        (p ≠ .untaken → ¬Hold.isExpired since t.clock length))
    (ha : Advance length t.store t.clock (.hold c.seatId user) stage s' stage') :
    ∃ p', Stands c seat bs since e p'
        { t with store := s', visits := update t.visits i (some ⟨.hold c.seatId user, stage'⟩) } ∧
      (p' = .untaken ↔ p = .untaken ∧ ∀ tx seat', stage ≠ .deciding tx seat') := by
  have hseat : t.store.seats.get? (Order.hold c.seatId user).seatId ≠ none := by
    change t.store.seats.get? c.seatId ≠ none
    rw [hc.seat]
    exact Option.some_ne_none _
  rcases hs.next hseat ha with ⟨tx, seat', rfl⟩ | ⟨hs', hseats, hb, hnd⟩
  · obtain ⟨hclock, hlate⟩ := hn tx seat' rfl
    have hread := hc.read ht hv rfl
    have hgo := ha
    cases ha with
    | admitted hr hok =>
      obtain rfl := hc.untaken_of_admits ht hlate hv hi hok
      refine ⟨.taking i user, ?_, by simp⟩
      refine hc.change hv rfl hc.seat hc.sales ?_ ?_ ?_ fun _ _ _ _ h => nomatch h
      · intro _
        rw [hclock rfl]
        exact .writing hu rfl
      · intro k v hk hv hr
        exact (hc.part k v hv hr).taking hk
      · intro k hk
        cases hk
        exact Or.inr ⟨rfl, user, rfl⟩
    | rejected hno =>
      have hp : p ≠ .untaken := by
        rintro rfl
        subst seat'
        rw [hclock rfl] at hno
        cases hfree.symm.trans hno
      refine ⟨p, hc.stay hv hgo rfl rfl fun _ => .turnedDown hu hi hp (.undoing ?_),
        by simp [hp]⟩
      rcases Engine.admits_hold_error hno with ⟨h, -⟩ | ⟨h, -⟩
      · exact Or.inl h
      · exact Or.inr h
  · refine ⟨p, hc.stay hv ha ?_ ?_ fun _ => .early hu hi hs', by simp [hnd]⟩
    · rw [hseats]
    · rw [hb]

theorem Stands.go_turnedDown (hc : Stands c seat bs since e p t)
    (hv : t.visits i = some ⟨.hold c.seatId user, stage⟩) (hu : user ∈ c.users)
    (hi : p.first? ≠ some i) (hp : p ≠ .untaken) (hs : TurnedDown stage)
    (ha : Advance length t.store t.clock (.hold c.seatId user) stage s' stage') :
    Stands c seat bs since e p
      { t with store := s', visits := update t.visits i (some ⟨.hold c.seatId user, stage'⟩) } := by
  have hgo := ha
  cases hs with
  | undoing he =>
    cases ha with
    | undone => exact hc.stay hv hgo rfl rfl fun _ => .turnedDown hu hi hp (.finished he)
  | finished he =>
    cases ha with
    | finished => exact hc.stay hv hgo rfl rfl fun _ => .turnedDown hu hi hp (.finished he)

theorem Stands.go_committing (hc : Stands c seat bs since e (.taking i user) t)
    (he : Hold.expiresAt? since length = some e) {tx : TxId}
    (hv : t.visits i = some ⟨.hold c.seatId user, .committing tx (.hold since)⟩)
    (hu : user ∈ c.users)
    (ha : Advance length t.store t.clock (.hold c.seatId user) (.committing tx (.hold since)) s'
      stage') :
    Stands c seat bs since e (.held i user)
      { t with store := s', visits := update t.visits i (some ⟨.hold c.seatId user, stage'⟩) } := by
  have hgo := ha
  cases ha with
  | commitFailed hf =>
    rw [hc.faults] at hf
    cases hf
  | holdCommitted hf hg ha hs =>
    have hget := hg.get?
    rw [hc.seat] at hget
    obtain rfl := Option.some.inj hget
    refine hc.change hv (Traffic.advance_faults hgo) ?_ ?_ ?_ ?_ ?_ fun _ _ _ _ h => nomatch h
    · rw [Store.seats_committed hs, Traffic.get?_put_of_grips hg, if_pos rfl]
      rfl
    · rw [Store.bookings_committed hs, List.append_nil]
      exact hc.sales
    · intro _
      simp only [Gain.outcome, he]
      exact .holder hu (Or.inl rfl)
    · intro k v hk hv hr
      exact (hc.part k v hv hr).held hk
    · exact fun k hk => Or.inl hk

theorem Stands.go_buyer (hc : Stands c seat bs since e (.held k user) t) (ht : t.Sound length)
    (hshow : seat.showId = c.showId)
    (hv : t.visits i = some ⟨.buy c.showId c.seatId user none, stage⟩) (hs : Early stage)
    (hn : ∀ tx seat', stage = .deciding tx seat' → ¬Hold.isExpired since t.clock length)
    (ha : Advance length t.store t.clock (.buy c.showId c.seatId user none) stage s' stage') :
    Stands c seat bs since e (.held k user)
      { t with
        store := s'
        visits := update t.visits i (some ⟨.buy c.showId c.seatId user none, stage'⟩) } := by
  have hseat : t.store.seats.get? (Order.buy c.showId c.seatId user none).seatId ≠ none := by
    change t.store.seats.get? c.seatId ≠ none
    rw [hc.seat]
    exact Option.some_ne_none _
  rcases hs.next hseat ha with ⟨tx, seat', rfl⟩ | ⟨hs', hseats, hb, -⟩
  · have hread := hc.read ht hv rfl
    subst seat'
    have hlive := hn _ _ rfl
    have hgo := ha
    cases ha with
    | admitted hr hok => exact hc.stay hv hgo rfl rfl fun _ => .selling rfl
    | rejected hno =>
      have hok : (Order.buy c.showId c.seatId user none).admits length
          { seat with state := (Phase.held k user).state seat since } t.clock = .ok () :=
        Engine.admits_buy_iff.2 ⟨⟨since, rfl, hlive⟩, hshow⟩
      cases hok.symm.trans hno
  · refine hc.stay hv ha ?_ ?_ fun _ => .buyer rfl hs'
    · rw [hseats]
    · rw [hb]

theorem Stands.go_closing (hc : Stands c seat bs since e (.held k user) t) {tx : TxId} {id : Int}
    (hv : t.visits i = some ⟨.buy c.showId c.seatId user none,
      .committing tx (.sale ⟨id, user, c.showId, c.seatId, none⟩)⟩)
    (ha : Advance length t.store t.clock (.buy c.showId c.seatId user none)
      (.committing tx (.sale ⟨id, user, c.showId, c.seatId, none⟩)) s' stage') :
    Stands c seat bs since e (.sold k user i id)
      { t with
        store := s'
        visits := update t.visits i (some ⟨.buy c.showId c.seatId user none, stage'⟩) } := by
  have hgo := ha
  cases ha with
  | commitFailed hf =>
    rw [hc.faults] at hf
    cases hf
  | commitTaken hk => cases hk
  | saleCommitted hf hg ha hs hb hk =>
    have hget := hg.get?
    rw [hc.seat] at hget
    obtain rfl := Option.some.inj hget
    refine hc.change hv (Traffic.advance_faults hgo) ?_ ?_ (fun _ => .owner rfl) ?_
      (fun k hk => Or.inl hk) ?_
    · rw [Store.seats_committed hs, Traffic.get?_put_of_grips hg, if_pos rfl]
      rfl
    · rw [Store.bookings_committed hs, List.filter_append, hc.sales, List.filter_cons_of_pos]
      · simp [Phase.sales]
      · simp
    · intro j v hj hv' hr
      refine (hc.part j v hv' hr).sold fun horder => hj ?_
      exact hc.distinct j i v _ hv' hv hr horder
    · intro k' user' j id' hp
      cases hp
      exact Function.update_self _ _ _

theorem Stands.go (hc : Stands c seat bs since e p t) (ht : t.Sound length)
    (he : Hold.expiresAt? since length = some e) (hshow : seat.showId = c.showId)
    (hfree : ∀ user, (Order.hold c.seatId user).admits length seat since = .ok ())
    (hv : t.visits i = some ⟨order, stage⟩) (hr : order.seatId = c.seatId)
    (hn : ∀ tx seat', stage = .deciding tx seat' →
      (p = .untaken → t.clock = since) ∧
        (p ≠ .untaken → ¬Hold.isExpired since t.clock length))
    (ha : Advance length t.store t.clock order stage s' stage') :
    ∃ p', Stands c seat bs since e p'
        { t with store := s', visits := update t.visits i (some ⟨order, stage'⟩) } ∧
      (p' = .untaken ↔ p = .untaken ∧ ∀ tx seat', stage ≠ .deciding tx seat') := by
  have hgo := ha
  cases hc.part i _ hv hr with
  | early hu hi hs => exact hc.go_early ht (hfree _) hv hu hi hs hn ha
  | turnedDown hu hi hp hs =>
    exact ⟨p, hc.go_turnedDown hv hu hi hp hs ha, by simp [hp]⟩
  | writing hu hp =>
    subst p
    cases ha with
    | heldWritten hg ha =>
      exact ⟨_, hc.stay hv hgo rfl rfl fun _ => .committing hu rfl, by simp⟩
  | committing hu hp =>
    subst p
    exact ⟨_, hc.go_committing he hv hu ha, by simp⟩
  | holder hu hp =>
    cases ha with
    | finished =>
      refine ⟨p, hc.stay hv hgo rfl rfl fun _ => .holder hu hp, ?_⟩
      rcases hp with rfl | ⟨_, _, rfl⟩ <;> simp
  | buyer hp hs =>
    subst p
    exact ⟨_, hc.go_buyer ht hshow hv hs (fun tx seat' h => (hn tx seat' h).2 nofun) ha,
      by simp⟩
  | selling hp =>
    subst p
    cases ha with
    | saleWritten hg ha => exact ⟨_, hc.stay hv hgo rfl rfl fun _ => .recording rfl, by simp⟩
  | recording hp =>
    subst p
    cases ha with
    | insertFailed hf =>
      rw [hc.faults] at hf
      cases hf
    | insertTaken hk => cases hk
    | inserted hf hk hs => exact ⟨_, hc.stay hv hgo rfl rfl fun _ => .closing rfl, by simp⟩
  | closing hp =>
    subst p
    exact ⟨_, hc.go_closing hv ha, by simp⟩
  | owner hp =>
    subst p
    cases ha with
    | finished => exact ⟨_, hc.stay hv hgo rfl rfl fun _ => .owner rfl, by simp⟩

end Contest

end BoxOffice
