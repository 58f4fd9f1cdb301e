import BoxOffice.Proofs.Contest
import BoxOffice.Proofs.Progress

set_option autoImplicit false

namespace BoxOffice

open Engine (Order Stage Outcome Advance)
open Function (update)

namespace Contest

variable {c : Contest} {length : Span} {seat : Seat} {bs : List Booking} {since e now : Instant}
variable {p : Phase} {t : Traffic} {i j k : Nat} {user : Int} {order : Order} {stage : Stage}

theorem Stands.arrive (hc : Stands c seat bs since e p t) (ht : t.Sound length)
    (hp : order.seatId = c.seatId → Part c since e p t.arrivals order order.first)
    (hn : ∀ i v, t.visits i = some v → v.order.seatId = c.seatId → v.order ≠ order) :
    Stands c seat bs since e p (t.arrive order) := by
  have hnew : ∀ {i v}, t.visits i = some v → i ≠ t.arrivals := fun hi =>
    Nat.ne_of_lt (ht.lt_arrivals _ _ hi)
  have keep : ∀ {i v}, t.visits i = some v → (t.arrive order).visits i = some v := by
    intro i v hi
    exact (Function.update_of_ne (hnew hi) _ _).trans hi
  refine ⟨hc.faults, hc.seat, hc.sales, ?_, ?_, ?_, ?_⟩
  · intro j v hj hr
    rcases Traffic.of_update hj with ⟨rfl, hv⟩ | ⟨-, hj⟩
    · cases hv
      exact hp hr
    · exact hc.part j v hj hr
  · intro j k v w hj hk hr hvw
    rcases Traffic.of_update hj with ⟨rfl, hv⟩ | ⟨-, hj⟩
    · rcases Traffic.of_update hk with ⟨rfl, hw⟩ | ⟨-, hk⟩
      · rfl
      · cases hv
        rw [hvw] at hr
        exact absurd hvw.symm (hn k w hk hr)
    · rcases Traffic.of_update hk with ⟨rfl, hw⟩ | ⟨-, hk⟩
      · cases hw
        exact absurd hvw (hn j v hj hr)
      · exact hc.distinct j k v w hj hk hr hvw
  · intro i hi
    obtain ⟨user, stage, hi⟩ := hc.first i hi
    exact ⟨user, stage, keep hi⟩
  · intro i user j id hsold
    exact keep (hc.owner i user j id hsold)

theorem Stands.arrive_buy (hc : Stands c seat bs since e p t) (ht : t.Sound length)
    {until' : Instant}
    (hi : t.visits i = some ⟨.hold c.seatId user, .finished (.done (.held until'))⟩)
    (hn : ∀ i v, t.visits i = some v → v.order ≠ .buy c.showId c.seatId user none) :
    Stands c seat bs since e p (t.arrive (.buy c.showId c.seatId user none)) := by
  refine hc.arrive ht (fun _ => ?_) fun i v hv _ => hn i v hv
  cases hc.part i _ hi rfl with
  | early hu hj hs | turnedDown hu hj hp hs => cases hs
  | holder hu hp =>
    rcases hp with rfl | ⟨j, id, rfl⟩
    · exact .buyer rfl .opening
    · exact absurd rfl (hn j _ (hc.owner i user j id rfl))

theorem Stands.arrive_hold (hc : Stands c seat bs since e p t) (ht : t.Sound length)
    (hu : user ∈ c.users)
    (hn : ∀ i v, t.visits i = some v → v.order ≠ .hold c.seatId user) :
    Stands c seat bs since e p (t.arrive (.hold c.seatId user)) := by
  refine hc.arrive ht (fun _ => .early hu ?_ .opening) fun i v hv _ => hn i v hv
  intro hfirst
  obtain ⟨other, stage, hv⟩ := hc.first _ hfirst
  exact Nat.lt_irrefl _ (ht.lt_arrivals _ _ hv)

theorem Phase.reads_iff (hp : p ≠ .untaken) (readings : List Instant) :
    p.Reads length since readings ↔ ∀ now ∈ readings, ¬Hold.isExpired since now length := by
  cases p with
  | untaken => exact absurd rfl hp
  | taking | held | sold => exact Iff.rfl

theorem Phase.Reads.head {readings : List Instant} (h : p.Reads length since (now :: readings)) :
    (p = .untaken → now = since) ∧ (p ≠ .untaken → ¬Hold.isExpired since now length) := by
  constructor
  · rintro rfl
    exact h.1 now rfl
  · intro hp
    exact (Phase.reads_iff hp _).1 h now List.mem_cons_self

theorem Phase.Reads.tail {readings : List Instant} (h : p.Reads length since (now :: readings)) :
    ∀ now ∈ readings, ¬Hold.isExpired since now length := by
  cases p with
  | untaken => exact h.2
  | taking | held | sold => exact fun now hm => h now (List.mem_cons_of_mem _ hm)

theorem reading?_go_eq_none {r : Int} (hv : t.visits i = some ⟨order, stage⟩)
    (h : order.seatId = r → ∀ tx seat, stage ≠ .deciding tx seat) :
    t.reading? r (.go i) = none := by
  unfold Traffic.reading?
  simp only [hv]
  cases stage with
  | deciding tx seat =>
    simp only
    rw [if_neg]
    exact fun hr => h hr tx seat rfl
  | _ => rfl

theorem Stands.go_elsewhere {s' : Store} {stage' : Stage} (hc : Stands c seat bs since e p t)
    (hv : t.visits i = some ⟨order, stage⟩) (hr : order.seatId ≠ c.seatId)
    (ha : Advance length t.store t.clock order stage s' stage') :
    Stands c seat bs since e p
      { t with store := s', visits := update t.visits i (some ⟨order, stage'⟩) } := by
  obtain ⟨hs, hb⟩ := Traffic.advance_elsewhere ha hr
  refine hc.elsewhere (Traffic.advance_faults ha) hs hb fun j v hvr => ?_
  change update t.visits i _ j = _ ↔ _
  by_cases hji : j = i
  · subst j
    rw [Function.update_self, hv]
    constructor
    · intro h
      obtain rfl := Option.some.inj h
      exact absurd hvr hr
    · intro h
      obtain rfl := Option.some.inj h
      exact absurd hvr hr
  · rw [Function.update_of_ne hji]

theorem Stands.step_go (hc : Stands c seat bs since e p t) (ht : t.Sound length)
    (he : Hold.expiresAt? since length = some e) (hshow : seat.showId = c.showId)
    (hfree : ∀ user, (Order.hold c.seatId user).admits length seat since = .ok ())
    {readings : List Instant}
    (hread : p.Reads length since ((t.reading? c.seatId (.go i)).toList ++ readings)) :
    ∃ p', Stands c seat bs since e p' (t.step length (.go i)) ∧ p'.Reads length since readings := by
  cases hv : t.visits i with
  | none =>
    have hstep : t.step length (.go i) = t := by
      simp only [Traffic.step, Traffic.go, hv]
    have hnone : t.reading? c.seatId (.go i) = none := by
      simp only [Traffic.reading?, hv]
    rw [hnone] at hread
    rw [hstep]
    exact ⟨p, hc, hread⟩
  | some v =>
    obtain ⟨order, stage⟩ := v
    obtain ⟨s', stage', ha, hstep⟩ := ht.step_go hv
    rw [hstep]
    by_cases hr : order.seatId = c.seatId
    · by_cases hd : ∃ tx seat', stage = .deciding tx seat'
      · obtain ⟨tx, seat', rfl⟩ := hd
        have hnow : t.reading? c.seatId (.go i) = some t.clock := by
          simp only [Traffic.reading?, hv, if_pos hr]
        rw [hnow] at hread
        obtain ⟨p', hc', hp'⟩ := hc.go ht he hshow hfree hv hr (fun _ _ _ => hread.head) ha
        refine ⟨p', hc', (Phase.reads_iff ?_ _).2 hread.tail⟩
        exact fun h => (hp'.1 h).2 tx seat' rfl
      · have hd' : ∀ tx seat', stage ≠ .deciding tx seat' := fun tx seat' h => hd ⟨tx, seat', h⟩
        rw [reading?_go_eq_none hv fun _ => hd'] at hread
        obtain ⟨p', hc', hp'⟩ := hc.go ht he hshow hfree hv hr
          (fun tx seat' h => absurd h (hd' tx seat')) ha
        refine ⟨p', hc', ?_⟩
        by_cases hp : p = .untaken
        · rw [hp'.2 ⟨hp, hd'⟩, ← hp]
          exact hread
        · have hne : p' ≠ .untaken := fun h => hp (hp'.1 h).1
          exact (Phase.reads_iff hne _).2 ((Phase.reads_iff hp _).1 hread)
    · rw [reading?_go_eq_none hv fun h => absurd h hr] at hread
      exact ⟨p, hc.go_elsewhere hv hr ha, hread⟩

theorem Stands.away (hc : Stands c seat bs since e p t)
    (hi : ∀ v, t.visits i = some v → v.order.seatId ≠ c.seatId) {s' : Store} {w : Option Visit}
    (hf : s'.faults = t.store.faults) (hs : s'.seats = t.store.seats)
    (hb : s'.bookings = t.store.bookings) (hw : ∀ v, w = some v → v.order.seatId ≠ c.seatId) :
    Stands c seat bs since e p { t with store := s', visits := update t.visits i w } := by
  refine hc.elsewhere hf (congrArg (fun table : SeatTable => table.get? c.seatId) hs) ?_ ?_
  · change s'.bookings.filter _ = _
    rw [hb]
  · intro j v hr
    change update t.visits i w j = _ ↔ _
    by_cases hji : j = i
    · subst j
      rw [Function.update_self]
      exact ⟨fun h => absurd hr (hw v h), fun h => absurd hr (hi v h)⟩
    · rw [Function.update_of_ne hji]

theorem Stands.step (hc : Stands c seat bs since e p t) (ht : t.Sound length)
    (he : Hold.expiresAt? since length = some e) (hshow : seat.showId = c.showId)
    (hfree : ∀ user, (Order.hold c.seatId user).admits length seat since = .ok ()) {ev : Event}
    (hallow : c.Allows t ev) {readings : List Instant}
    (hread : p.Reads length since ((t.reading? c.seatId ev).toList ++ readings)) :
    ∃ p', Stands c seat bs since e p' (t.step length ev) ∧ p'.Reads length since readings := by
  cases hallow with
  | hold hu hn => exact ⟨p, hc.arrive_hold ht hu hn, hread⟩
  | buy hi hn => exact ⟨p, hc.arrive_buy ht hi hn, hread⟩
  | other ho =>
    refine ⟨p, hc.arrive ht (fun hr => absurd hr ho) fun i v _ hr hv => ?_, hread⟩
    rw [← hv] at ho
    exact ho hr
  | go i => exact hc.step_go ht he hshow hfree hread
  | expire hi =>
    refine ⟨p, ?_, hread⟩
    simp only [Traffic.step, Traffic.expire]
    split
    · exact hc
    · rename_i v hv
      split
      · refine hc.away hi rfl rfl rfl fun w hw => ?_
        cases hw
        exact hi v hv
      · exact hc
  | leave hi =>
    refine ⟨p, ?_, hread⟩
    simp only [Traffic.step, Traffic.leave]
    split
    · exact hc
    · rename_i v hv
      split
      · refine hc.away hi (Traffic.faults_deserted _ _) (Traffic.seats_deserted _ _)
          (Traffic.bookings_deserted _ _) fun w hw => ?_
        cases hw
      · exact hc
  | clock now => exact ⟨p, hc.elsewhere rfl rfl rfl fun _ _ _ => Iff.rfl, hread⟩

theorem Stands.run (hc : Stands c seat bs since e p t) (ht : t.Sound length)
    (he : Hold.expiresAt? since length = some e) (hshow : seat.showId = c.showId)
    (hfree : ∀ user, (Order.hold c.seatId user).admits length seat since = .ok ())
    {events : List Event} (hallow : Traffic.Along length c.Allows t events)
    (hread : p.Reads length since (t.readings length c.seatId events)) :
    ∃ p', Stands c seat bs since e p' (t.run length events) := by
  induction events generalizing t p with
  | nil => exact ⟨p, hc⟩
  | cons ev events ih =>
    obtain ⟨p', hc', hread'⟩ := hc.step ht he hshow hfree hallow.1 hread
    exact ih hc' (ht.step ev) hallow.2 hread'

theorem stands_ofStore {s : Store} (hf : s.faults = ⟨false, false⟩)
    (hseat : s.seats.get? c.seatId = some seat) (clock : Instant) :
    Stands c seat (s.bookings.filter fun b => b.seatId = c.seatId) since e .untaken
      (Traffic.ofStore s clock) where
  faults := hf
  seat := hseat
  sales := (List.append_nil _).symm
  part _ _ hj := by cases hj
  distinct _ _ _ _ hj := by cases hj
  first _ hi := by cases hi
  owner _ _ _ _ hp := by cases hp

end Contest

end BoxOffice
