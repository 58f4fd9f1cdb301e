import BoxOffice.Proofs.Keys
import BoxOffice.Proofs.TrafficEffects

set_option autoImplicit false

namespace BoxOffice

open Engine (TxId Order Stage Receipt Outcome Advance)
open Function (update)

namespace Traffic

variable {length : Span} {s : Store} {t t' : Traffic} {e : Event} {i j : Nat} {v w : Visit}
variable {order : Order} {key : String} {b : Booking}

/-- Every receipt for an order with a key names a committed booking with that key, and a booking
is handed out as new only once. -/
structure Agreed (t : Traffic) : Prop where
  unique : KeysUnique t.store.bookings
  named : ∀ i order key receipt, t.visits i = some ⟨order, .finished (.done receipt)⟩ →
    order.key = some key → ∃ b ∈ t.store.bookings, b.HasKey order.userId key ∧
      ∃ replayed, receipt = .booked b.id replayed
  fresh : ∀ i j order order' key id id',
    t.visits i = some ⟨order, .finished (.done (.booked id false))⟩ →
    t.visits j = some ⟨order', .finished (.done (.booked id' false))⟩ →
    order.key = some key → order'.key = some key → order.userId = order'.userId → i = j

theorem agreed_ofStore (hs : KeysUnique s.bookings) (clock : Instant) :
    (ofStore s clock).Agreed where
  unique := hs
  named _ _ _ _ hi := by cases hi
  fresh _ _ _ _ _ _ _ hi := by cases hi

theorem Agreed.none (ht : t.Agreed) (hb : t'.store.bookings = t.store.bookings)
    (hv : NoNews t t') : t'.Agreed := by
  refine ⟨?_, ?_, ?_⟩
  · rw [hb]
    exact ht.unique
  · intro i order key receipt hi hk
    rw [hb]
    rcases hv i _ _ hi rfl with hi | ⟨e, he⟩ | ⟨key', b, hk', hm, hu, he⟩
    · exact ht.named i order key receipt hi hk
    · cases he
    · obtain rfl := Option.some.inj (hk.symm.trans hk')
      exact ⟨b, hm, hu, true, Outcome.done.inj he⟩
  · have old : ∀ i order id, t'.visits i = some ⟨order, .finished (.done (.booked id false))⟩ →
        t.visits i = some ⟨order, .finished (.done (.booked id false))⟩ := by
      intro i order id hi
      rcases hv i _ _ hi rfl with hi | ⟨e, he⟩ | ⟨-, b, -, -, -, he⟩
      · exact hi
      · cases he
      · cases he
    intro i j order order' key id id' hi hj
    exact ht.fresh i j order order' key id id' (old i order id hi) (old j order' id' hj)

theorem Agreed.hold (ht : t.Agreed) {r user : Int} {outcome : Outcome}
    (hb : t'.store.bookings = t.store.bookings)
    (hv : t'.visits = update t.visits i (some ⟨.hold r user, .finished outcome⟩)) :
    t'.Agreed := by
  have old : ∀ j order key outcome, t'.visits j = some ⟨order, .finished outcome⟩ →
      order.key = some key → t.visits j = some ⟨order, .finished outcome⟩ := by
    intro j order key outcome hj hk
    rw [hv] at hj
    rcases of_update hj with ⟨-, he⟩ | ⟨-, hj⟩
    · cases he
      cases hk
    · exact hj
  refine ⟨?_, ?_, ?_⟩
  · rw [hb]
    exact ht.unique
  · intro j order key receipt hj hk
    rw [hb]
    exact ht.named j order key receipt (old j order key _ hj hk) hk
  · intro j k order order' key id id' hj hk' ho ho'
    exact ht.fresh j k order order' key id id' (old j order key _ hj ho)
      (old k order' key _ hk' ho') ho ho'

theorem Agreed.sale (ht : t.Agreed) {showId r user : Int} {givenKey : Option String}
    (hn : b = ⟨b.id, user, showId, r, (Order.buy showId r user givenKey).key⟩)
    (hk : Store.keyTaken t.store.bookings b.userId b.key = false)
    (hb : t'.store.bookings = t.store.bookings ++ [b])
    (hv : t'.visits = update t.visits i
      (some ⟨.buy showId r user givenKey, .finished (.done (.booked b.id false))⟩)) :
    t'.Agreed := by
  have huser : b.userId = user := by rw [hn]
  have hkey : b.key = (Order.buy showId r user givenKey).key := by rw [hn]
  have other : ∀ j order key receipt, j ≠ i →
      t.visits j = some ⟨order, .finished (.done receipt)⟩ → order.key = some key →
      order.userId = user → b.key ≠ some key := by
    intro j order key receipt hji hj ho hu hbk
    obtain ⟨a, hm, ha, -⟩ := ht.named j order key receipt hj ho
    rw [hu, ← huser] at ha
    exact (Store.keyTaken_eq_false_iff _ _ _).1 hk key hbk a hm ha
  refine ⟨?_, ?_, ?_⟩
  · rw [hb]
    refine ht.unique.append (.singleton b) fun a ha => ?_
    rw [List.mem_singleton.1 ha]
    exact hk
  · intro j order key receipt hj ho
    rw [hb]
    rw [hv] at hj
    rcases of_update hj with ⟨-, he⟩ | ⟨-, hj⟩
    · cases he
      exact ⟨b, by simp, ⟨huser, hkey.trans ho⟩, false, rfl⟩
    · obtain ⟨a, hm, ha⟩ := ht.named j order key receipt hj ho
      exact ⟨a, List.mem_append_left _ hm, ha⟩
  · intro j k order order' key id id' hj hk' ho ho' hu
    rw [hv] at hj hk'
    rcases of_update hj with ⟨hji, he⟩ | ⟨hji, hj⟩
    · rcases of_update hk' with ⟨hki, -⟩ | ⟨hki, hk'⟩
      · exact hji.trans hki.symm
      · cases he
        exact absurd (hkey.trans ho) (other k order' key _ hki hk' ho' hu.symm)
    · rcases of_update hk' with ⟨-, he⟩ | ⟨-, hk'⟩
      · cases he
        exact absurd (hkey.trans ho') (other j order key _ hji hj ho hu)
      · exact ht.fresh j k order order' key id id' hj hk' ho ho' hu

theorem Effect.agreed (h : Effect length t t') (ht : t.Agreed) : t'.Agreed := by
  cases h with
  | none hs hb hv => exact ht.none hb hv
  | hold hi hg ha hs hb hv => exact ht.hold hb hv
  | sale hi hg ha hn hk hs hb hv => exact ht.sale hn hk hb hv

theorem Sound.agreed (ht : t.Sound length) (h : t.Agreed) (events : List Event) :
    (t.run length events).Agreed :=
  ht.run_induction h (fun ht h hs => (ht.effect h).agreed hs) events

structure Repeats (b : Booking) (order : Order) (key : String) (j : Nat) (t : Traffic) : Prop where
  mem : b ∈ t.store.bookings
  stage : t.visits j = some ⟨order, .lookUp key⟩ ∨
    t.visits j = some ⟨order, .finished (.done (.booked b.id true))⟩

theorem advance_lookUp {now : Instant} {s' : Store} {stage' : Stage}
    (hu : KeysUnique s.bookings) (hm : b ∈ s.bookings) (hb : b.HasKey order.userId key)
    (ha : Advance length s now order (.lookUp key) s' stage') :
    s' = s ∧ stage' = .finished (.done (.booked b.id true)) := by
  cases ha with
  | found h =>
    obtain ⟨hm', hb'⟩ := Store.findBooking_eq_some h
    rw [hu.eq hm hm' hb hb']
    exact ⟨rfl, rfl⟩
  | unknown h => exact absurd hb ((Store.findBooking_eq_none_iff _ _ _).1 h b hm)

theorem Repeats.step (hr : t.Repeats b order key j) (ht : t.Sound length)
    (hu : KeysUnique t.store.bookings) (hb : b.HasKey order.userId key)
    (h : Happens length t e t') : t'.Repeats b order key j := by
  refine ⟨(ht.effect h).mem_bookings hr.mem, ?_⟩
  rcases hr.stage with hj | hj
  · rcases ht.visit h hj with hj' | ⟨-, s', stage', ha, rfl⟩ | ⟨hw, -⟩
    · exact Or.inl hj'
    · obtain ⟨-, rfl⟩ := advance_lookUp hu hr.mem hb ha
      exact Or.inr (Function.update_self _ _ _)
    · cases hw
  · exact Or.inr (ht.visit_finished h hj)

theorem Repeats.go (hr : t.Repeats b order key j) (ht : t.Sound length)
    (hu : KeysUnique t.store.bookings) (hb : b.HasKey order.userId key) :
    (t.step length (.go j)).store = t.store ∧ (t.step length (.go j)).visits j =
      some ⟨order, .finished (.done (.booked b.id true))⟩ := by
  rcases hr.stage with hj | hj
  · obtain ⟨s', stage', ha, he⟩ := ht.step_go hj
    obtain ⟨rfl, rfl⟩ := advance_lookUp hu hr.mem hb ha
    rw [he]
    exact ⟨rfl, Function.update_self _ _ _⟩
  · obtain ⟨s', stage', ha, he⟩ := ht.step_go hj
    cases ha
    rw [he]
    exact ⟨rfl, Function.update_self _ _ _⟩

theorem Repeats.run (hr : t.Repeats b order key j) (ht : t.Sound length) (ha : t.Agreed)
    (hb : b.HasKey order.userId key) (events : List Event) :
    (t.run length events).Repeats b order key j := by
  have h : (t.run length events).Agreed ∧ (t.run length events).Repeats b order key j :=
    ht.run_induction (P := fun t => t.Agreed ∧ t.Repeats b order key j) ⟨ha, hr⟩
      (fun ht h hp => ⟨(ht.effect h).agreed hp.1, hp.2.step ht hp.1.unique hb h⟩) events
  exact h.2

theorem Repeats.run_finished (hr : t.Repeats b order key j) (ht : t.Sound length) (ha : t.Agreed)
    (hb : b.HasKey order.userId key) {events : List Event} (hj : .go j ∈ events) :
    (t.run length events).visits j = some ⟨order, .finished (.done (.booked b.id true))⟩ := by
  obtain ⟨before, after, rfl⟩ := List.append_of_mem hj
  have ht' := ht.run before
  have hr' := hr.run ht ha hb before
  have ha' := ht.agreed ha before
  rw [run_append, run_cons]
  exact (ht'.step (.go j)).finished_run (hr'.go ht' ha'.unique hb).2 after

theorem key_buy {showId r user : Int} (hk : key ≠ "") :
    (Order.buy showId r user (some key)).key = some key := by
  simp [Order.key, hk]

theorem Agreed.repeats_arrive (hb : b ∈ t.store.bookings) (hk : order.key = some key) :
    (t.arrive order).Repeats b order key t.arrivals := by
  refine ⟨hb, Or.inl ?_⟩
  simp only [arrive, Function.update_self, Order.first, hk]

/-- For every key of a buyer: all receipts name one and the same booking, the only one that is
committed with the key; one receipt at most calls it new; and an order with the key that comes
after a receipt is told of that booking, at its first request, whatever its seat and show, and
changes nothing in the store. -/
theorem orders_with_one_key_agree (hs : s.Arises) (hr : s.AtRest) (clock : Instant)
    (events : List Event) (user : Int) (hk : key ≠ "") :
    let t := (ofStore s clock).run length events
    (∀ i showId r receipt,
      t.visits i = some ⟨.buy showId r user (some key), .finished (.done receipt)⟩ →
      ∃ b replayed, receipt = .booked b.id replayed ∧
        t.store.bookings.filter (fun a => a.HasKey user key) = [b]) ∧
    (∀ i j showId showId' r r' id id',
      t.visits i =
        some ⟨.buy showId r user (some key), .finished (.done (.booked id false))⟩ →
      t.visits j =
        some ⟨.buy showId' r' user (some key), .finished (.done (.booked id' false))⟩ →
      i = j) ∧
    ∀ i showId r id replayed,
      t.visits i =
        some ⟨.buy showId r user (some key), .finished (.done (.booked id replayed))⟩ →
      ∀ showId' r' later,
        let order := Order.buy showId' r' user (some key)
        let t₁ := t.step length (.arrive order)
        let t₂ := t₁.run length later
        t₁.store = t.store ∧
        (t₂.visits t.arrivals = some ⟨order, .lookUp key⟩ ∨
          t₂.visits t.arrivals = some ⟨order, .finished (.done (.booked id true))⟩) ∧
        (.go t.arrivals ∈ later →
          t₂.visits t.arrivals = some ⟨order, .finished (.done (.booked id true))⟩) ∧
        (t₂.step length (.go t.arrivals)).store = t₂.store := by
  intro t
  have ht : t.Sound length := (sound_ofStore hr clock).run events
  have ha : t.Agreed :=
    (sound_ofStore hr clock).agreed (agreed_ofStore hs.keyed.committed clock) events
  refine ⟨?_, ?_, ?_⟩
  · intro i showId r receipt hi
    obtain ⟨b, hm, hb, replayed, he⟩ := ha.named i _ key receipt hi (key_buy hk)
    exact ⟨b, replayed, he, ha.unique.filter hm hb⟩
  · intro i j showId showId' r r' id id' hi hj
    exact ha.fresh i j _ _ key id id' hi hj (key_buy hk) (key_buy hk) rfl
  · intro i showId r id replayed hi showId' r' later order t₁ t₂
    obtain ⟨b, hm, hb, replayed', he⟩ := ha.named i _ key _ hi (key_buy hk)
    obtain rfl : id = b.id := by
      injection he
    have ht₁ : t₁.Sound length := ht.step _
    have ha₁ : t₁.Agreed := (ht.effect (happens ht _)).agreed ha
    have hr₁ : t₁.Repeats b order key t.arrivals := Agreed.repeats_arrive hm (key_buy hk)
    have hr₂ : t₂.Repeats b order key t.arrivals := hr₁.run ht₁ ha₁ hb later
    have ha₂ : t₂.Agreed := ht₁.agreed ha₁ later
    refine ⟨rfl, hr₂.stage, fun hj => hr₁.run_finished ht₁ ha₁ hb hj, ?_⟩
    exact (hr₂.go (ht₁.run later) ha₂.unique hb).1

def keyedSale : List Event :=
  [.arrive (.buy 5 1 7 (some "k")), .go 0, .go 0, .go 0, .go 0, .go 0, .go 0, .go 0]

theorem orders_with_one_key_agree_again :
    let s := Store.ofSeats [⟨1, 5, "A1", .locked .epoch 7⟩, ⟨2, 6, "A1", .locked .epoch 7⟩]
    let t := (ofStore s .epoch).run tenMinutes keyedSale
    let order := Order.buy 6 2 7 (some "k")
    s.Arises ∧ s.AtRest ∧ "k" ≠ "" ∧
      t.visits 0 = some ⟨.buy 5 1 7 (some "k"), .finished (.done (.booked 1 false))⟩ ∧
      ((t.step tenMinutes (.arrive order)).run tenMinutes [.go 1]).visits 1 =
        some ⟨order, .finished (.done (.booked 1 true))⟩ :=
  ⟨.ofSeats _, ⟨rfl, rfl⟩, by decide, rfl,
    ((orders_with_one_key_agree (.ofSeats _) ⟨rfl, rfl⟩ .epoch keyedSale 7
      (by decide)).2.2 0 5 1 1 false rfl 6 2 [.go 1]).2.2.1 (List.mem_singleton.2 rfl)⟩

end Traffic

end BoxOffice
