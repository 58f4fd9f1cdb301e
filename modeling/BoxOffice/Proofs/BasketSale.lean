import BoxOffice.Proofs.Basket
import BoxOffice.Proofs.Progress

set_option autoImplicit false

namespace BoxOffice

open Engine (Order Stage Outcome Advance)
open Function (update)

namespace Basket

variable {c : Basket} {length : Span} {s₀ s s' : Store} {p : Phase} {t t' : Traffic} {e : Event}
variable {i : Nat} {seat : Seat} {order : Order} {stage stage' : Stage} {v : Visit}

def Complete (c : Basket) (length : Span) (t : Traffic) : Prop :=
  ∀ i v, t.visits i = some v → c.Names v.order.seatId → t.step length (.go i) = t

theorem Stands.arrive (hc : Stands c s₀ p t) (ht : t.Sound length)
    (hr : Role c p t.arrivals order order.first) : Stands c s₀ p (t.arrive order) := by
  refine hc.stay rfl rfl (fun _ _ => rfl) (List.append_nil _).symm nofun ?_ ?_
  · intro v hv
    cases hv
    exact hr
  · intro order' outcome hi
    exact absurd (ht.lt_arrivals _ _ hi) (Nat.lt_irrefl _)

theorem Stands.go (hc : Stands c s₀ p t) (ht : t.Sound length) (ho : c.Opens s₀)
    (hv : t.visits i = some v) (ha : Advance length t.store t.clock v.order v.stage s' stage')
    (hlive : c.Live length t (.go i)) :
    ∃ p', Stands c s₀ p'
      { t with store := s', visits := update t.visits i (some ⟨v.order, stage'⟩) } := by
  obtain ⟨order, stage⟩ := v
  have hread : ∀ tx read, stage = .deciding tx read → ∀ seat ∈ c.seats,
      order.seatId = seat.id → ∀ since, seat.state = .locked since c.user →
      ¬Hold.isExpired since t.clock length := by
    rintro tx read rfl seat hs hr since hheld
    refine hlive seat hs since hheld t.clock ?_
    simp only [Traffic.reading?, hv, if_pos hr]
  cases hc.role i _ hv with
  | call hs hp => exact hc.go_call ht ho hs hv hp (fun tx read h => hread tx read h _ hs rfl) ha
  | stranger hx hn => exact ⟨p, hc.go_stranger ht ho hv hx hn hread ha⟩

theorem Stands.stop (hc : Stands c s₀ p t) (hv : t.visits i = some v)
    (hw : v.stage.isWaiting = true) {w : Option Visit}
    (hf : s'.faults = t.store.faults) (hs : s'.seats = t.store.seats)
    (hb : s'.bookings = t.store.bookings) (hr : ∀ v, w = some v → Role c p i v.order v.stage) :
    Stands c s₀ p { t with store := s', visits := update t.visits i w } := by
  refine hc.stay rfl hf (fun seat _ => ?_) (hb.trans (List.append_nil _).symm) nofun hr ?_
  · change s'.seats.get? seat.id = _
    rw [hs]
  · intro order outcome hi
    obtain rfl := Option.some.inj (hv.symm.trans hi)
    cases hw

theorem not_admitted_expire (hw : stage.isWaiting = true) : ¬stage.expire.Admitted := by
  cases stage with
  | opening | fetching | withdrawing => exact id
  | _ => cases hw

theorem Stands.step (hc : Stands c s₀ p t) (ht : t.Sound length) (ho : c.Opens s₀)
    (hallow : c.Allows t e) (hlive : c.Live length t e) (h : Traffic.Happens length t e t') :
    ∃ p', Stands c s₀ p' t' := by
  cases h with
  | arrives order =>
    refine ⟨p, hc.arrive ht ?_⟩
    cases hallow with
    | call hs =>
      refine .call hs ?_
      simp only [Order.first, key_order ho]
      exact .lookUp
    | stranger hx => exact .stranger hx fun _ => Engine.not_admitted_first _
  | goes hv ha => exact hc.go ht ho hv ha hlive
  | expires hv hw =>
    cases hallow with
    | expire hi =>
      have hx := hi _ hv
      refine ⟨p, hc.stop hv hw rfl rfl rfl fun w hvw => ?_⟩
      cases hvw
      exact .stranger hx fun _ => not_admitted_expire hw
  | leaves hv hw =>
    refine ⟨p, hc.stop hv hw (Traffic.faults_deserted _ _) (Traffic.seats_deserted _ _)
      (Traffic.bookings_deserted _ _) fun w hvw => ?_⟩
    cases hvw
  | clock now => exact ⟨p, hc.faults, hc.seat, hc.sales, hc.role, hc.winner⟩
  | faults => cases hallow
  | nothing => exact ⟨p, hc⟩

theorem along_live {events : List Event}
    (h : ∀ seat ∈ c.seats, ∀ since, seat.state = .locked since c.user →
      ∀ now ∈ t.readings length seat.id events, ¬Hold.isExpired since now length) :
    Traffic.Along length (c.Live length) t events := by
  induction events generalizing t with
  | nil => trivial
  | cons e events ih =>
    refine ⟨fun seat hs since hheld => ?_, ih fun seat hs since hheld now hm => ?_⟩
    · exact (Traffic.along_of_readings (h seat hs since hheld)).1
    · exact h seat hs since hheld now (List.mem_append_right _ hm)

theorem Stands.run (hc : Stands c s₀ p t) (ht : t.Sound length) (ho : c.Opens s₀)
    {events : List Event} (hallow : Traffic.Along length c.Allows t events)
    (hlive : Traffic.Along length (c.Live length) t events) :
    ∃ p', Stands c s₀ p' (t.run length events) := by
  induction events generalizing t p with
  | nil => exact ⟨p, hc⟩
  | cons e events ih =>
    obtain ⟨p', hc'⟩ := hc.step ht ho hallow.1 hlive.1 (Traffic.happens ht e)
    exact ih hc' (ht.step e) hallow.2 hlive.2

theorem stands_ofStore (ho : c.Opens s₀) (clock : Instant) :
    Stands c s₀ .unsold (Traffic.ofStore s₀ clock) where
  faults := ho.faults
  seat := ho.seat
  sales := ⟨[], (List.append_nil _).symm, rfl⟩
  role _ _ hj := by cases hj
  winner _ _ _ hp := by cases hp

theorem call_run (ht : t.Sound length) (ho : c.Opens s₀) {events : List Event}
    (hallow : Traffic.Along length c.Allows t events)
    (hi : ∃ stage, t.visits i = some ⟨c.order seat, stage⟩) :
    ∃ stage, (t.run length events).visits i = some ⟨c.order seat, stage⟩ := by
  refine ht.run_along (P := fun t => ∃ stage, t.visits i = some ⟨c.order seat, stage⟩) hi hallow ?_
  rintro t e ht hallow ⟨stage, hi⟩
  rcases ht.visit (Traffic.happens ht e) hi with h | ⟨-, s', stage', -, h⟩ |
    ⟨-, ⟨rfl, h⟩ | ⟨rfl, h⟩⟩
  · exact ⟨stage, h⟩
  · rw [h]
    exact ⟨stage', Function.update_self _ _ _⟩
  · exact ⟨_, h⟩
  · cases hallow with
    | leave hx => exact absurd (hx _ hi) (not_stranger_order ho seat)

theorem Stands.answer (hc : Stands c s₀ p t) (ho : c.Opens s₀) {outcome : Outcome}
    (hi : t.visits i = some ⟨c.order seat, .finished outcome⟩) :
    ∃ winner sold id, p = .sold winner sold id ∧
      outcome = .done (.booked id (decide (i ≠ winner))) := by
  generalize horder : c.order seat = order at hi
  cases hc.role i _ hi with
  | call hs hp =>
    cases hp with
    | replayed hp hk => exact ⟨_, _, _, hp, by rw [decide_eq_true hk]⟩
    | fresh hp => exact ⟨_, _, _, hp, by simp⟩
  | stranger hx =>
    rw [← horder] at hx
    exact absurd hx (not_stranger_order ho seat)

theorem call_answered (ho : c.Opens s) {clock : Instant} {before after : List Event}
    (hs : seat ∈ c.seats)
    (hallow : Traffic.Along length c.Allows (.ofStore s clock)
      (before ++ .arrive (c.order seat) :: after))
    (hdone : c.Complete length ((Traffic.ofStore s clock).run length
      (before ++ .arrive (c.order seat) :: after))) :
    ∃ outcome, ((Traffic.ofStore s clock).run length
        (before ++ .arrive (c.order seat) :: after)).visits
          ((Traffic.ofStore s clock).run length before).arrivals =
      some ⟨c.order seat, .finished outcome⟩ := by
  have ht : ((Traffic.ofStore s clock).run length before).Sound length :=
    (Traffic.sound_ofStore ho.rest clock).run before
  have hafter := ((Traffic.along_append _ _).1 hallow).2.2
  rw [Traffic.run_append, Traffic.run_cons] at hdone ⊢
  obtain ⟨stage, hv⟩ := call_run (ht.step (.arrive (c.order seat))) ho hafter
    ⟨_, Function.update_self _ _ _⟩
  obtain ⟨outcome, rfl⟩ := ((ht.step _).run after).finished_of_still
    (fun i v hi hr => hdone i v hi ⟨seat, hs, hr.symm⟩) hv rfl
  exact ⟨outcome, hv⟩

theorem Stands.stranger_of_handedOut (hc : Stands c s₀ p t) {b : Booking} (hb : t.HandedOut b)
    (hn : ¬c.Concerns b) : ∃ i order, c.Stranger order ∧
      t.visits i = some ⟨order, .finished (.done (.booked b.id false))⟩ := by
  obtain ⟨hi⟩ := hb
  rename_i i showId r user givenKey id
  generalize horder : Order.buy showId r user givenKey = order at hi hn ⊢
  cases hc.role i _ hi with
  | call hs hp =>
    cases horder
    exact absurd (Or.inl ⟨_, hs, rfl⟩) hn
  | stranger hx => exact ⟨i, order, hx, hi⟩

/-- However the requests of the purchases with one key are interleaved, with one another and with
whatever strangers do: when nobody can go on, one booking has been made. The seat that it is for is
sold and the others are held as before; the purchase that made it was told of a new booking, and
all others were told of the same one. Whatever else has been booked was ordered by strangers. -/
theorem one_sale_of_basket (c : Basket) (ho : c.Opens s) (clock : Instant) (events : List Event)
    (hallow : Traffic.Along length c.Allows (.ofStore s clock) events)
    (hlive : ∀ seat ∈ c.seats, ∀ since, seat.state = .locked since c.user →
      ∀ now ∈ (Traffic.ofStore s clock).readings length seat.id events,
        ¬Hold.isExpired since now length)
    (hcall : ∃ seat ∈ c.seats, .arrive (c.order seat) ∈ events)
    (hdone : c.Complete length ((Traffic.ofStore s clock).run length events)) :
    let t := (Traffic.ofStore s clock).run length events
    ∃ sold ∈ c.seats, ∃ id winner,
      (∃ before after, events = before ++ .arrive (c.order sold) :: after ∧
        winner = ((Traffic.ofStore s clock).run length before).arrivals) ∧
      t.visits winner = some ⟨c.order sold, .finished (.done (.booked id false))⟩ ∧
      (∀ before seat after, seat ∈ c.seats → events = before ++ .arrive (c.order seat) :: after →
        let i := ((Traffic.ofStore s clock).run length before).arrivals
        t.visits i =
          some ⟨c.order seat, .finished (.done (.booked id (decide (i ≠ winner))))⟩) ∧
      t.store.seats.get? sold.id = some { sold with state := .sold } ∧
      (∀ seat ∈ c.seats, seat.id ≠ sold.id → t.store.seats.get? seat.id = some seat) ∧
      ∃ new, t.store.bookings = s.bookings ++ new ∧
        new.filter (fun b => c.Concerns b) =
          [⟨id, c.user, sold.showId, sold.id, some c.key⟩] ∧
        (∀ b ∈ new, ¬c.Concerns b → ∃ i order, c.Stranger order ∧
          t.visits i = some ⟨order, .finished (.done (.booked b.id false))⟩) ∧
        ((∀ order, .arrive order ∈ events → ∃ seat ∈ c.seats, order = c.order seat) →
          new = [⟨id, c.user, sold.showId, sold.id, some c.key⟩]) := by
  intro t
  have ht₀ : (Traffic.ofStore s clock).Sound length := Traffic.sound_ofStore ho.rest clock
  obtain ⟨p, hc⟩ := (stands_ofStore ho clock).run ht₀ ho hallow (along_live hlive)
  have hanswer : ∀ before seat after, seat ∈ c.seats →
      events = before ++ .arrive (c.order seat) :: after →
      ∃ winner sold id, p = .sold winner sold id ∧
        t.visits ((Traffic.ofStore s clock).run length before).arrivals =
          some ⟨c.order seat, .finished (.done (.booked id (decide
            (((Traffic.ofStore s clock).run length before).arrivals ≠ winner))))⟩ := by
    rintro before seat after hs rfl
    obtain ⟨outcome, hi⟩ := call_answered ho hs hallow hdone
    obtain ⟨winner, sold, id, hp, rfl⟩ := hc.answer ho hi
    exact ⟨winner, sold, id, hp, hi⟩
  obtain ⟨seat, hs, hmem⟩ := hcall
  obtain ⟨before, after, hevents⟩ := List.append_of_mem hmem
  obtain ⟨winner, sold, id, rfl, -⟩ := hanswer before seat after hs hevents
  obtain ⟨hsold, hwinner⟩ := hc.winner winner sold id rfl
  obtain ⟨new, hnew, hsale⟩ := hc.sales
  have hout : ∀ b ∈ new, t.HandedOut b := by
    obtain ⟨new', hnew', hout⟩ := ht₀.handedOut events
    obtain rfl := List.append_cancel_left (hnew.symm.trans hnew')
    exact hout
  have hothers : ∀ b ∈ new, ¬c.Concerns b → ∃ i order, c.Stranger order ∧
      t.visits i = some ⟨order, .finished (.done (.booked b.id false))⟩ :=
    fun b hm hn => hc.stranger_of_handedOut (hout b hm) hn
  refine ⟨sold, hsold, id, winner, Traffic.visit_of_ofStore ho.rest hwinner, hwinner, ?_, ?_, ?_,
    new, hnew, hsale, hothers, ?_⟩
  · intro before seat after hs hevents
    obtain ⟨winner', sold', id', hp, hi⟩ := hanswer before seat after hs hevents
    cases hp
    exact hi
  · have hget := hc.seat sold hsold
    rwa [Phase.state, if_pos rfl] at hget
  · intro seat hs hne
    have hget := hc.seat seat hs
    rwa [Phase.state, if_neg (Ne.symm hne)] at hget
  · intro hcalls
    have hall : ∀ b ∈ new, c.Concerns b := by
      intro b hm
      by_contra hn
      obtain ⟨i, order, hx, hi⟩ := hothers b hm hn
      obtain ⟨before, after, hevents, -⟩ := Traffic.visit_of_ofStore ho.rest hi
      have hmem : .arrive order ∈ events := by
        rw [hevents]
        exact List.mem_append_right _ List.mem_cons_self
      obtain ⟨seat, -, rfl⟩ := hcalls order hmem
      exact not_stranger_order ho seat hx
    exact (List.filter_eq_self.2 fun b hm => decide_eq_true (hall b hm)).symm.trans hsale

/-- Buyer 7 holds two seats and asks for each of them twice before the sale, and once after it. -/
def twoSeats : Basket :=
  ⟨7, "k", [⟨1, 5, "A1", .locked .epoch 7⟩, ⟨2, 5, "A2", .locked .epoch 7⟩]⟩

def arrivals : List Event :=
  [.arrive (.buy 5 1 7 (some "k")), .arrive (.buy 5 2 7 (some "k")),
    .arrive (.buy 5 1 7 (some "k")), .arrive (.buy 5 2 7 (some "k")), .arrive (.hold 1 8)]

/-- The first purchase sells seat 1. The second one meets the booking at its commit, the third at
the seat, the fourth at its insert, and the last one at its first request. Visit 4 is a stranger. -/
def fiveRoutes : List Event :=
  arrivals ++ ([0, 1, 2, 3, 0, 1, 2, 3, 4, 0, 1, 2, 3, 4, 0, 1, 0, 1, 0, 1, 0, 1, 1, 2, 3, 2, 3,
    2, 3, 2, 3, 3, 3, 4, 4, 4].map .go ++ [.arrive (.buy 5 1 7 (some "k")), .go 5])

def heldSeats : Store := .ofSeats twoSeats.seats

theorem opens_twoSeats : twoSeats.Opens heldSeats where
  rest := ⟨rfl, rfl⟩
  faults := rfl
  seat := by decide +kernel
  held seat hs := by
    rcases List.mem_pair.1 hs with rfl | rfl
    · exact ⟨.epoch, rfl⟩
    · exact ⟨.epoch, rfl⟩
  key := by decide
  unused _ hb := by cases hb

theorem allows_turns (turns : List Nat) :
    Traffic.Along length c.Allows t (turns.map .go) := by
  induction turns generalizing t with
  | nil => trivial
  | cons i turns ih => exact ⟨.go i, ih⟩

theorem allows_fiveRoutes :
    Traffic.Along Traffic.tenMinutes twoSeats.Allows (.ofStore heldSeats .epoch) fiveRoutes := by
  have h₁ : (⟨1, 5, "A1", .locked .epoch 7⟩ : Seat) ∈ twoSeats.seats := by decide
  have h₂ : (⟨2, 5, "A2", .locked .epoch 7⟩ : Seat) ∈ twoSeats.seats := by decide
  have hx : twoSeats.Stranger (.hold 1 8) := ⟨by decide, nofun⟩
  refine (Traffic.along_append _ _).2 ⟨?_, (Traffic.along_append _ _).2 ⟨allows_turns _, ?_⟩⟩
  · exact ⟨.call h₁, .call h₂, .call h₁, .call h₂, .stranger hx, trivial⟩
  · exact ⟨.call h₁, .go 5, trivial⟩

theorem one_sale_of_basket_twoSeats :
    let t := (Traffic.ofStore heldSeats .epoch).run Traffic.tenMinutes fiveRoutes
    twoSeats.Opens heldSeats ∧
      Traffic.Along Traffic.tenMinutes twoSeats.Allows (.ofStore heldSeats .epoch) fiveRoutes ∧
      (∀ seat ∈ twoSeats.seats, ∀ since, seat.state = .locked since twoSeats.user →
        ∀ now ∈ (Traffic.ofStore heldSeats .epoch).readings Traffic.tenMinutes seat.id fiveRoutes,
          ¬Hold.isExpired since now Traffic.tenMinutes) ∧
      (∃ seat ∈ twoSeats.seats, .arrive (twoSeats.order seat) ∈ fiveRoutes) ∧
      twoSeats.Complete Traffic.tenMinutes t ∧
      ∃ sold ∈ twoSeats.seats, ∃ id winner,
        t.visits 3 = some ⟨twoSeats.order ⟨2, 5, "A2", .locked .epoch 7⟩,
          .finished (.done (.booked id (decide (3 ≠ winner))))⟩ ∧
        (t.store.bookings.filter fun b => twoSeats.Concerns b) =
          [⟨id, 7, sold.showId, sold.id, some "k"⟩] := by
  intro t
  have ht : t.Sound Traffic.tenMinutes := (Traffic.sound_ofStore ⟨rfl, rfl⟩ _).run _
  have hlive : ∀ seat ∈ twoSeats.seats, ∀ since, seat.state = .locked since twoSeats.user →
      ∀ now ∈ (Traffic.ofStore heldSeats .epoch).readings Traffic.tenMinutes seat.id fiveRoutes,
        ¬Hold.isExpired since now Traffic.tenMinutes := by
    intro seat hs since hheld
    rcases List.mem_pair.1 hs with rfl | rfl
    · cases hheld
      decide +kernel
    · cases hheld
      decide +kernel
  have hcall : ∃ seat ∈ twoSeats.seats, .arrive (twoSeats.order seat) ∈ fiveRoutes := by
    decide +kernel
  have hstill : ∀ i v, t.visits i = some v → v.stage.rank = 0 :=
    ht.forall_visits (P := fun v => v.stage.rank = 0) (by decide +kernel)
  have hdone : twoSeats.Complete Traffic.tenMinutes t :=
    fun i v hv _ => Traffic.step_go_of_rank_eq_zero hv (hstill i v hv)
  refine ⟨opens_twoSeats, allows_fiveRoutes, hlive, hcall, hdone, ?_⟩
  obtain ⟨sold, hsold, id, winner, -, -, hcalls, -, -, new, hnew, hsale, -⟩ :=
    one_sale_of_basket twoSeats opens_twoSeats .epoch fiveRoutes allows_fiveRoutes hlive hcall hdone
  refine ⟨sold, hsold, id, winner, ?_, ?_⟩
  · exact hcalls (fiveRoutes.take 3) ⟨2, 5, "A2", .locked .epoch 7⟩ (fiveRoutes.drop 4) (by decide)
      (by decide)
  · rw [show t.store.bookings = new from hnew]
    exact hsale

end Basket

end BoxOffice
