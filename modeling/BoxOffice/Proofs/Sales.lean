import BoxOffice.Proofs.TrafficEffects

set_option autoImplicit false

/-!
# No seat is sold twice

The store has no check that a seat is booked once. That it is follows from the row locks: whoever
commits has held the row since the seat was read, and the seat that was read was not sold.
-/

namespace BoxOffice

open Engine (TxId Order Stage)

def Seat.place (seat : Seat) : Int × Int × String := (seat.id, seat.showId, seat.name)

/-- Bookings and sold seats match; the seats are those of the start, up to their states. -/
structure Store.Sales (start : SeatTable) (s : Store) : Prop where
  booked : ∀ b ∈ s.bookings, ∃ seat, s.seats.get? b.seatId = some seat ∧
    seat.state = .sold ∧ b.showId = seat.showId
  once : s.bookings.Pairwise fun a b => a.seatId ≠ b.seatId
  sold : ∀ r seat, s.seats.get? r = some seat → seat.state = .sold →
    (∃ seat₀, start.get? r = some seat₀ ∧ seat₀.state = .sold) ∨ ∃ b ∈ s.bookings, b.seatId = r
  place : ∀ r, (s.seats.get? r).map Seat.place = (start.get? r).map Seat.place

namespace Traffic

variable {length : Span} {s s' : Store} {start : SeatTable} {t t' : Traffic} {e : Event}

theorem place_put {tx : TxId} {r : Int} {seat : Seat} (hg : s.Grips tx r seat)
    (state : SeatState) (q : Int) :
    ((s.seats.put { seat with state }).get? q).map Seat.place =
      (s.seats.get? q).map Seat.place := by
  rw [get?_put_of_grips hg]
  by_cases hq : q = r
  · rw [if_pos hq, hq, hg.get?]
    rfl
  · rw [if_neg hq]

theorem Sales.not_booked (hs : s.Sales start) {tx : TxId} {r : Int} {seat : Seat}
    (hg : s.Grips tx r seat) (hn : seat.state ≠ .sold) : ∀ b ∈ s.bookings, b.seatId ≠ r := by
  rintro b hm rfl
  obtain ⟨seat', hg', hsold, -⟩ := hs.booked b hm
  obtain rfl := Option.some.inj (hg'.symm.trans hg.get?)
  exact hn hsold

theorem Sales.hold (hs : s.Sales start) {tx : TxId} {r : Int} {seat : Seat}
    (hg : s.Grips tx r seat) (hn : seat.state ≠ .sold) {state : SeatState} (hst : state ≠ .sold)
    (hseats : s'.seats = s.seats.put { seat with state }) (hb : s'.bookings = s.bookings) :
    s'.Sales start := by
  refine ⟨?_, ?_, ?_, ?_⟩
  · intro b hm
    rw [hb] at hm
    rw [hseats, get?_put_of_grips hg, if_neg (Sales.not_booked hs hg hn b hm)]
    exact hs.booked b hm
  · rw [hb]
    exact hs.once
  · intro q seat' hq hsold
    rw [hseats, get?_put_of_grips hg] at hq
    rw [hb]
    by_cases hqr : q = r
    · rw [if_pos hqr] at hq
      obtain rfl := Option.some.inj hq
      exact absurd hsold hst
    · rw [if_neg hqr] at hq
      exact hs.sold q seat' hq hsold
  · intro q
    rw [hseats, place_put hg]
    exact hs.place q

theorem Sales.sale (hs : s.Sales start) {tx : TxId} {r : Int} {seat : Seat}
    (hg : s.Grips tx r seat) (hn : seat.state ≠ .sold) {b : Booking} (hbr : b.seatId = r)
    (hbs : b.showId = seat.showId) (hseats : s'.seats = s.seats.put { seat with state := .sold })
    (hb : s'.bookings = s.bookings ++ [b]) : s'.Sales start := by
  have hother := Sales.not_booked hs hg hn
  refine ⟨?_, ?_, ?_, ?_⟩
  · intro a hm
    rw [hb] at hm
    rw [hseats, get?_put_of_grips hg]
    rcases List.mem_append.1 hm with hm | hm
    · rw [if_neg (hother a hm)]
      exact hs.booked a hm
    · obtain rfl := List.mem_singleton.1 hm
      rw [if_pos hbr]
      exact ⟨_, rfl, rfl, hbs⟩
  · rw [hb, List.pairwise_append]
    refine ⟨hs.once, List.pairwise_singleton _ _, fun a hm b' hm' => ?_⟩
    obtain rfl := List.mem_singleton.1 hm'
    rw [hbr]
    exact hother a hm
  · intro q seat' hq hsold
    rw [hseats, get?_put_of_grips hg] at hq
    rw [hb]
    by_cases hqr : q = r
    · exact Or.inr ⟨b, by simp, hbr.trans hqr.symm⟩
    · rw [if_neg hqr] at hq
      rcases hs.sold q seat' hq hsold with h | ⟨a, hm, ha⟩
      · exact Or.inl h
      · exact Or.inr ⟨a, List.mem_append_left _ hm, ha⟩
  · intro q
    rw [hseats, place_put hg]
    exact hs.place q

theorem Effect.sales (h : Effect length t t') (hs : t.store.Sales start) :
    t'.store.Sales start := by
  cases h with
  | none hseats hb hv =>
    refine ⟨?_, ?_, ?_, ?_⟩
    · rw [hseats, hb]
      exact hs.booked
    · rw [hb]
      exact hs.once
    · rw [hseats, hb]
      exact hs.sold
    · rw [hseats]
      exact hs.place
  | hold hi hg ha hseats hb hv =>
    refine Sales.hold hs hg (not_sold_of_admits ha) ?_ hseats hb
    exact SeatState.noConfusion
  | sale hi hg ha hn hk hseats hb hv =>
    have hbr := congrArg Booking.seatId hn
    have hbs := congrArg Booking.showId hn
    have hshow := (Engine.admits_buy_iff.1 ha).2
    exact Sales.sale hs hg (not_sold_of_admits ha) hbr (hbs.trans hshow.symm) hseats hb

theorem Sound.sales (ht : t.Sound length) (hs : t.store.Sales start) (events : List Event) :
    (t.run length events).store.Sales start :=
  ht.run_induction hs (fun ht h hs => (ht.effect h).sales hs) events

theorem Sound.get?_of_sold (ht : t.Sound length) {r : Int} {seat : Seat}
    (hr : t.store.seats.get? r = some seat) (hs : seat.state = .sold) (events : List Event) :
    (t.run length events).store.seats.get? r = some seat :=
  ht.run_induction (P := fun t => t.store.seats.get? r = some seat) hr
    (fun ht h hr => (ht.effect h).get?_of_sold hr hs) events

theorem sales_start (hb : s.bookings = []) : s.Sales s.seats where
  booked b hm := by
    rw [hb] at hm
    cases hm
  once := by
    rw [hb]
    exact List.Pairwise.nil
  sold r seat hr hs := Or.inl ⟨seat, hr, hs⟩
  place _ := rfl

theorem Sales.filter_seatId {b : Booking} (hs : s.Sales start) (hm : b ∈ s.bookings) :
    s.bookings.filter (fun a => a.seatId = b.seatId) = [b] := by
  refine Store.filter_eq_singleton (hs.once.imp fun h h' => h ?_) hm (by simp)
  obtain ⟨h₁, h₂⟩ := h'
  exact (of_decide_eq_true h₁).trans (of_decide_eq_true h₂).symm

/-- Whatever orders come, and however they take turns: a seat has at most one booking, a booked
seat is sold, a seat that has been sold is booked, and it stays sold. -/
theorem no_seat_sold_twice (hs : s.AtRest) (hb : s.bookings = []) (clock : Instant)
    (before after : List Event) :
    let t := (ofStore s clock).run length before
    let t' := t.run length after
    (∀ r, (t.store.bookings.filter fun b => b.seatId = r).length ≤ 1) ∧
    (∀ b ∈ t.store.bookings, ∃ seat, t.store.seats.get? b.seatId = some seat ∧
      seat.state = .sold ∧ b.showId = seat.showId) ∧
    (∀ r seat, t.store.seats.get? r = some seat → seat.state = .sold →
      (∀ seat₀, s.seats.get? r = some seat₀ → seat₀.state ≠ .sold) →
      (t.store.bookings.filter fun b => b.seatId = r).length = 1) ∧
    (∀ r seat, t.store.seats.get? r = some seat → seat.state = .sold →
      t'.store.seats.get? r = some seat) ∧
    ∀ r, (t.store.seats.get? r).map Seat.place = (s.seats.get? r).map Seat.place := by
  intro t t'
  have ht : t.Sound length := (sound_ofStore hs clock).run before
  have hsales : t.store.Sales s.seats :=
    (sound_ofStore hs clock).sales (sales_start hb) before
  refine ⟨?_, hsales.booked, ?_, ?_, hsales.place⟩
  · intro r
    by_cases h : ∃ b ∈ t.store.bookings, b.seatId = r
    · obtain ⟨b, hm, rfl⟩ := h
      rw [Sales.filter_seatId hsales hm]
      exact Nat.le_refl 1
    · have hnil : t.store.bookings.filter (fun b => b.seatId = r) = [] :=
        List.filter_eq_nil_iff.2 fun b hm hr => h ⟨b, hm, of_decide_eq_true hr⟩
      rw [hnil]
      exact Nat.zero_le 1
  · intro r seat hr hsold hstart
    rcases hsales.sold r seat hr hsold with ⟨seat₀, hr₀, hsold₀⟩ | ⟨b, hm, rfl⟩
    · exact absurd hsold₀ (hstart seat₀ hr₀)
    · rw [Sales.filter_seatId hsales hm]
      rfl
  · intro r seat hr hsold
    exact ht.get?_of_sold hr hsold after

/-- Two buyers of one free seat, the second one between the requests of the first. -/
def race : List Event :=
  [.arrive (.hold 1 7), .arrive (.hold 1 8), .go 0, .go 1, .go 0, .go 1, .go 0, .go 0, .go 0,
    .arrive (.buy 5 1 7 none), .go 1, .go 2, .go 1, .go 1, .go 2, .go 2, .go 2, .go 2, .go 2]

theorem no_seat_sold_twice_race :
    let s := Store.ofSeats [⟨1, 5, "A1", .available⟩]
    s.AtRest ∧ s.bookings = [] ∧
      (((ofStore s .epoch).run tenMinutes race).store.bookings.filter
        fun b => b.seatId = 1).length = 1 :=
  ⟨⟨rfl, rfl⟩, rfl, (no_seat_sold_twice (s := Store.ofSeats [⟨1, 5, "A1", .available⟩])
    ⟨rfl, rfl⟩ rfl .epoch race []).2.2.1 1 ⟨1, 5, "A1", .sold⟩ rfl rfl
      fun seat₀ h => by cases h; nofun⟩

end Traffic

end BoxOffice
