import BoxOffice.Proofs.Commits
import BoxOffice.Proofs.HoldPromise
import BoxOffice.Proofs.Ownership

set_option autoImplicit false

/-!
# Where a sale comes from

A sale follows on its buyer's own hold: the seat has been locked for him, nobody has changed it
since, and he was still in time when his purchase was judged. To say so, a run is looked at from its
end: every state of a seat was there at the start or was written by the last commit that touched it.
-/

namespace BoxOffice

open Engine (TxId Order Stage Gain Advance)
open Function (update)

namespace Traffic

variable {length : Span} {s : Store} {start t t' : Traffic} {e : Event} {events : List Event}
variable {i j : Nat} {r : Int} {seat : Seat} {now : Instant} {order : Order} {stage : Stage}
variable {b : Booking}

/-- Along the run the visit read the clock at `now` and found the seat to be its order's to take. -/
def Judged (length : Span) (start : Traffic) (i : Nat) (order : Order) (seat : Seat) (now : Instant)
    (events : List Event) : Prop :=
  ∃ before after tx, events = before ++ .go i :: after ∧
    (start.run length before).visits i = some ⟨order, .deciding tx seat⟩ ∧
    (start.run length before).clock = now ∧ order.admits length seat now = .ok ()

theorem Judged.append (h : Judged length start i order seat now events) (more : List Event) :
    Judged length start i order seat now (events ++ more) := by
  obtain ⟨before, after, tx, rfl, hrest⟩ := h
  exact ⟨before, after ++ more, tx, by simp, hrest⟩

theorem Judged.admits (h : Judged length start i order seat now events) :
    order.admits length seat now = .ok () := by
  obtain ⟨_, _, _, _, _, _, ha⟩ := h
  exact ha

theorem judged_of_admitted (hs : s.AtRest) {clock : Instant}
    (hi : ((ofStore s clock).run length events).visits i = some ⟨order, stage⟩)
    (ha : stage.Admitted) :
    ∃ tx seat now, stage.tx? = some tx ∧
      ((ofStore s clock).run length events).store.Grips tx order.seatId seat ∧
      Judged length (ofStore s clock) i order seat now events ∧ stage.Reads now := by
  induction events using List.reverseRecOn generalizing stage with
  | nil => cases hi
  | append_singleton events e ih =>
    let t : Traffic := (ofStore s clock).run length events
    have ht : t.Sound length := (sound_ofStore hs clock).run events
    have hh : Happens length t e (t.step length e) := happens ht e
    have hlast : (ofStore s clock).run length (events ++ [e]) = t.step length e := run_append _ _
    rw [hlast] at hi ⊢
    have later : ∀ {stage₀}, t.visits i = some ⟨order, stage₀⟩ → stage₀.Admitted →
        stage.tx? = stage₀.tx? → (∀ now, stage₀.Reads now → stage.Reads now) →
        ∃ tx seat now, stage.tx? = some tx ∧
          (t.step length e).store.Grips tx order.seatId seat ∧
          Judged length (ofStore s clock) i order seat now (events ++ [e]) ∧ stage.Reads now := by
      intro stage₀ hi₀ ha₀ htx hreads
      obtain ⟨tx, seat, now, htx₀, hg, hj, hr⟩ := ih hi₀ ha₀
      have hown : t.Owns i tx := ⟨_, hi₀, htx₀⟩
      exact ⟨tx, seat, now, htx.trans htx₀,
        hown.grips ht hh ⟨_, hi, htx.trans htx₀⟩ hg, hj.append [e], hreads now hr⟩
    rcases hh.visit_before hi with hi₀ | ⟨-, -, hf⟩ | ⟨stage₀, s', hgo, hi₀, hs', had⟩ |
      ⟨stage₀, -, -, hw, hf⟩
    · exact later hi₀ ha rfl fun _ h => h
    · simp only at hf
      rw [hf] at ha
      exact absurd ha (Engine.not_admitted_first _)
    · simp only at had
      rcases had.of_admitted ha with ha₀ | ⟨tx, seat, rfl, hok⟩
      · obtain ⟨htx, hreads⟩ : stage.tx? = stage₀.tx? ∧
            ∀ now, stage₀.Reads now → stage.Reads now := by
          cases had with
          | heldWritten => exact ⟨rfl, fun _ hr => hr⟩
          | saleWritten | inserted => exact ⟨rfl, fun _ _ => trivial⟩
          | withdrawn | commitFailed | commitTaken | undone =>
            exact absurd ha (Engine.not_admitted_refuse _ _)
          | admitted => exact ha₀.elim
          | _ => exact ha.elim
        exact later hi₀ ha₀ htx hreads
      · have hg := (ht.stage i _ hi₀).grips_of_deciding
        have hown : t.Owns i tx := ⟨_, hi₀, rfl⟩
        cases had with
        | admitted hr =>
          exact ⟨tx, seat, t.clock, rfl, hown.grips ht hh ⟨_, hi, rfl⟩ hg,
            ⟨events, [], tx, by rw [hgo], hi₀, rfl, hok⟩, rfl⟩
        | rejected => exact ha.elim
    · simp only at hf
      rw [hf] at ha
      cases stage₀ with
      | opening | fetching | withdrawing => exact ha.elim
      | _ => cases hw

/-- The seat is as it was at the start, or the last order that was committed for it left it so. -/
inductive Origin (length : Span) (start : Traffic) (r : Int) (seat : Seat) (events : List Event) :
    Prop
  | untouched (hg : start.store.seats.get? r = some seat) (hu : Untouched length r start events)
  | written {earlier i later order seat₀ now} (he : events = earlier ++ .go i :: later)
      (hc : (start.run length earlier).Commits i order) (hr : order.seatId = r)
      (hj : Judged length start i order seat₀ now earlier)
      (hs : seat.state = order.newState now)
      (hg : (start.run length (earlier ++ [.go i])).store.seats.get? r = some seat)
      (hu : Untouched length r (start.run length (earlier ++ [.go i])) later)

theorem Commits.judged (hs : s.AtRest) {clock : Instant}
    (hc : ((ofStore s clock).run length events).Commits i order) :
    ∃ seat now, Judged length (ofStore s clock) i order seat now events ∧
      ((ofStore s clock).run length events).store.seats.get? order.seatId = some seat ∧
      ((ofStore s clock).run length (events ++ [.go i])).store.seats.get? order.seatId =
        some { seat with state := order.newState now } := by
  have ht : ((ofStore s clock).run length events).Sound length := (sound_ofStore hs clock).run _
  obtain ⟨tx, gain, seat, hi, hg, hafter⟩ := hc.advance ht
  obtain ⟨tx', seat', now, htx, hg', hj, hr⟩ := judged_of_admitted hs hi trivial
  cases htx
  obtain rfl := Option.some.inj (hg.get?.symm.trans hg'.get?)
  refine ⟨seat, now, hj, hg.get?, ?_⟩
  rw [run_append]
  exact hafter now hr

theorem origin (hs : s.AtRest) (clock : Instant) (events : List Event) (r : Int) (seat : Seat)
    (hg : ((ofStore s clock).run length events).store.seats.get? r = some seat) :
    Origin length (ofStore s clock) r seat events := by
  induction events using List.reverseRecOn with
  | nil => exact .untouched hg trivial
  | append_singleton events e ih =>
    have ht : ((ofStore s clock).run length events).Sound length := (sound_ofStore hs clock).run _
    by_cases hn : Touches r ((ofStore s clock).run length events) e
    · obtain ⟨i, order, rfl, hc, rfl⟩ := hn
      obtain ⟨seat₀, now, hj, -, hafter⟩ := hc.judged hs
      obtain rfl := Option.some.inj (hafter.symm.trans hg)
      exact .written rfl hc rfl hj rfl hg trivial
    · have hsame := (happens ht e).get?_of_not_touches hn
      rw [run_append] at hg
      cases ih (hsame.symm.trans hg) with
      | untouched hg₀ hu => exact .untouched hg₀ (untouched_concat hu hn)
      | written he hc hr hj hs hg₀ hu =>
        rename_i earlier i later order seat₀ now
        refine .written (by rw [he, List.append_assoc]; rfl) hc hr hj hs hg₀
          (untouched_concat hu ?_)
        rw [he] at hn
        rwa [← run_append, List.append_assoc]

/-- What a sale rests on. Before it the seat is locked by the buyer, since the start or since the
last order that was committed for it, a hold of his own that read the clock then; and the purchase
was judged in time. -/
structure FromLiveHold (length : Span) (start : Traffic) (i : Nat) (order : Order) (seat : Seat)
    (since : Instant) (events : List Event) : Prop where
  get? : (start.run length events).store.seats.get? order.seatId = some seat
  locked : seat.state = .locked since order.userId
  inTime : ∃ now, Judged length start i order seat now events ∧
    now.since since ≤ length.nanos
  origin : (start.store.seats.get? order.seatId = some seat ∧
      Untouched length order.seatId start events) ∨
    ∃ earlier j later seat₀, events = earlier ++ .go j :: later ∧
      (start.run length earlier).Commits j (.hold order.seatId order.userId) ∧
      Judged length start j (.hold order.seatId order.userId) seat₀ since earlier ∧
      (start.run length (earlier ++ [.go j])).store.seats.get? order.seatId = some seat ∧
      Untouched length order.seatId (start.run length (earlier ++ [.go j])) later

theorem Commits.fromLiveHold (hs : s.AtRest) {clock : Instant} {showId user : Int}
    {givenKey : Option String} (hc : ((ofStore s clock).run length events).Commits i
      (.buy showId r user givenKey)) :
    ∃ seat since, FromLiveHold length (ofStore s clock) i (.buy showId r user givenKey) seat since
      events := by
  obtain ⟨seat, now, hj, hg, -⟩ := hc.judged hs
  obtain ⟨⟨since, hlocked, hlive⟩, -⟩ := Engine.admits_buy_iff.1 hj.admits
  refine ⟨seat, since, hg, hlocked, ⟨now, hj, ?_⟩, ?_⟩
  · unfold Hold.isExpired at hlive
    simpa using hlive
  · cases Traffic.origin hs clock events r seat hg with
    | untouched hg₀ hu => exact Or.inl ⟨hg₀, hu⟩
    | written he hc₀ hr hj₀ hs₀ hg₀ hu =>
      rename_i earlier j later order seat₀ now₀
      cases order with
      | hold q other =>
        cases hs₀.symm.trans hlocked
        cases hr
        exact Or.inr ⟨earlier, j, later, seat₀, he, hc₀, hj₀, hg₀, hu⟩
      | buy => cases hs₀.symm.trans hlocked

/-- Every booking was committed when its seat was locked by the buyer, by a hold that was there from
the start or that the buyer's own order had made, with no other order for the seat committed since,
and the reading of the clock that the purchase was judged by lies within the length of the hold. -/
theorem sale_from_live_hold (hs : s.AtRest) (hb : s.bookings = []) (clock : Instant)
    (events : List Event) :
    let start := ofStore s clock
    ∀ b ∈ (start.run length events).store.bookings, ∃ before i after givenKey seat since,
      let order := Order.buy b.showId b.seatId b.userId givenKey
      events = before ++ .go i :: after ∧ (start.run length before).Commits i order ∧
        (start.run length (before ++ [.go i])).store.bookings =
          (start.run length before).store.bookings ++ [b] ∧
        FromLiveHold length start i order seat since before := by
  intro start b hm
  induction events using List.reverseRecOn with
  | nil =>
    change b ∈ s.bookings at hm
    rw [hb] at hm
    cases hm
  | append_singleton events e ih =>
    have ht : (start.run length events).Sound length := (sound_ofStore hs clock).run _
    by_cases hold : b ∈ (start.run length events).store.bookings
    · obtain ⟨before, i, after, givenKey, seat, since, he, hrest⟩ := ih hold
      exact ⟨before, i, after ++ [e], givenKey, seat, since, by rw [he, List.append_assoc]; rfl,
        hrest⟩
    · rw [run_append] at hm
      obtain ⟨i, givenKey, rfl, hc, hnew⟩ := (happens ht e).booked hm hold
      obtain ⟨seat, since, hfrom⟩ := hc.fromLiveHold hs
      refine ⟨events, i, [], givenKey, seat, since, rfl, hc, ?_, hfrom⟩
      rw [run_append]
      exact hnew

/-- Buyer 8 holds the seat until his time is up. Then buyer 7 holds it and buys it. -/
def reclaimed : List Event :=
  [.arrive (.hold 1 8), .go 0, .go 0, .go 0, .go 0, .go 0,
    .clock ⟨600000000001, false, by decide, by decide⟩,
    .arrive (.hold 1 7), .go 1, .go 1, .go 1, .go 1, .go 1,
    .arrive (.buy 5 1 7 none), .go 2, .go 2, .go 2, .go 2, .go 2, .go 2]

theorem sale_from_live_hold_reclaimed :
    oneSeat.AtRest ∧ oneSeat.bookings = [] ∧
      ⟨1, 7, 5, 1, none⟩ ∈ ((ofStore oneSeat .epoch).run tenMinutes reclaimed).store.bookings ∧
      ∃ before i after givenKey seat since, reclaimed = before ++ .go i :: after ∧
        FromLiveHold tenMinutes (ofStore oneSeat .epoch) i (.buy 5 1 7 givenKey) seat since
          before := by
  have hbooked : ⟨1, 7, 5, 1, none⟩ ∈
      ((ofStore oneSeat .epoch).run tenMinutes reclaimed).store.bookings := by
    decide +kernel
  obtain ⟨before, i, after, givenKey, seat, since, he, -, -, hfrom⟩ :=
    sale_from_live_hold ⟨rfl, rfl⟩ rfl .epoch reclaimed _ hbooked
  exact ⟨⟨rfl, rfl⟩, rfl, hbooked, before, i, after, givenKey, seat, since, he, hfrom⟩

end Traffic

end BoxOffice
