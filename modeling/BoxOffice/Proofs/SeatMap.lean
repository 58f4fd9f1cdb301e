import BoxOffice.Proofs.Ledger
import BoxOffice.Proofs.SeatListing

set_option autoImplicit false

namespace BoxOffice

open Engine (TxId Order Stage Gain Outcome)

inductive Standing where
  | free
  | heldBy (user : Int)
  | sold
deriving DecidableEq

def SeatState.standing (length : Span) (now : Instant) : SeatState → Standing
  | available => .free
  | locked since holder => if Hold.isExpired since now length then .free else .heldBy holder
  | sold => .sold

variable {length : Span} {now : Instant} {s : Store} {seat : Seat} {r user : Int} {a : TxId}

theorem display_standing (seat : Seat) (now : Instant) (length : Span) :
    let view := Hold.display seat now length
    view.id = seat.id ∧
      match seat.state.standing length now with
      | .free => view.status = .available
      | .heldBy holder => view.status = .locked ∧ view.userId = some holder
      | .sold => view.status = .sold := by
  cases hs : seat.state with
  | available => simp [Hold.display, SeatState.standing, hs]
  | sold => simp [Hold.display, SeatState.standing, hs]
  | locked since holder =>
    by_cases he : Hold.isExpired since now length = true
    · simp [Hold.display, SeatState.standing, hs, he]
    · simp [Hold.display, SeatState.standing, hs, he]

namespace Office

variable {o : Office}

theorem call_hold_of_free (hk : o.keeping = .memory) (hf : o.store.faults = ⟨false, false⟩)
    (hfree : o.store.holder r = none) (hg : o.store.seats.get? r = some seat) {e : Instant}
    (he : Hold.expiresAt? o.clock o.rules.holdLength = some e) (user : Int) :
    (o.call (.order (.hold r user))).2 = .outcome
      (match seat.state.standing o.rules.holdLength o.clock with
        | .free => .done (.held e)
        | .heldBy _ => .refused .alreadyLocked
        | .sold => .refused .alreadySold) := by
  obtain ⟨s', hcall, -, -⟩ := call_of_free hk (.hold r user) hfree
  have hend : o.clock.add? o.rules.holdLength = some e := he
  rw [hcall]
  refine congrArg Answer.outcome ?_
  simp only [Ledger.serve, Ledger.hold, Ledger.lock, Store.ledger, hg, hf, hend, Bool.false_eq_true,
    if_false]
  cases hst : seat.state with
  | available | sold => rfl
  | locked since holder =>
    have hago : Hold.isExpired since o.clock o.rules.holdLength =
        decide (o.rules.holdLength.nanos < o.clock.since since) := rfl
    by_cases hlt : o.rules.holdLength.nanos < o.clock.since since
    · simp [SeatState.standing, Ledger.ago, hago, hlt, Int.not_le.2 hlt]
    · simp [SeatState.standing, Ledger.ago, hago, hlt, Int.not_lt.1 hlt]

theorem call_buy_of_free (hk : o.keeping = .memory) (hf : o.store.faults = ⟨false, false⟩)
    (hfree : o.store.holder r = none) (hg : o.store.seats.get? r = some seat) (user : Int) :
    ∃ id, (o.call (.order (.buy seat.showId r user none))).2 = .outcome
      (match seat.state.standing o.rules.holdLength o.clock with
        | .heldBy holder =>
          if holder = user then .done (.booked id false) else .refused .lockedByOther
        | _ => .refused (if seat.state.status = .locked then .lockExpired else .notLocked)) := by
  obtain ⟨s', hcall, -, -⟩ := call_of_free hk (.buy seat.showId r user none) hfree
  refine ⟨(o.store.lastBooking + 1 : Nat), ?_⟩
  rw [hcall]
  refine congrArg Answer.outcome ?_
  simp only [Ledger.serve, Ledger.buy, Ledger.earlier?, Ledger.sell, Store.ledger, hg, hf,
    Bool.false_eq_true, if_false]
  cases hst : seat.state with
  | available | sold => rfl
  | locked since holder =>
    have hago : Hold.isExpired since o.clock o.rules.holdLength =
        decide (o.rules.holdLength.nanos < o.clock.since since) := rfl
    by_cases he : o.rules.holdLength.nanos < o.clock.since since
    · simp [SeatState.standing, SeatState.status, Ledger.ago, hago, he]
    · by_cases hu : holder = user
      · simp [SeatState.standing, Ledger.ago, hago, he, hu]
      · simp [SeatState.standing, Ledger.ago, hago, he, hu]

theorem seatMap_of_memory (hk : o.keeping = .memory) (hg : o.store.seats.get? r = some seat) :
    ∃ views, (o.seatMap seat.showId).2 = .ok views ∧
      views.filter (fun view => view.id = r) = [Hold.display seat o.clock o.rules.holdLength] := by
  refine ⟨_, congrArg Prod.snd (seatMap_eq hk seat.showId), ?_⟩
  rw [(o.store.mapsShow seat.showId o.clock o.rules.holdLength).single r, hg]
  simp

/-- The map shows a seat as available if everybody can hold it, as locked if nobody can for it is
held, and as sold if nobody can for it is sold. It is shown as locked by those who can buy it, and
by nobody else. -/
theorem seat_map_agrees (o : Office) (hk : o.keeping = .memory)
    (hf : o.store.faults = ⟨false, false⟩) {r : Int} {seat : Seat}
    (hg : o.store.seats.get? r = some seat) (hfree : o.store.holder r = none) {e : Instant}
    (he : Hold.expiresAt? o.clock o.rules.holdLength = some e) :
    let hold := fun user => (o.call (.order (.hold r user))).2
    let buy := fun user => (o.call (.order (.buy seat.showId r user none))).2
    ∃ views view, (o.seatMap seat.showId).2 = .ok views ∧
      views.filter (fun view => view.id = r) = [view] ∧
      (view.status = .available ↔ ∀ user, ∃ receipt, hold user = .outcome (.done receipt)) ∧
      (view.status = .locked ↔ ∀ user, hold user = .outcome (.refused .alreadyLocked)) ∧
      (view.status = .sold ↔ ∀ user, hold user = .outcome (.refused .alreadySold)) ∧
      (∀ user, view.status = .locked ∧ view.userId = some user ↔
        ∃ receipt, buy user = .outcome (.done receipt)) ∧
      (∀ holder, view.status = .locked ∧ view.userId = some holder →
        ∀ user, user ≠ holder → buy user = .outcome (.refused .lockedByOther)) ∧
      (view.status = .available ∨ view.status = .sold → ∀ user,
        buy user = .outcome (.refused .lockExpired) ∨
          buy user = .outcome (.refused .notLocked)) := by
  intro hold buy
  obtain ⟨views, hviews, hview⟩ := seatMap_of_memory hk hg
  have hshown := (display_standing seat o.clock o.rules.holdLength).2
  have hhold : ∀ user, hold user = _ := call_hold_of_free hk hf hfree hg he
  have hbuy : ∀ user, ∃ id, buy user = _ := call_buy_of_free hk hf hfree hg
  have hrefused : ∀ user, (∃ _ : Int, buy user = .outcome (.refused
      (if seat.state.status = .locked then .lockExpired else .notLocked))) →
      buy user = .outcome (.refused .lockExpired) ∨ buy user = .outcome (.refused .notLocked) := by
    rintro user ⟨-, h⟩
    split at h
    · exact Or.inl h
    · exact Or.inr h
  have hnone : ∀ user, buy user = .outcome (.refused .lockExpired) ∨
      buy user = .outcome (.refused .notLocked) →
        ∀ receipt, buy user ≠ .outcome (.done receipt) := by
    intro user h receipt hdone
    rcases h with h | h <;> cases hdone.symm.trans h
  refine ⟨views, _, hviews, hview, ?_⟩
  cases hst : seat.state.standing o.rules.holdLength o.clock with
  | free | sold =>
    simp only [hst] at hshown hhold hbuy
    have hno := fun user => hrefused user (hbuy user)
    simp [hshown, hhold, hno, fun user => hnone user (hno user)]
  | heldBy holder =>
    simp only [hst] at hshown hhold hbuy
    have hother : ∀ user, user ≠ holder → buy user = .outcome (.refused .lockedByOther) := by
      intro user hu
      obtain ⟨id, h⟩ := hbuy user
      rwa [if_neg (Ne.symm hu)] at h
    have hown : ∀ user, holder = user ↔ ∃ receipt, buy user = .outcome (.done receipt) := by
      intro user
      constructor
      · rintro rfl
        obtain ⟨id, h⟩ := hbuy holder
        exact ⟨_, h.trans (congrArg _ (if_pos rfl))⟩
      · rintro ⟨receipt, h⟩
        by_contra hu
        cases h.symm.trans (hother user (Ne.symm hu))
    simpa [hshown, hhold] using And.intro hown hother

/-- Three seats of one show: a hold at the last instant at which it counts, one that has run out,
and a seat that is sold. -/
def Plan.threeSeats : Plan where
  booking := ⟨600, 5000⟩
  tokens := ⟨"secret", 15⟩
  requestLimitSeconds := 30
  lockTimeoutMillis := 5000
  keeping := .memory
  seats := [⟨1, 5, "A1", .locked ⟨5000000000, false, by decide, by decide⟩ 7⟩,
    ⟨2, 5, "A2", .locked .epoch 7⟩, ⟨3, 5, "A3", .sold⟩]
  clock := ⟨605000000000, false, by decide, by decide⟩
  wallClock := .epoch

theorem seat_map_agrees_lastInstant :
    ∃ o, Plan.threeSeats.office? ⟨[], [], []⟩ ⟨none, false, false, 3600, []⟩ = some o ∧
      o.keeping = .memory ∧ o.store.faults = ⟨false, false⟩ ∧
      o.store.seats.get? 1 = some ⟨1, 5, "A1", .locked ⟨5000000000, false, by decide, by decide⟩ 7⟩ ∧
      o.store.holder 1 = none ∧
      Hold.expiresAt? o.clock o.rules.holdLength =
        some ⟨1205000000000, false, by decide, by decide⟩ ∧
      (∃ receipt, (o.call (.order (.buy 5 1 7 none))).2 = .outcome (.done receipt)) ∧
      (o.call (.order (.buy 5 1 8 none))).2 = .outcome (.refused .lockedByOther) := by
  let o : Office := (Plan.threeSeats.office? ⟨[], [], []⟩ ⟨none, false, false, 3600, []⟩).get rfl
  have hg : o.store.seats.get? 1 =
      some ⟨1, 5, "A1", .locked ⟨5000000000, false, by decide, by decide⟩ 7⟩ := rfl
  have hfree : o.store.holder 1 = none := rfl
  obtain ⟨views, view, hviews, hview, -, -, -, hbuy, hother, -⟩ :=
    seat_map_agrees o rfl rfl hg hfree (e := ⟨1205000000000, false, by decide, by decide⟩) rfl
  obtain ⟨views', hviews', hview'⟩ := seatMap_of_memory (o := o) rfl hg
  obtain rfl := Except.ok.inj (hviews.symm.trans hviews')
  obtain rfl := List.singleton_inj.1 (hview.symm.trans hview')
  exact ⟨o, rfl, rfl, rfl, hg, hfree, rfl, (hbuy 7).1 ⟨rfl, rfl⟩, hother 7 ⟨rfl, rfl⟩ 8 (by decide)⟩

end Office

end BoxOffice
