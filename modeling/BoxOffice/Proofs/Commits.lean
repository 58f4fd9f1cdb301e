import BoxOffice.Proofs.Visits

set_option autoImplicit false

namespace BoxOffice

open Engine (TxId Order Stage Gain Advance)

namespace Traffic

variable {length : Span} {t t' : Traffic} {e : Event} {events : List Event} {i : Nat} {r : Int}
variable {order : Order} {b : Booking}

/-- The next request of the visit commits what its order does to its seat. -/
def Commits (t : Traffic) (i : Nat) (order : Order) : Prop :=
  ∃ tx gain, t.visits i = some ⟨order, .committing tx gain⟩ ∧ (t.store.commit tx).2 = .ok ()

def Touches (r : Int) (t : Traffic) (e : Event) : Prop :=
  ∃ i order, e = .go i ∧ t.Commits i order ∧ order.seatId = r

def Untouched (length : Span) (r : Int) : Traffic → List Event → Prop :=
  Along length fun t e => ¬Touches r t e

theorem untouched_concat (hu : Untouched length r t events)
    (hn : ¬Touches r (t.run length events) e) : Untouched length r t (events ++ [e]) :=
  (along_append events [e]).2 ⟨hu, hn, trivial⟩

theorem Commits.advance (hc : t.Commits i order) (ht : t.Sound length) :
    ∃ tx gain seat, t.visits i = some ⟨order, .committing tx gain⟩ ∧
      t.store.Grips tx order.seatId seat ∧
      ∀ now, (Stage.committing tx gain).Reads now →
        (t.step length (.go i)).store.seats.get? order.seatId =
          some { seat with state := order.newState now } := by
  obtain ⟨tx, gain, hi, hok⟩ := hc
  obtain ⟨s', stage', ha, hstep⟩ := ht.step_go hi
  have hst := ht.stage i _ hi
  rw [hstep]
  simp only at ha hst
  cases ha with
  | commitFailed hf =>
    rw [Store.commit_eq, if_pos hf] at hok
    cases hok
  | commitTaken hk =>
    cases hst with
    | selling hg ha hs =>
      have htaken : ((t.store.tx tx).bookings.any fun b =>
          Store.keyTaken t.store.bookings b.userId b.key) = true := by
        rw [hs]
        exact List.any_eq_true.2 ⟨_, List.mem_singleton.2 rfl, hk⟩
      rw [Store.commit_eq, htaken] at hok
      split at hok <;> cases hok
  | holdCommitted hf hg ha hs =>
    refine ⟨tx, _, _, hi, hg, ?_⟩
    rintro now rfl
    change (t.store.committed tx).seats.get? _ = _
    rw [Store.seats_committed hs, get?_put_of_grips hg]
    exact if_pos rfl
  | saleCommitted hf hg ha hs =>
    refine ⟨tx, _, _, hi, hg, fun now _ => ?_⟩
    change (t.store.committed tx).seats.get? _ = _
    rw [Store.seats_committed hs, get?_put_of_grips hg]
    exact if_pos rfl

theorem commits_or_data {v : Visit} {s' : Store} {stage' : Stage} (hi : t.visits i = some v)
    (ha : Advance length t.store t.clock v.order v.stage s' stage') :
    (t.Commits i v.order ∧ ∃ gain : Gain, stage' = .finished (gain.outcome length)) ∨
      s'.seats = t.store.seats ∧ s'.bookings = t.store.bookings := by
  obtain ⟨order, stage⟩ := v
  simp only at ha
  by_cases hn : ∀ tx gain, stage ≠ .committing tx gain
  · exact Or.inr (ha.data hn)
  · cases ha with
    | commitFailed | commitTaken => exact Or.inr ⟨rfl, rfl⟩
    | holdCommitted hf hg ha hs =>
      refine Or.inl ⟨⟨_, _, hi, ?_⟩, _, rfl⟩
      rw [Store.commit_eq, hs, hf]
      rfl
    | saleCommitted hf hg ha hs hb hk =>
      rename_i b
      refine Or.inl ⟨⟨_, _, hi, ?_⟩, .sale b, rfl⟩
      simp only [Store.commit_eq, hs, hf, hk, List.any_cons, List.any_nil, Bool.or_false,
        Bool.false_eq_true, if_false]
    | _ => exact absurd (fun _ _ => nofun) hn

theorem Happens.get?_of_not_touches (hh : Happens length t e t') (hn : ¬Touches r t e) :
    t'.store.seats.get? r = t.store.seats.get? r := by
  cases hh with
  | goes hv ha =>
    rename_i i v s' stage'
    change s'.seats.get? r = _
    rcases commits_or_data hv ha with ⟨hc, -⟩ | ⟨hseats, -⟩
    · exact (advance_elsewhere ha fun hr => hn ⟨i, v.order, rfl, hc, hr⟩).1
    · rw [hseats]
  | leaves => exact congrArg (SeatTable.get? · r) (seats_deserted _ _)
  | arrives | expires | clock | faults | nothing => rfl

theorem Happens.booked (hh : Happens length t e t') (hb : b ∈ t'.store.bookings)
    (hnew : b ∉ t.store.bookings) :
    ∃ i givenKey, e = .go i ∧ t.Commits i (.buy b.showId b.seatId b.userId givenKey) ∧
      t'.store.bookings = t.store.bookings ++ [b] := by
  cases hh with
  | goes hv ha =>
    rename_i i v s' stage'
    rcases commits_or_data hv ha with ⟨hc, -⟩ | ⟨-, hsame⟩
    · obtain ⟨order, stage⟩ := v
      obtain ⟨tx, gain, hi, -⟩ := id hc
      obtain ⟨-, rfl⟩ := Visit.mk.inj (Option.some.inj (hv.symm.trans hi))
      simp only at ha hb hc
      cases ha with
      | saleCommitted hf hg ha hs hbk hk =>
        rename_i a
        change b ∈ (t.store.committed tx).bookings at hb
        rw [Store.bookings_committed hs] at hb
        rcases List.mem_append.1 hb with hb | hb
        · exact absurd hb hnew
        · obtain rfl := List.mem_singleton.1 hb
          have hshow := congrArg Booking.showId hbk
          have hseat := congrArg Booking.seatId hbk
          have huser := congrArg Booking.userId hbk
          simp only at hshow hseat huser
          subst hshow hseat huser
          exact ⟨i, _, rfl, hc, Store.bookings_committed hs⟩
      | holdCommitted hf hg ha hs =>
        change b ∈ (t.store.committed tx).bookings at hb
        rw [Store.bookings_committed hs, List.append_nil] at hb
        exact absurd hb hnew
      | commitFailed | commitTaken => exact absurd hb hnew
    · exact absurd (hsame ▸ hb) hnew
  | leaves => exact absurd (bookings_deserted _ _ ▸ hb) hnew
  | arrives | expires | clock | faults | nothing => exact absurd hb hnew

end Traffic

end BoxOffice
