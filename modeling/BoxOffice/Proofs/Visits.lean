import BoxOffice.Proofs.TrafficEffects

set_option autoImplicit false

namespace BoxOffice

open Engine (Order Stage Outcome Advance)

namespace Engine

variable {length : Span} {s s' : Store} {now : Instant} {order : Order} {stage stage' : Stage}

theorem refuse_of_key {key : String} {e : BookingError} (hk : order.key = some key) :
    order.refuse e = if e = .keyTaken ∨ e = .notLocked then .lookAgain key e
      else .finished (.refused e) := by
  simp only [Order.refuse, hk]

theorem finished_of_rank (h : stage.rank = 0) : ∃ outcome, stage = .finished outcome := by
  cases stage with
  | finished outcome => exact ⟨outcome, rfl⟩
  | _ => cases h

theorem Advance.data (h : Advance length s now order stage s' stage')
    (hn : ∀ tx gain, stage ≠ .committing tx gain) :
    s'.seats = s.seats ∧ s'.bookings = s.bookings := by
  cases h with
  | granted hs hg =>
    rcases hs with rfl | rfl
    · exact ⟨rfl, rfl⟩
    · exact ⟨Store.seats_claim _ _ _, Store.bookings_claim _ _ _⟩
  | waits => exact ⟨Store.seats_claim _ _ _, Store.bookings_claim _ _ _⟩
  | commitFailed | commitTaken | holdCommitted | saleCommitted => exact absurd rfl (hn _ _)
  | _ => exact ⟨rfl, rfl⟩

theorem Advance.bookings (h : Advance length s now order stage s' stage') :
    ∃ more, s'.bookings = s.bookings ++ more ∧
      ∀ b ∈ more, b.seatId = order.seatId ∧ b.userId = order.userId ∧ b.key = order.key := by
  by_cases hn : ∀ tx gain, stage ≠ .committing tx gain
  · exact ⟨[], (h.data hn).2.trans (List.append_nil _).symm, nofun⟩
  · cases h with
    | commitFailed | commitTaken => exact ⟨[], (List.append_nil _).symm, nofun⟩
    | holdCommitted hf hg ha hst => exact ⟨[], Store.bookings_committed hst, nofun⟩
    | saleCommitted hf hg ha hst hb hk =>
      rename_i b
      refine ⟨[b], Store.bookings_committed hst, fun a hm => ?_⟩
      obtain rfl := List.mem_singleton.1 hm
      rw [hb]
      exact ⟨rfl, rfl, rfl⟩
    | _ => exact absurd (fun _ _ => nofun) hn

theorem Advance.finished_eq {outcome : Outcome}
    (h : Advance length s now order (.finished outcome) s' stage') :
    stage' = .finished outcome := by
  cases h
  rfl

def Stage.Reads (now : Instant) : Stage → Prop
  | .writing _ _ since | .committing _ (.hold since) => since = now
  | _ => True

theorem reads_refuse (order : Order) (e : BookingError) : (order.refuse e).Reads now := by
  unfold Order.refuse
  split
  · split <;> trivial
  · trivial

theorem reads_first (order : Order) : order.first.Reads now := by
  unfold Order.first
  split <;> trivial

theorem reads_expire (hr : stage.Reads now) : stage.expire.Reads now := by
  cases stage with
  | opening | fetching | withdrawing => trivial
  | _ => exact hr

theorem Advance.reads (h : Advance length s now order stage s' stage') (hr : stage.Reads now) :
    stage'.Reads now := by
  cases h with
  | admitted => rfl
  | heldWritten => exact hr
  | withdrawn | commitFailed | commitTaken | undone => exact reads_refuse _ _
  | _ => trivial

def Stage.Granted (stage : Stage) : Prop :=
  stage.isWaiting = false ∧ stage.rank ≤ 6

theorem granted_refuse (order : Order) (e : BookingError) : (order.refuse e).Granted := by
  refine ⟨?_, (rank_refuse_le order e).trans (by decide)⟩
  unfold Order.refuse
  split
  · split <;> rfl
  · rfl

theorem Advance.granted_next (h : Advance length s now order stage s' stage') (hg : stage.Granted) :
    stage'.Granted ∧ stage'.rank ≤ stage.rank - 1 := by
  obtain ⟨hw, hr⟩ := hg
  cases h with
  | found | foundAgain | unknownAgain | gaveUp | finished | holdCommitted | saleCommitted =>
    exact ⟨⟨rfl, Nat.zero_le _⟩, Nat.zero_le _⟩
  | unknown => exact absurd hr (by simp [Stage.rank])
  | begun | granted | missing | waits | withdrawn => cases hw
  | admitted | rejected | heldWritten | saleWritten | insertFailed | insertTaken | inserted =>
    exact ⟨⟨rfl, by simp [Stage.rank]⟩, by simp [Stage.rank]⟩
  | commitFailed | commitTaken | undone =>
    refine ⟨granted_refuse _ _, (rank_refuse_le _ _).trans ?_⟩
    simp [Stage.rank]

end Engine

namespace Traffic

variable {length : Span} {s : Store} {t : Traffic} {e : Event} {j : Nat} {order : Order}
variable {stage : Stage}

theorem Sound.stays_step (ht : t.Sound length) (hj : t.visits j = some ⟨order, stage⟩)
    (hw : stage.isWaiting = false) (he : e ≠ .go j) :
    (t.step length e).visits j = some ⟨order, stage⟩ := by
  rcases ht.visit (happens ht e) hj with h | ⟨hgo, -⟩ | ⟨hw', -⟩
  · exact h
  · exact absurd hgo he
  · rw [hw] at hw'
    cases hw'

theorem Sound.stays (ht : t.Sound length) (hj : t.visits j = some ⟨order, stage⟩)
    (hw : stage.isWaiting = false) {events : List Event} (hn : .go j ∉ events) :
    (t.run length events).visits j = some ⟨order, stage⟩ := by
  induction events generalizing t with
  | nil => exact hj
  | cons e events ih =>
    obtain ⟨he, hn⟩ := not_or.1 (mt List.mem_cons.2 hn)
    exact ih (ht.step e) (ht.stays_step hj hw (Ne.symm he)) hn

/-- What a visit's stage keeps, while each of its requests lowers the rank, it keeps along a run,
and the requests are counted. -/
theorem Sound.rank_run {P : Stage → Prop} {Q : Traffic → Event → Prop} (ht : t.Sound length)
    (hj : t.visits j = some ⟨order, stage⟩) (hP : P stage) {events : List Event}
    (hQ : Along length Q t events)
    (hstep : ∀ {t : Traffic} {e stage}, t.Sound length →
      t.visits j = some ⟨order, stage⟩ → P stage → Q t e →
      ∃ stage', (t.step length e).visits j = some ⟨order, stage'⟩ ∧ P stage' ∧
        stage'.rank ≤ stage.rank - [e].count (.go j)) :
    ∃ stage', (t.run length events).visits j = some ⟨order, stage'⟩ ∧ P stage' ∧
      stage'.rank ≤ stage.rank - events.count (.go j) := by
  induction events generalizing t stage with
  | nil => exact ⟨stage, hj, hP, Nat.le_refl _⟩
  | cons e events ih =>
    obtain ⟨stage₁, hj₁, hP₁, hr₁⟩ := hstep ht hj hP hQ.1
    obtain ⟨stage₂, hj₂, hP₂, hr₂⟩ := ih (ht.step e) hj₁ hP₁ hQ.2
    have hcount : (e :: events).count (.go j) = [e].count (.go j) + events.count (.go j) := by
      rw [List.count_cons, List.count_singleton, Nat.add_comm]
    exact ⟨stage₂, hj₂, hP₂, by omega⟩

theorem Sound.granted_step (ht : t.Sound length) (hj : t.visits j = some ⟨order, stage⟩)
    (hg : stage.Granted) (e : Event) :
    ∃ stage', (t.step length e).visits j = some ⟨order, stage'⟩ ∧ stage'.Granted ∧
      stage'.rank ≤ stage.rank - [e].count (.go j) := by
  by_cases he : e = .go j
  · subst e
    obtain ⟨s', stage', ha, hstep⟩ := ht.step_go hj
    obtain ⟨hg', hr⟩ := ha.granted_next hg
    rw [List.count_singleton_self, hstep]
    exact ⟨stage', Function.update_self _ _ _, hg', hr⟩
  · refine ⟨stage, ht.stays_step hj hg.1 he, hg, ?_⟩
    rw [List.count_singleton, beq_eq_false_iff_ne.2 he]
    exact Nat.le_refl _

theorem Sound.granted_run (ht : t.Sound length) (hj : t.visits j = some ⟨order, stage⟩)
    (hg : stage.Granted) (events : List Event) :
    ∃ stage', (t.run length events).visits j = some ⟨order, stage'⟩ ∧ stage'.Granted ∧
      stage'.rank ≤ stage.rank - events.count (.go j) := by
  have hany : Along length (fun _ _ => True) t events := along_of_forall fun _ _ => trivial
  exact ht.rank_run hj hg hany fun ht hj hg _ => ht.granted_step hj hg _

theorem Sound.finished_of_count (ht : t.Sound length) (hj : t.visits j = some ⟨order, stage⟩)
    (hg : stage.Granted) {events : List Event} (hn : stage.rank ≤ events.count (.go j)) :
    ∃ outcome, (t.run length events).visits j = some ⟨order, .finished outcome⟩ := by
  obtain ⟨stage', hj', hg', hr⟩ := ht.granted_run hj hg events
  obtain ⟨outcome, rfl⟩ := Engine.finished_of_rank (show stage'.rank = 0 by omega)
  exact ⟨outcome, hj'⟩

theorem visit_of_ofStore (hs : s.AtRest) {clock : Instant} {events : List Event} {i : Nat}
    {v : Visit} (hv : ((ofStore s clock).run length events).visits i = some v) :
    ∃ before after, events = before ++ .arrive v.order :: after ∧
      i = ((ofStore s clock).run length before).arrivals := by
  induction events using List.reverseRecOn generalizing v with
  | nil => cases hv
  | append_singleton events e ih =>
    have ht : ((ofStore s clock).run length events).Sound length :=
      (sound_ofStore hs clock).run events
    have older : ∀ {stage}, ((ofStore s clock).run length events).visits i =
        some ⟨v.order, stage⟩ → ∃ before after, events ++ [e] = before ++ .arrive v.order :: after ∧
          i = ((ofStore s clock).run length before).arrivals := by
      intro stage hi
      obtain ⟨before, after, he, hi⟩ := ih hi
      exact ⟨before, after ++ [e], by rw [he, List.append_assoc]; rfl, hi⟩
    rw [run_append] at hv
    -- Either the last event is the arrival, or it finds the visit in the traffic.
    rcases (happens ht e).visit_before hv with hv | ⟨rfl, hi, -⟩ | ⟨stage, s', -, hv, -⟩ |
      ⟨stage, -, hv, -⟩
    · exact older hv
    · exact ⟨events, [], rfl, hi⟩
    · exact older hv
    · exact older hv

/-- The buyer whose order a booking records has been told of it. -/
inductive HandedOut (t : Traffic) : Booking → Prop
  | intro {i showId r user givenKey id} (hi : t.visits i =
      some ⟨.buy showId r user givenKey, .finished (.done (.booked id false))⟩) :
      HandedOut t ⟨id, user, showId, r, (Order.buy showId r user givenKey).key⟩

theorem Sound.handedOut (ht : t.Sound length) (events : List Event) :
    ∃ new, (t.run length events).store.bookings = t.store.bookings ++ new ∧
      ∀ b ∈ new, (t.run length events).HandedOut b := by
  refine ht.run_induction (P := fun t' => ∃ new, t'.store.bookings = t.store.bookings ++ new ∧
    ∀ b ∈ new, t'.HandedOut b) ⟨[], (List.append_nil _).symm, nofun⟩ ?_ events
  rintro u e u' hu h ⟨new, hnew, hout⟩
  have keep : ∀ b ∈ new, u'.HandedOut b := by
    intro b hm
    obtain ⟨hi⟩ := hout b hm
    exact ⟨hu.visit_finished h hi⟩
  cases hu.effect h with
  | none hs hb hv | hold hi hg ha hs hb hv => exact ⟨new, hb.trans hnew, keep⟩
  | sale hi hg ha hn hk hs hb hv =>
    rename_i i showId r user givenKey tx b seat read
    have hi' : u'.visits i = some ⟨.buy showId r user givenKey,
        .finished (.done (.booked b.id false))⟩ := by
      rw [hv]
      exact Function.update_self _ _ _
    refine ⟨new ++ [b], by rw [hb, hnew, List.append_assoc], fun a hm => ?_⟩
    rcases List.mem_append.1 hm with hm | hm
    · exact keep a hm
    · obtain rfl := List.mem_singleton.1 hm
      rw [hn]
      exact .intro hi'

end Traffic

end BoxOffice
