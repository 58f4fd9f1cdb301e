import BoxOffice.Proofs.OrderSteps

set_option autoImplicit false

namespace BoxOffice

open Engine (TxId Order Stage Gain)

namespace Engine

variable {length : Span} {s s' : Store} {now : Instant} {order : Order} {stage stage' : Stage}

theorem Advance.changedBy (h : Advance length s now order stage s' stage') :
    Store.ChangedBy stage.tx? s s' := by
  have committed : ∀ {tx r seat state bookings}, s.Grips tx r seat →
      s.tx tx = ⟨tx, SeatTable.empty.put { seat with state }, bookings⟩ →
      Store.ChangedBy (some tx) s (s.committed tx) := by
    intro tx r seat state bookings hg hs
    refine Store.changedBy_committed fun row hrow => ?_
    rw [hs] at hrow
    obtain rfl := List.mem_singleton.1 hrow
    change s.Holds tx seat.id
    rw [SeatTable.id_of_get? hg.get?]
    exact hg.holds
  cases h with
  | found | unknown | missing | admitted | rejected | insertFailed | insertTaken | foundAgain
  | unknownAgain | finished => exact .refl _ _
  | begun => exact Store.changedBy_begin s
  | granted ht hg =>
    rcases ht with rfl | rfl
    · exact .refl _ _
    · exact Store.changedBy_claim _ _ _
  | waits => exact Store.changedBy_claim _ _ _
  | heldWritten | saleWritten => exact Store.changedBy_setTx s s.lastBooking _ rfl
  | inserted => exact Store.changedBy_setTx s (s.lastBooking + 1) _ rfl
  | withdrawn | commitFailed | commitTaken | undone | gaveUp => exact Store.changedBy_finish _ _
  | holdCommitted hf hg ha hs => exact committed hg hs
  | saleCommitted hf hg ha hs => exact committed hg hs

theorem Order.KeyBooked.mono (h : order.KeyBooked s) (hb : s.bookings <+: s'.bookings) :
    order.KeyBooked s' := by
  obtain ⟨k, hk, b, hm, hu⟩ := h
  exact ⟨k, hk, b, hb.subset hm, hu⟩

theorem Sound.changedBy {a : Option TxId} (h : Sound length s order stage)
    (hc : Store.ChangedBy a s s')
    (ha : ∀ tx, stage.tx? = some tx → some tx ≠ a ∧ tx < s.nextTx) :
    Sound length s' order stage := by
  have grips : ∀ {tx r seat}, some tx ≠ a → s.Grips tx r seat → s'.Grips tx r seat :=
    fun hne hg => ⟨hc.holds _ _ hne hg.holds, (hc.seat _ _ hne hg.holds).trans hg.get?⟩
  cases h with
  | lookUp hk => exact .lookUp hk
  | opening => exact .opening
  | fetching hb =>
    obtain ⟨hne, hlt⟩ := ha _ rfl
    exact .fetching ((hc.tx _ hlt hne).trans hb)
  | withdrawing => exact .withdrawing
  | deciding hb hg =>
    obtain ⟨hne, hlt⟩ := ha _ rfl
    exact .deciding ((hc.tx _ hlt hne).trans hb) (grips hne hg)
  | writing hb hg hadm =>
    obtain ⟨hne, hlt⟩ := ha _ rfl
    exact .writing ((hc.tx _ hlt hne).trans hb) (grips hne hg) hadm
  | recording hg hadm hs =>
    obtain ⟨hne, hlt⟩ := ha _ rfl
    exact .recording (grips hne hg) hadm ((hc.tx _ hlt hne).trans hs)
  | holding hg hadm hs =>
    obtain ⟨hne, hlt⟩ := ha _ rfl
    exact .holding (grips hne hg) hadm ((hc.tx _ hlt hne).trans hs)
  | selling hg hadm hs =>
    obtain ⟨hne, hlt⟩ := ha _ rfl
    exact .selling (grips hne hg) hadm ((hc.tx _ hlt hne).trans hs)
  | undoing he => exact .undoing fun e => (he e).mono hc.bookings
  | givingUp => exact .givingUp
  | lookAgain hk he => exact .lookAgain hk fun e => (he e).mono hc.bookings
  | finished => exact .finished

theorem sound_refuse {e : BookingError} (he : e = .keyTaken → order.KeyBooked s) :
    Sound length s order (order.refuse e) := by
  unfold Order.refuse
  cases hk : order.key with
  | none => exact .finished
  | some k =>
    simp only
    split
    · exact .lookAgain hk he
    · exact .finished

theorem Advance.sound (h : Advance length s now order stage s' stage')
    (hs : Sound length s order stage) : Sound length s' order stage' := by
  cases h with
  | found | foundAgain | unknownAgain | gaveUp | holdCommitted | saleCommitted | finished =>
    exact .finished
  | unknown => exact .opening
  | begun => exact .fetching (by rw [Store.tx_begin, if_pos rfl])
  | granted ht hg =>
    cases hs with
    | fetching hb =>
      refine .deciding ?_ hg
      rcases ht with rfl | rfl
      · exact hb
      · rw [Store.tx_claim]
        exact hb
  | missing => exact .withdrawing
  | waits =>
    cases hs with
    | fetching hb => exact .fetching ((Store.tx_claim _ _ _ _).trans hb)
  | withdrawn =>
    cases hs with
    | withdrawing => exact sound_refuse fun e => by cases e
  | admitted hr ha =>
    cases hs with
    | deciding hb hg => exact .writing hb hg ha
  | rejected ha =>
    refine .undoing fun e => ?_
    subst e
    cases order with
    | hold => rcases admits_hold_error ha with ⟨h, -⟩ | ⟨h, -⟩ <;> cases h
    | buy => rcases admits_buy_error ha with h | h | h | h <;> cases h
  | heldWritten hg ha =>
    exact .holding ⟨hg.holds, hg.get?⟩ ha (by rw [Store.tx_setTx, if_pos rfl])
  | saleWritten hg ha =>
    exact .recording ⟨hg.holds, hg.get?⟩ ha (by rw [Store.tx_setTx, if_pos rfl])
  | insertFailed => exact .undoing fun e => by cases e
  | insertTaken hk =>
    cases hs with
    | recording =>
      exact .undoing fun _ => (Store.keyTaken_eq_true_iff _ _ _).1 hk
  | inserted hf hk hs' =>
    cases hs with
    | recording hg ha hst =>
      rw [hs'] at hst
      obtain ⟨-, rfl, -⟩ := Tx.mk.inj hst
      exact .selling ⟨hg.holds, hg.get?⟩ ha (by rw [Store.tx_setTx, if_pos rfl]; rfl)
  | commitFailed => exact sound_refuse fun e => by cases e
  | commitTaken hk =>
    cases hs with
    | selling hg ha hs =>
      exact sound_refuse fun _ => (Store.keyTaken_eq_true_iff _ _ _).1 hk
  | undone =>
    cases hs with
    | undoing he => exact sound_refuse he

theorem tx?_refuse (order : Order) (e : BookingError) : (order.refuse e).tx? = none := by
  unfold Order.refuse
  split
  · split <;> rfl
  · rfl

theorem Advance.tx? (h : Advance length s now order stage s' stage') :
    stage'.tx? = none ∨ stage'.tx? = stage.tx? ∨
      (stage'.tx? = some s.nextTx ∧ s'.nextTx = s.nextTx + 1) := by
  cases h with
  | found | unknown | gaveUp | holdCommitted | saleCommitted | foundAgain | unknownAgain
  | finished => exact Or.inl rfl
  | withdrawn | commitFailed | commitTaken | undone => exact Or.inl (tx?_refuse _ _)
  | begun => exact Or.inr (Or.inr ⟨rfl, rfl⟩)
  | granted | missing | waits | admitted | rejected | heldWritten | saleWritten | insertFailed
  | insertTaken | inserted => exact Or.inr (Or.inl rfl)

theorem Advance.claims (h : Advance length s now order stage s' stage')
    (hown : ∀ c ∈ s.claims, stage.tx? = some c.tx → c.seatId = order.seatId)
    {c : Claim} (hc : c ∈ s'.claims) :
    (c ∈ s.claims ∧ stage.tx? ≠ some c.tx) ∨
      (stage'.tx? = some c.tx ∧ c.seatId = order.seatId) := by
  have same : c ∈ s.claims → stage'.tx? = stage.tx? →
      (c ∈ s.claims ∧ stage.tx? ≠ some c.tx) ∨
        (stage'.tx? = some c.tx ∧ c.seatId = order.seatId) := by
    intro hm ht
    by_cases he : stage.tx? = some c.tx
    · exact Or.inr ⟨ht.trans he, hown c hm he⟩
    · exact Or.inl ⟨hm, he⟩
  have ended : ∀ {tx}, stage.tx? = some tx → c ∈ (s.finish tx).claims →
      c ∈ s.claims ∧ stage.tx? ≠ some c.tx := by
    intro tx ht hm
    obtain ⟨hm, hne⟩ := Store.mem_claims_finish.1 hm
    exact ⟨hm, fun he => hne (Option.some.inj (he.symm.trans ht))⟩
  have queued : ∀ {tx}, stage.tx? = some tx → stage'.tx? = some tx →
      c ∈ (s.claim tx order.seatId).claims → (c ∈ s.claims ∧ stage.tx? ≠ some c.tx) ∨
        (stage'.tx? = some c.tx ∧ c.seatId = order.seatId) := by
    intro tx ht ht' hm
    rcases Store.mem_claims_claim hm with hm | rfl
    · exact same hm (ht'.trans ht.symm)
    · exact Or.inr ⟨ht', rfl⟩
  cases h with
  | found | unknown | missing | admitted | rejected | insertFailed | insertTaken | foundAgain
  | unknownAgain | finished | heldWritten | saleWritten | inserted => exact same hc rfl
  | begun => exact Or.inl ⟨hc, nofun⟩
  | granted ht hg =>
    rcases ht with rfl | rfl
    · exact same hc rfl
    · exact queued rfl rfl hc
  | waits => exact queued rfl rfl hc
  | withdrawn | commitFailed | commitTaken | undone | gaveUp | holdCommitted | saleCommitted =>
    exact Or.inl (ended rfl hc)

end Engine

end BoxOffice
