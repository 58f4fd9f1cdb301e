import BoxOffice.Proofs.TrafficSoundness

set_option autoImplicit false

namespace BoxOffice

open Engine (TxId Order Stage Outcome Advance)
open Function (update)

namespace Store

theorem self_mem_claims_claim (s : Store) (a : TxId) (r : Int) :
    ⟨r, a⟩ ∈ (s.claim a r).claims := by
  unfold Store.claim
  split
  · assumption
  · exact List.mem_append_right _ (List.mem_singleton.2 rfl)

theorem holds_claim_of_alone {s : Store} {a : TxId} {r : Int}
    (h : ∀ c ∈ s.claims, c.seatId = r → c.tx = a) :
    (s.claim a r).Holds a r := by
  obtain ⟨b, hb⟩ := exists_holds_of_mem_claims (self_mem_claims_claim s a r)
  rcases mem_claims_claim hb.mem_claims with hc | hc
  · obtain rfl : b = a := h _ hc rfl
    exact hb
  · obtain rfl : b = a := congrArg Claim.tx hc
    exact hb

end Store

namespace Engine

variable {length : Span} {s s' : Store} {now : Instant} {order : Order} {stage stage' : Stage}

theorem Advance.still (h : Advance length s now order stage s' stage') (hst : stage' = stage)
    (hs : s' = s) :
    (∃ outcome, stage = .finished outcome) ∨
      ∃ tx, stage = .fetching tx ∧ s.claim tx order.seatId = s ∧ ¬s.Holds tx order.seatId := by
  have hrefuse := rank_refuse_le order
  have hrank := congrArg Stage.rank hst
  cases h with
  | waits hw hn =>
    rw [hs] at hw
    exact Or.inr ⟨_, rfl, hs, hw⟩
  | finished => exact Or.inl ⟨_, rfl⟩
  | withdrawn | commitFailed | commitTaken | undone =>
    exact absurd hrank (Nat.ne_of_lt (Nat.lt_of_le_of_lt (hrefuse _) (by simp [Stage.rank])))
  | _ => cases hst

end Engine

namespace Traffic

variable {length : Span} {t : Traffic} {i : Nat} {v : Visit} {r : Int}

theorem Sound.still (ht : t.Sound length) (hv : t.visits i = some v)
    (hst : t.step length (.go i) = t) :
    (∃ outcome, v.stage = .finished outcome) ∨
      ∃ tx, v.stage = .fetching tx ∧ t.store.claim tx v.order.seatId = t.store ∧
        ¬t.store.Holds tx v.order.seatId := by
  obtain ⟨s', stage', ha, hstep⟩ := ht.step_go hv
  rw [hst] at hstep
  have hs : t.store = s' := congrArg Traffic.store hstep
  have hvisit : t.visits i = some ⟨v.order, stage'⟩ := by
    have := congrFun (congrArg Traffic.visits hstep) i
    rw [this]
    exact Function.update_self _ _ _
  have hstage : v.stage = stage' :=
    congrArg Visit.stage (Option.some.inj (hv.symm.trans hvisit))
  exact ha.still hstage.symm hs.symm

/-- When no order for a seat can go on, every order for it has been answered. -/
theorem Sound.finished_of_still (ht : t.Sound length)
    (hst : ∀ i v, t.visits i = some v → v.order.seatId = r → t.step length (.go i) = t)
    (hv : t.visits i = some v) (hr : v.order.seatId = r) :
    ∃ outcome, v.stage = .finished outcome := by
  rcases ht.still hv (hst i v hv hr) with h | ⟨tx, -, hclaim, -⟩
  · exact h
  · have hmem := Store.self_mem_claims_claim t.store tx r
    rw [hr] at hclaim
    rw [hclaim] at hmem
    obtain ⟨b, hb⟩ := Store.exists_holds_of_mem_claims hmem
    obtain ⟨k, w, hw, htx, hseat⟩ := ht.claim _ hb.mem_claims
    rcases ht.still hw (hst k w hw hseat.symm) with ⟨outcome, hf⟩ | ⟨tx', hf, -, hno⟩
    · rw [hf] at htx
      cases htx
    · rw [hf] at htx
      cases htx
      rw [← hseat] at hno
      exact absurd hb hno

theorem step_go_of_rank_eq_zero (hv : t.visits i = some v) (h : v.stage.rank = 0) :
    t.step length (.go i) = t := by
  obtain ⟨order, stage⟩ := v
  cases stage with
  | finished outcome =>
    simp only [Traffic.step, Traffic.go, hv, Order.advance, Order.move]
    rw [← hv, Function.update_eq_self]
  | _ => cases h

theorem Sound.forall_visits (ht : t.Sound length) {P : Visit → Prop}
    (h : ∀ i < t.arrivals, ∀ v ∈ t.visits i, P v) : ∀ i v, t.visits i = some v → P v :=
  fun i v hv => h i (ht.lt_arrivals i v hv) v hv

end Traffic

end BoxOffice
