import BoxOffice.Proofs.TrafficEffects

set_option autoImplicit false

namespace BoxOffice

open Engine (TxId Order Stage Advance)
open Function (update)

namespace Engine

variable {length : Span} {s s' : Store} {now : Instant} {order : Order} {stage stage' : Stage}
variable {tx : TxId} {r : Int} {seat : Seat}

theorem tx?_expire (stage : Stage) : stage.expire.tx? = stage.tx? := by
  cases stage <;> rfl

theorem grips_claim (hg : s.Grips tx r seat) (a : TxId) (q : Int) : (s.claim a q).Grips tx r seat :=
  ⟨hg.holds.claim a q, by rw [Store.seats_claim]; exact hg.get?⟩

theorem Advance.grips (h : Advance length s now order stage s' stage')
    (htx' : stage'.tx? = some tx) (hg : s.Grips tx r seat) : s'.Grips tx r seat := by
  have ended : ∀ {e : BookingError}, (order.refuse e).tx? ≠ some tx := by
    intro e
    rw [tx?_refuse]
    nofun
  cases h with
  | granted hs =>
    rcases hs with rfl | rfl
    · exact hg
    · exact grips_claim hg _ _
  | waits => exact grips_claim hg _ _
  | withdrawn | commitFailed | commitTaken | undone => exact absurd htx' ended
  | found | unknown | gaveUp | holdCommitted | saleCommitted | foundAgain | unknownAgain
  | finished => cases htx'
  | begun | missing | admitted | rejected | heldWritten | saleWritten | insertFailed | insertTaken
  | inserted => exact ⟨hg.holds, hg.get?⟩

end Engine

namespace Traffic

variable {length : Span} {t t' : Traffic} {e : Event} {i : Nat} {v w : Visit}
variable {tx : TxId} {r : Int} {seat : Seat}

structure Over (tx : TxId) (t : Traffic) : Prop where
  begun : tx < t.store.nextTx
  unowned : ∀ i v, t.visits i = some v → v.stage.tx? ≠ some tx

theorem Over.not_claimed (h : t.Over tx) (ht : t.Sound length) :
    ∀ c ∈ t.store.claims, c.tx ≠ tx := by
  rintro c hc rfl
  obtain ⟨i, v, hv, htx, -⟩ := ht.claim c hc
  exact h.unowned i v hv htx

theorem nextTx_deserted (s : Store) (stage : Stage) : (s.deserted stage).nextTx = s.nextTx := by
  unfold Store.deserted
  split <;> rfl

theorem Happens.nextTx_le (h : Happens length t e t') : t.store.nextTx ≤ t'.store.nextTx := by
  cases h with
  | goes hv ha => exact ha.changedBy.nextTx
  | leaves hv hw => exact Nat.le_of_eq (nextTx_deserted _ _).symm
  | arrives | expires | clock | faults | nothing => exact Nat.le_refl _

/-- A visit owns the transaction that is open in its stage. -/
def Owns (t : Traffic) (i : Nat) (tx : TxId) : Prop :=
  ∃ v, t.visits i = some v ∧ v.stage.tx? = some tx

theorem Sound.owns_eq (ht : t.Sound length) {j : Nat} (hi : t.Owns i tx) (hj : t.Owns j tx) :
    i = j := by
  obtain ⟨v, hv, hvtx⟩ := hi
  obtain ⟨w, hw, hwtx⟩ := hj
  exact ht.tx_inj i j v w tx hv hw hvtx hwtx

theorem Sound.lt_of_owns (ht : t.Sound length) (hi : t.Owns i tx) : tx < t.store.nextTx := by
  obtain ⟨v, hv, hvtx⟩ := hi
  exact ht.tx_lt i v tx hv hvtx

theorem Owns.before (h : t'.Owns i tx) (hh : Happens length t e t') (htx : tx < t.store.nextTx) :
    t.Owns i tx := by
  obtain ⟨v, hv, hvtx⟩ := h
  rcases hh.visit_before hv with hv | ⟨-, -, hs⟩ | ⟨stage, s', -, hv, -, ha⟩ | ⟨stage, -, hv, -, hs⟩
  · exact ⟨v, hv, hvtx⟩
  · rw [hs, tx?_first] at hvtx
    cases hvtx
  · rcases ha.tx? with hnone | hsame | ⟨hnew, -⟩
    · rw [hnone] at hvtx
      cases hvtx
    · exact ⟨_, hv, hsame.symm.trans hvtx⟩
    · rw [Option.some.inj (hvtx.symm.trans hnew)] at htx
      exact absurd htx (Nat.lt_irrefl _)
  · rw [hs, Engine.tx?_expire] at hvtx
    exact ⟨_, hv, hvtx⟩

theorem Over.step (h : t.Over tx) (hh : Happens length t e t') : t'.Over tx where
  begun := Nat.lt_of_lt_of_le h.begun hh.nextTx_le
  unowned i v hv htx := by
    obtain ⟨w, hw, hwtx⟩ := Owns.before ⟨v, hv, htx⟩ hh h.begun
    exact h.unowned i w hw hwtx

theorem Owns.over (h : t.Owns i tx) (ht : t.Sound length) (hh : Happens length t e t')
    (hn : ¬t'.Owns i tx) : t'.Over tx where
  begun := Nat.lt_of_lt_of_le (ht.lt_of_owns h) hh.nextTx_le
  unowned j v hv htx := by
    have hj : t'.Owns j tx := ⟨v, hv, htx⟩
    obtain rfl := ht.owns_eq (hj.before hh (ht.lt_of_owns h)) h
    exact hn hj

theorem Owns.grips (h : t.Owns i tx) (ht : t.Sound length) (hh : Happens length t e t')
    (h' : t'.Owns i tx) (hg : t.store.Grips tx r seat) : t'.store.Grips tx r seat := by
  have other : ∀ {j w s'}, t.visits j = some w → j ≠ i → Store.ChangedBy w.stage.tx? t.store s' →
      s'.Grips tx r seat := by
    intro j w s' hw hji hc
    have hne : some tx ≠ w.stage.tx? := fun he => hji (ht.owns_eq ⟨w, hw, he.symm⟩ h)
    exact ⟨hc.holds _ _ hne hg.holds, (hc.seat _ _ hne hg.holds).trans hg.get?⟩
  cases hh with
  | arrives | expires | clock | faults | nothing => exact ⟨hg.holds, hg.get?⟩
  | goes hv ha =>
    rename_i j w s' stage'
    by_cases hji : j = i
    · subst hji
      obtain ⟨w', hw', htx'⟩ := h'
      rcases of_update hw' with ⟨-, he⟩ | ⟨hne, -⟩
      · cases he
        exact ha.grips htx' hg
      · exact absurd rfl hne
    · exact other hv hji ha.changedBy
  | leaves hv hw =>
    rename_i j w
    by_cases hji : j = i
    · subst hji
      obtain ⟨w', hw', -⟩ := h'
      rcases of_update hw' with ⟨-, he⟩ | ⟨hne, -⟩
      · cases he
      · exact absurd rfl hne
    · exact other hv hji (changedBy_deserted _ _)

theorem Owns.run (h : t.Owns i tx) (ht : t.Sound length) (events : List Event) :
    ((t.run length events).Owns i tx ∧
        ∀ r seat, t.store.Grips tx r seat → (t.run length events).store.Grips tx r seat) ∨
      (t.run length events).Over tx := by
  refine ht.run_induction (P := fun t' => (t'.Owns i tx ∧
    ∀ r seat, t.store.Grips tx r seat → t'.store.Grips tx r seat) ∨ t'.Over tx)
    (Or.inl ⟨h, fun _ _ => id⟩) ?_ events
  intro u e u' hu hh hP
  rcases hP with ⟨h, hg⟩ | hover
  · by_cases h' : u'.Owns i tx
    · exact Or.inl ⟨h', fun r seat hs => h.grips hu hh h' (hg r seat hs)⟩
    · exact Or.inr (h.over hu hh h')
  · exact Or.inr (hover.step hh)

end Traffic

end BoxOffice
