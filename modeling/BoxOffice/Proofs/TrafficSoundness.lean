import BoxOffice.Proofs.Traffic

set_option autoImplicit false

namespace BoxOffice

open Engine (TxId Order Stage Gain Advance)
open Function (update)

namespace Traffic

variable {length : Span} {s : Store} {t t' : Traffic} {e : Event} {i j : Nat} {v w : Visit}

theorem of_update {f : Nat → Option Visit} {w : Option Visit} {u : Visit}
    (h : update f i w j = some u) : (j = i ∧ w = some u) ∨ (j ≠ i ∧ f j = some u) := by
  by_cases he : j = i
  · subst j
    rw [Function.update_self] at h
    exact Or.inl ⟨rfl, h⟩
  · rw [Function.update_of_ne he] at h
    exact Or.inr ⟨he, h⟩

theorem Sound.move (ht : t.Sound length) (hv : t.visits i = some v) {w : Option Visit}
    (hc : Store.ChangedBy v.stage.tx? t.store s)
    (hs : ∀ u, w = some u → Engine.Sound length s u.order u.stage)
    (htx : ∀ u tx, w = some u → u.stage.tx? = some tx →
      v.stage.tx? = some tx ∨ (tx = t.store.nextTx ∧ s.nextTx = tx + 1))
    (hcl : ∀ c ∈ s.claims, (c ∈ t.store.claims ∧ v.stage.tx? ≠ some c.tx) ∨
      ∃ u, w = some u ∧ u.stage.tx? = some c.tx ∧ c.seatId = u.order.seatId) :
    Sound length { t with store := s, visits := update t.visits i w } := by
  have apart : ∀ {j u u' tx}, j ≠ i → t.visits j = some u → w = some u' →
      u.stage.tx? = some tx → u'.stage.tx? ≠ some tx := by
    intro j u u' tx hji hj hw hu hu'
    rcases htx u' tx hw hu' with h | ⟨h, -⟩
    · exact hji (ht.tx_inj j i u v tx hj hv hu h)
    · exact Nat.ne_of_lt (ht.tx_lt j u tx hj hu) h
  refine ⟨?_, ?_, ?_, ?_, ?_⟩
  · intro j u hj
    rcases of_update hj with ⟨-, hw⟩ | ⟨hji, hj⟩
    · exact hs u hw
    · refine (ht.stage j u hj).changedBy hc fun tx hu => ⟨fun he => ?_, ht.tx_lt j u tx hj hu⟩
      exact hji (ht.tx_inj j i u v tx hj hv hu he.symm)
  · intro j u tx hj hu
    rcases of_update hj with ⟨-, hw⟩ | ⟨hji, hj⟩
    · rcases htx u tx hw hu with h | ⟨h, hn⟩
      · exact Nat.lt_of_lt_of_le (ht.tx_lt i v tx hv h) hc.nextTx
      · rw [h] at hn
        rw [h]
        exact Nat.lt_of_lt_of_eq (Nat.lt_succ_self _) hn.symm
    · exact Nat.lt_of_lt_of_le (ht.tx_lt j u tx hj hu) hc.nextTx
  · intro j k u u' tx hj hk hu hu'
    rcases of_update hj with ⟨hji, hw⟩ | ⟨hji, hj⟩
    · rcases of_update hk with ⟨hki, -⟩ | ⟨hki, hk⟩
      · exact hji.trans hki.symm
      · exact absurd hu (apart hki hk hw hu')
    · rcases of_update hk with ⟨-, hw⟩ | ⟨-, hk⟩
      · exact absurd hu' (apart hji hj hw hu)
      · exact ht.tx_inj j k u u' tx hj hk hu hu'
  · intro c hm
    rcases hcl c hm with ⟨hm, hne⟩ | ⟨u, hw, hu, hr⟩
    · obtain ⟨j, u, hj, hu, hr⟩ := ht.claim c hm
      have hji : j ≠ i := by
        rintro rfl
        obtain rfl := Option.some.inj (hv.symm.trans hj)
        exact hne hu
      exact ⟨j, u, (Function.update_of_ne hji _ _).trans hj, hu, hr⟩
    · exact ⟨i, u, (Function.update_self _ _ _).trans hw, hu, hr⟩
  · intro j u hj
    rcases of_update hj with ⟨rfl, -⟩ | ⟨-, hj⟩
    · exact ht.lt_arrivals j v hv
    · exact ht.lt_arrivals j u hj

theorem sound_first (order : Order) : Engine.Sound length s order order.first := by
  unfold Order.first
  cases hk : order.key with
  | none => exact .opening
  | some key => exact .lookUp hk

theorem tx?_first (order : Order) : order.first.tx? = none := by
  unfold Order.first
  split <;> rfl

theorem Sound.arrive (ht : t.Sound length) (order : Order) : (t.arrive order).Sound length := by
  refine ⟨?_, ?_, ?_, ?_, ?_⟩
  · intro j u hj
    rcases of_update hj with ⟨-, hw⟩ | ⟨-, hj⟩
    · cases hw
      exact sound_first order
    · exact ht.stage j u hj
  · intro j u tx hj hu
    rcases of_update hj with ⟨-, hw⟩ | ⟨-, hj⟩
    · cases hw
      rw [tx?_first] at hu
      cases hu
    · exact ht.tx_lt j u tx hj hu
  · intro j k u u' tx hj hk hu hu'
    rcases of_update hj with ⟨-, hw⟩ | ⟨-, hj⟩
    · cases hw
      rw [tx?_first] at hu
      cases hu
    · rcases of_update hk with ⟨-, hw⟩ | ⟨-, hk⟩
      · cases hw
        rw [tx?_first] at hu'
        cases hu'
      · exact ht.tx_inj j k u u' tx hj hk hu hu'
  · intro c hm
    obtain ⟨j, u, hj, hu, hr⟩ := ht.claim c hm
    have hne : j ≠ t.arrivals := Nat.ne_of_lt (ht.lt_arrivals j u hj)
    exact ⟨j, u, (Function.update_of_ne hne _ _).trans hj, hu, hr⟩
  · intro j u hj
    change j < t.arrivals + 1
    rcases of_update hj with ⟨rfl, -⟩ | ⟨-, hj⟩
    · omega
    · have := ht.lt_arrivals j u hj
      omega

theorem changedBy_deserted (s : Store) (stage : Stage) :
    Store.ChangedBy stage.tx? s (s.deserted stage) := by
  unfold Store.deserted
  cases stage.tx? with
  | none => exact .refl _ _
  | some tx => exact Store.changedBy_finish s tx

theorem mem_claims_deserted {stage : Stage} {c : Claim} (h : c ∈ (s.deserted stage).claims) :
    c ∈ s.claims ∧ stage.tx? ≠ some c.tx := by
  unfold Store.deserted at h
  cases ht : stage.tx? with
  | none =>
    rw [ht] at h
    exact ⟨h, nofun⟩
  | some tx =>
    rw [ht] at h
    obtain ⟨hm, hne⟩ := Store.mem_claims_finish.1 h
    exact ⟨hm, fun e => hne (Option.some.inj e).symm⟩

theorem Sound.go (ht : t.Sound length) (hv : t.visits i = some v) {s' : Store} {stage' : Stage}
    (ha : Advance length t.store t.clock v.order v.stage s' stage') :
    Sound length { t with store := s', visits := update t.visits i (some ⟨v.order, stage'⟩) } := by
  have hown : ∀ c ∈ t.store.claims, v.stage.tx? = some c.tx → c.seatId = v.order.seatId := by
    intro c hc hu
    obtain ⟨j, u, hj, hu', hr⟩ := ht.claim c hc
    obtain rfl := ht.tx_inj i j v u c.tx hv hj hu hu'
    obtain rfl := Option.some.inj (hv.symm.trans hj)
    exact hr
  refine ht.move hv ha.changedBy ?_ ?_ ?_
  · intro u hu
    cases hu
    exact ha.sound (ht.stage i v hv)
  · intro u tx hu htx
    cases hu
    rcases ha.tx? with h | h | ⟨h, hn⟩
    · rw [htx] at h
      cases h
    · exact Or.inl (h.symm.trans htx)
    · obtain rfl := Option.some.inj (htx.symm.trans h)
      exact Or.inr ⟨rfl, hn⟩
  · intro c hc
    rcases ha.claims hown hc with h | ⟨hu, hr⟩
    · exact Or.inl h
    · exact Or.inr ⟨_, rfl, hu, hr⟩

theorem Sound.expire (ht : t.Sound length) (hv : t.visits i = some v)
    (hw : v.stage.isWaiting = true) :
    Sound length { t with visits := update t.visits i (some ⟨v.order, v.stage.expire⟩) } := by
  have htx : v.stage.expire.tx? = v.stage.tx? := by
    cases hs : v.stage <;> simp_all [Stage.isWaiting, Stage.expire, Stage.tx?]
  refine ht.move hv (.refl _ _) ?_ ?_ ?_
  · intro u hu
    cases hu
    cases hs : v.stage with
    | opening => exact .finished
    | fetching | withdrawing => exact .givingUp
    | _ => simp [hs, Stage.isWaiting] at hw
  · intro u tx hu h
    cases hu
    exact Or.inl (htx.symm.trans h)
  · intro c hc
    obtain ⟨j, u, hj, hu, hr⟩ := ht.claim c hc
    by_cases he : v.stage.tx? = some c.tx
    · obtain rfl := ht.tx_inj i j v u c.tx hv hj he hu
      obtain rfl := Option.some.inj (hv.symm.trans hj)
      exact Or.inr ⟨_, rfl, htx.trans he, hr⟩
    · exact Or.inl ⟨hc, he⟩

theorem Sound.leave (ht : t.Sound length) (hv : t.visits i = some v) :
    Sound length
      { t with store := t.store.deserted v.stage, visits := update t.visits i none } := by
  refine ht.move hv (changedBy_deserted _ _) ?_ ?_ ?_
  · intro u hu
    cases hu
  · intro u tx hu
    cases hu
  · intro c hc
    exact Or.inl (mem_claims_deserted hc)

theorem Sound.step (ht : t.Sound length) (e : Event) : (t.step length e).Sound length := by
  have hh := happens ht e
  generalize t.step length e = t' at hh
  cases hh with
  | arrives order => exact ht.arrive order
  | goes hv ha => exact ht.go hv ha
  | expires hv hw => exact ht.expire hv hw
  | leaves hv hw => exact ht.leave hv
  | clock now => exact ⟨ht.stage, ht.tx_lt, ht.tx_inj, ht.claim, ht.lt_arrivals⟩
  | faults f =>
    refine ⟨fun i v hv => ?_, ht.tx_lt, ht.tx_inj, ht.claim, ht.lt_arrivals⟩
    exact (ht.stage i v hv).changedBy (.faults none _ f)
      fun tx hu => ⟨nofun, ht.tx_lt i v tx hv hu⟩
  | nothing => exact ht

theorem Sound.run (ht : t.Sound length) (events : List Event) :
    (t.run length events).Sound length := by
  induction events generalizing t with
  | nil => exact ht
  | cons e events ih => exact ih (ht.step e)

/-- An invariant of sound traffics that every event keeps holds after every run. -/
theorem Sound.run_induction {P : Traffic → Prop} (ht : t.Sound length) (h : P t)
    (hstep : ∀ {t : Traffic} {e t'}, t.Sound length → Happens length t e t' → P t → P t')
    (events : List Event) : P (t.run length events) := by
  induction events generalizing t with
  | nil => exact h
  | cons e events ih => exact ih (ht.step e) (hstep ht (happens ht e) h)

theorem along_append {Q : Traffic → Event → Prop} (es fs : List Event) :
    Along length Q t (es ++ fs) ↔ Along length Q t es ∧ Along length Q (t.run length es) fs := by
  induction es generalizing t with
  | nil => simp [Along]
  | cons e es ih => simp [Along, ih, and_assoc]

theorem along_of_forall {Q : Event → Prop} {events : List Event} (h : ∀ e ∈ events, Q e) :
    Along length (fun _ e => Q e) t events := by
  induction events generalizing t with
  | nil => trivial
  | cons e events ih =>
    exact ⟨h e List.mem_cons_self, ih fun e' hm => h e' (List.mem_cons_of_mem _ hm)⟩

theorem Sound.run_along {P : Traffic → Prop} {Q : Traffic → Event → Prop} (ht : t.Sound length)
    (h : P t) {events : List Event} (ha : Along length Q t events)
    (hstep : ∀ {t : Traffic} {e}, t.Sound length → Q t e → P t → P (t.step length e)) :
    P (t.run length events) := by
  induction events generalizing t with
  | nil => exact h
  | cons e events ih => exact ih (ht.step e) (hstep ht ha.1 h) ha.2

theorem along_of_readings {r : Int} {p : Instant → Prop} {events : List Event}
    (h : ∀ now ∈ t.readings length r events, p now) :
    Along length (fun t e => ∀ now, t.reading? r e = some now → p now) t events := by
  induction events generalizing t with
  | nil => trivial
  | cons e events ih =>
    refine ⟨fun now he => h now ?_, ih fun now hm => h now ?_⟩
    · rw [readings, he]
      exact List.mem_cons_self
    · exact List.mem_append_right _ hm

theorem Sound.step_go (ht : t.Sound length) (hv : t.visits i = some v) :
    ∃ s' stage', Advance length t.store t.clock v.order v.stage s' stage' ∧
      t.step length (.go i) =
        { t with store := s', visits := update t.visits i (some ⟨v.order, stage'⟩) } := by
  refine ⟨_, _, Engine.advance_of_sound (ht.stage i v hv), ?_⟩
  simp only [Traffic.step, Traffic.go, hv]

theorem Sound.visit (ht : t.Sound length) (h : Happens length t e t') (hj : t.visits j = some v) :
    t'.visits j = some v ∨
    (e = .go j ∧ ∃ s' stage', Advance length t.store t.clock v.order v.stage s' stage' ∧
      t' = { t with store := s', visits := update t.visits j (some ⟨v.order, stage'⟩) }) ∨
    (v.stage.isWaiting = true ∧
      ((e = .expire j ∧ t'.visits j = some ⟨v.order, v.stage.expire⟩) ∨
        (e = .leave j ∧ t'.visits j = none))) := by
  have other : ∀ {i} {w : Option Visit}, j ≠ i → update t.visits i w j = some v := by
    intro i w hne
    rw [Function.update_of_ne hne]
    exact hj
  cases h with
  | arrives order => exact Or.inl (other (Nat.ne_of_lt (ht.lt_arrivals j v hj)))
  | goes hv ha =>
    rename_i i u s' stage'
    by_cases hji : j = i
    · subst hji
      obtain rfl := Option.some.inj (hj.symm.trans hv)
      exact Or.inr (Or.inl ⟨rfl, s', stage', ha, rfl⟩)
    · exact Or.inl (other hji)
  | expires hv hw =>
    rename_i i u
    by_cases hji : j = i
    · subst hji
      obtain rfl := Option.some.inj (hj.symm.trans hv)
      exact Or.inr (Or.inr ⟨hw, Or.inl ⟨rfl, Function.update_self _ _ _⟩⟩)
    · exact Or.inl (other hji)
  | leaves hv hw =>
    rename_i i u
    by_cases hji : j = i
    · subst hji
      obtain rfl := Option.some.inj (hj.symm.trans hv)
      exact Or.inr (Or.inr ⟨hw, Or.inr ⟨rfl, Function.update_self _ _ _⟩⟩)
    · exact Or.inl (other hji)
  | clock | faults | nothing => exact Or.inl hj

theorem Happens.visit_before (h : Happens length t e t') (hj : t'.visits j = some w) :
    t.visits j = some w ∨
    (e = .arrive w.order ∧ j = t.arrivals ∧ w.stage = w.order.first) ∨
    (∃ stage s', e = .go j ∧ t.visits j = some ⟨w.order, stage⟩ ∧ t'.store = s' ∧
      Advance length t.store t.clock w.order stage s' w.stage) ∨
    ∃ stage, e = .expire j ∧ t.visits j = some ⟨w.order, stage⟩ ∧ stage.isWaiting = true ∧
      w.stage = stage.expire := by
  cases h with
  | arrives order =>
    rcases of_update hj with ⟨rfl, he⟩ | ⟨-, hj⟩
    · cases he
      exact Or.inr (Or.inl ⟨rfl, rfl, rfl⟩)
    · exact Or.inl hj
  | goes hv ha =>
    rcases of_update hj with ⟨rfl, he⟩ | ⟨-, hj⟩
    · cases he
      exact Or.inr (Or.inr (Or.inl ⟨_, _, rfl, hv, rfl, ha⟩))
    · exact Or.inl hj
  | expires hv hw =>
    rcases of_update hj with ⟨rfl, he⟩ | ⟨-, hj⟩
    · cases he
      exact Or.inr (Or.inr (Or.inr ⟨_, rfl, hv, hw, rfl⟩))
    · exact Or.inl hj
  | leaves hv hw =>
    rcases of_update hj with ⟨-, he⟩ | ⟨-, hj⟩
    · cases he
    · exact Or.inl hj
  | clock | faults | nothing => exact Or.inl hj

theorem Sound.visit_finished (ht : t.Sound length) (h : Happens length t e t') {order : Order}
    {outcome : Engine.Outcome} (hj : t.visits j = some ⟨order, .finished outcome⟩) :
    t'.visits j = some ⟨order, .finished outcome⟩ := by
  rcases ht.visit h hj with h | ⟨-, s', stage', ha, rfl⟩ | ⟨hw, -⟩
  · exact h
  · cases ha
    exact Function.update_self _ _ _
  · cases hw

theorem Sound.finished_run (ht : t.Sound length) {order : Order} {outcome : Engine.Outcome}
    (hi : t.visits i = some ⟨order, .finished outcome⟩) (events : List Event) :
    (t.run length events).visits i = some ⟨order, .finished outcome⟩ :=
  ht.run_induction (P := fun t => t.visits i = some ⟨order, .finished outcome⟩) hi
    (fun ht h hi => ht.visit_finished h hi) events

end Traffic

end BoxOffice
