import BoxOffice.Office.Task
import BoxOffice.Proofs.TrafficSoundness

set_option autoImplicit false

namespace BoxOffice

open Engine (TxId Order Stage Outcome)
open Function (update)

namespace Office

def reached : Except Stage Outcome → Stage
  | .ok outcome => .finished outcome
  | .error stage => stage

variable {o : Office} {t : Traffic} {i : Nat} {order : Order} {stage : Stage} {deadline : Nat}

theorem perform_of_memory (hk : o.keeping = .memory) (request : Engine.Request) :
    o.perform request = ({ o with store := (o.store.perform o.clock request).1 },
      (o.store.perform o.clock request).2) := by
  unfold perform
  rw [hk]

theorem eq_finished_of_answer {length : Span} {outcome : Outcome}
    (h : order.move length stage = .answer outcome) : stage = .finished outcome := by
  cases stage <;> cases h
  rfl

/-- The office and the traffic are at the same point, and this order is a visit. -/
structure Shows (o : Office) (t : Traffic) (i : Nat) (order : Order) (stage : Stage) : Prop where
  memory : o.keeping = .memory
  store : t.store = o.store
  clock : t.clock = o.clock
  visit : t.visits i = some ⟨order, stage⟩

theorem Shows.memory_perform (h : Shows o t i order stage) {request : Engine.Request} {o' : Office}
    {reply : Option request.Reply} (hp : o.perform request = (o', reply)) :
    o' = { o with store := o'.store } := by
  rw [perform_of_memory h.memory] at hp
  rw [← (Prod.mk.inj hp).1]

theorem Shows.go (h : Shows o t i order stage) {request : Engine.Request}
    {next : request.Reply → Stage}
    (hm : order.move o.rules.holdLength stage = .ask request next) :
    Shows (o.perform request).1 (t.step o.rules.holdLength (.go i)) i order
      (((o.perform request).2.map next).getD stage) ∧
    t.step o.rules.holdLength (.go i) =
      { t with
        store := (o.perform request).1.store
        visits := update t.visits i (some ⟨order, ((o.perform request).2.map next).getD stage⟩) } := by
  have hstep : t.step o.rules.holdLength (.go i) =
      { t with
        store := (o.perform request).1.store
        visits := update t.visits i
          (some ⟨order, ((o.perform request).2.map next).getD stage⟩) } := by
    rw [perform_of_memory h.memory]
    simp only [Traffic.step, Traffic.go, h.visit, Order.advance, hm, h.store, h.clock]
    cases hp : o.store.perform o.clock request with
    | mk s reply => cases reply <;> rfl
  refine ⟨?_, hstep⟩
  rw [hstep, perform_of_memory h.memory]
  exact ⟨h.memory, rfl, h.clock, Function.update_self _ _ _⟩

theorem Shows.expire (h : Shows o t i order stage) (hw : stage.isWaiting = true) :
    Shows o (t.step o.rules.holdLength (.expire i)) i order stage.expire ∧
    t.step o.rules.holdLength (.expire i) =
      { t with store := o.store, visits := update t.visits i (some ⟨order, stage.expire⟩) } := by
  have hstep : t.step o.rules.holdLength (.expire i) =
      { t with store := o.store, visits := update t.visits i (some ⟨order, stage.expire⟩) } := by
    simp only [Traffic.step, Traffic.expire, h.visit, if_pos hw, h.store]
  refine ⟨?_, hstep⟩
  rw [hstep]
  exact ⟨h.memory, rfl, h.clock, Function.update_self _ _ _⟩

def ServedBy (o : Office) (t : Traffic) (i : Nat) (order : Order)
    (served : Office × Except Stage Outcome) (events : List Event) : Prop :=
  (∀ e ∈ events, e = .go i ∨ e = .expire i) ∧
    served.1 = { o with store := served.1.store } ∧
    t.run o.rules.holdLength events =
      { t with
        store := served.1.store
        visits := update t.visits i (some ⟨order, reached served.2⟩) }

theorem ServedBy.cons {o' : Office} {t' : Traffic} {e : Event} {w : Option Visit}
    {served : Office × Except Stage Outcome} {events : List Event}
    (h : ServedBy o' t' i order served events) (he : e = .go i ∨ e = .expire i)
    (ho : o' = { o with store := o'.store }) (ht : t.step o.rules.holdLength e = t')
    (ht' : t' = { t with store := o'.store, visits := update t.visits i w }) :
    ServedBy o t i order served (e :: events) := by
  obtain ⟨hevents, hserved, hrun⟩ := h
  refine ⟨?_, ?_, ?_⟩
  · intro f hf
    rcases List.mem_cons.1 hf with rfl | hf
    · exact he
    · exact hevents f hf
  · rw [hserved, ho]
  · have hrules : o'.rules = o.rules := by rw [ho]
    rw [Traffic.run_cons, ht, ← hrules, hrun, ht']
    simp only [Function.update_idem]

theorem serve_is_run (o : Office) (deadline : Nat) (order : Order) (stage : Stage) :
    ∀ {t : Traffic} {i : Nat}, Shows o t i order stage →
      ∃ events, ServedBy o t i order (o.serve deadline order stage) events := by
  fun_induction Office.serve o deadline order stage with
  | case1 o stage outcome hm =>
    intro t i h
    refine ⟨[], (fun _ h => nomatch h), rfl, ?_⟩
    rw [Traffic.run_nil, reached, ← eq_finished_of_answer hm, ← h.visit, Function.update_eq_self,
      ← h.store]
  | case2 o stage request next hm o' reply hp ih =>
    intro t i h
    obtain ⟨h', hstep⟩ := h.go hm
    rw [hp] at h' hstep
    obtain ⟨events, hev⟩ := ih h'
    have ho : o' = { o with store := o'.store } := h.memory_perform hp
    exact ⟨.go i :: events, hev.cons (Or.inl rfl) ho rfl hstep⟩
  | case3 o stage request next hm o' hp hw ih =>
    intro t i h
    obtain ⟨h', hstep⟩ := h.go hm
    rw [hp] at h' hstep
    have ho : o' = { o with store := o'.store } := h.memory_perform hp
    obtain ⟨h'', hexpire⟩ := h'.expire hw.1
    obtain ⟨events, hev⟩ := ih h''
    have hev' := hev.cons (Or.inr rfl) rfl rfl hexpire
    exact ⟨.go i :: .expire i :: events, hev'.cons (Or.inl rfl) ho rfl hstep⟩
  | case4 o stage request next hm o' hp hw =>
    intro t i h
    obtain ⟨h', hstep⟩ := h.go hm
    rw [hp] at h' hstep
    have ho : o' = { o with store := o'.store } := h.memory_perform hp
    refine ⟨[.go i], ?_, ho, hstep⟩
    intro e he
    exact Or.inl (List.mem_singleton.1 he)

theorem withdraw_is_leave {length : Span} {limit : Option Nat} (h : Shows o t i order stage)
    (hw : stage.isWaiting = true) :
    o.withdraw ⟨order, stage, deadline, limit⟩ =
        { o with store := (t.step length (.leave i)).store } ∧
      t.step length (.leave i) =
        { t with
          store := (t.step length (.leave i)).store
          visits := update t.visits i none } := by
  have hleave : t.step length (.leave i) =
      { t with store := t.store.deserted stage, visits := update t.visits i none } := by
    simp only [Traffic.step, Traffic.leave, h.visit, if_pos hw]
  rw [hleave, h.store]
  refine ⟨?_, rfl⟩
  unfold withdraw Store.deserted
  simp only
  cases stage.tx? with
  | none => rfl
  | some tx =>
    simp only
    rw [perform_of_memory h.memory]
    rfl

end Office

end BoxOffice
