import BoxOffice.Proofs.BoundedWait
import BoxOffice.Proofs.Calls

set_option autoImplicit false

namespace BoxOffice

open Engine (TxId Request Order Stage Outcome Keeper Account)

def Engine.Request.unheard : (request : Request) → request.Reply
  | now => .epoch
  | find _ _ => .ok none
  | begin => .ok 0
  | fetch _ _ | insert _ _ => .error .notLocked
  | update _ _ _ | commit _ | rollback _ => .ok ()
  | discard _ => ()

theorem Store.fetch_again {s s' : Store} {tx : TxId} {r : Int} (h : s.fetch tx r = (s', none)) :
    s'.fetch tx r = (s', none) := by
  simp only [Store.fetch] at h
  split_ifs at h with hheld hrow hgranted
  · cases (Prod.mk.inj h).2
  · cases (Prod.mk.inj h).2
  · cases (Prod.mk.inj h).2
  · obtain ⟨rfl, -⟩ := Prod.mk.inj h
    simp only [Store.fetch, Store.claim_claim, if_neg hgranted, Store.seats_claim, if_neg hrow]

namespace Office

variable {o o' : Office} {order : Order} {stage : Stage} {request : Request} {limit : Nat}

theorem elapsed_perform (o : Office) (request : Request) :
    (o.perform request).1.elapsed = o.elapsed := by
  unfold perform
  split <;> rfl

theorem perform_eq_none (h : o.perform request = (o', none)) :
    (∃ tx r, request = .fetch tx r) ∧
      ∀ late : Office, late.keeping = o'.keeping → late.store = o'.store →
        late.perform request = (late, none) := by
  cases hk : o.keeping with
  | database =>
    simp only [perform, hk] at h
    cases (Prod.mk.inj h).2
  | memory =>
    rw [perform_of_memory hk] at h
    obtain ⟨ho, hnone⟩ := Prod.mk.inj h
    obtain ⟨tx, r, rfl⟩ := Store.perform_eq_none hnone
    refine ⟨⟨tx, r, rfl⟩, fun late hkeeping hstore => ?_⟩
    have hmemory : late.keeping = .memory := by rw [hkeeping, ← ho, hk]
    have hagain : late.store.fetch tx r = (late.store, none) := by
      rw [hstore, ← ho]
      exact Store.fetch_again (Prod.ext rfl hnone)
    rw [perform_of_memory hmemory]
    simp only [Store.perform, hagain]

theorem exists_reply (o : Office) (h : request.isAwaited = false) :
    ∃ reply, (o.perform request).2 = some reply := by
  cases hr : (o.perform request).2 with
  | some reply => exact ⟨reply, rfl⟩
  | none =>
    obtain ⟨⟨tx, r, rfl⟩, -⟩ := perform_eq_none (Prod.ext rfl hr)
    cases h

/-- Whoever waits for a row waits longer than the given limit. -/
def keeper (limit : Nat) : Keeper Office where
  reply o request := (o.perform request).2.getD request.unheard
  next o request := (o.perform request).1
  delay o request := if (o.perform request).2.isSome then 0 else limit + 1
  leave o request waited := { (o.perform request).1 with elapsed := o.elapsed + waited }
  prompt o request h := by
    refine if_pos ?_
    obtain ⟨reply, hreply⟩ := exists_reply o h
    simp [hreply]

theorem fetching_of_wait {length : Span} {next : request.Reply → Stage}
    (hm : order.move length stage = .ask request next) (hp : o.perform request = (o', none)) :
    ∃ tx, stage = .fetching tx := by
  obtain ⟨⟨tx, r, rfl⟩, -⟩ := perform_eq_none hp
  cases stage <;> cases hm
  exact ⟨tx, rfl⟩

theorem serve_givingUp (o : Office) (deadline : Nat) (order : Order) (tx : TxId) :
    o.serve deadline order (.givingUp tx) =
      ((o.perform (.discard tx)).1, .ok (.refused .lockTimeout)) := by
  obtain ⟨reply, hreply⟩ := exists_reply o (rfl : (Request.discard tx).isAwaited = false)
  rw [serve_of_reply rfl (Prod.ext rfl hreply), serve_of_answer rfl]

theorem keeper_serve_of_wait {tx : TxId} {late : Office}
    (hp : o.perform (.fetch tx order.seatId) = (o', none))
    (hlate : late = { o' with elapsed := o.elapsed + limit }) :
    (keeper limit).serve o.rules.holdLength (some limit) order o 0 0 (.fetching tx) =
      ⟨[.cut (.fetch tx order.seatId), .made (.discard tx) ()], .refused .lockTimeout, limit,
        (late.perform (.discard tx)).1⟩ := by
  have hdelay : (keeper limit).delay o (.fetch tx order.seatId) = limit + 1 := by
    simp [keeper, hp]
  have hleave : (keeper limit).leave o (.fetch tx order.seatId) limit = late := by
    simp [keeper, hp, hlate]
  have hcut : Stage.cutAt? (some limit) 0 (0 + (limit + 1)) (.fetching tx) = some (0 + limit) :=
    Stage.cutAt?_of_lt rfl (by omega)
  rw [Keeper.serve_of_cut rfl (by rw [hdelay, hcut]), Nat.zero_add, Nat.sub_zero, hleave,
    Stage.expire, Keeper.serve_givingUp]
  rfl

/-- What an order comes to that has been served as far as it gets and, if that was not to its end,
is served again when its time is up. -/
def settled (deadline : Nat) (order : Order) :
    Office × Except Stage Outcome → Office × Except Stage Outcome
  | (o, .ok outcome) => (o, .ok outcome)
  | (o, .error stage) => { o with elapsed := deadline }.serve deadline order stage

theorem settled_serve (o : Office) (deadline : Nat) (order : Order) (stage : Stage)
    (hd : deadline = o.elapsed + limit) :
    let account := (keeper limit).serve o.rules.holdLength (some limit) order o 0 0 stage
    settled deadline order (o.serve deadline order stage) =
      (account.state, .ok account.outcome) := by
  fun_induction Office.serve o deadline order stage with
  | case1 o stage outcome hm =>
    rw [Keeper.serve_of_answer hm]
    rfl
  | case2 o stage request next hm o' reply hp ih =>
    have hrules : o'.rules = o.rules := by
      have := rules_perform o request
      rwa [hp] at this
    have helapsed : o'.elapsed = o.elapsed := by
      have := elapsed_perform o request
      rwa [hp] at this
    have hdelay : (keeper limit).delay o request = 0 := by simp [keeper, hp]
    have hreply : (keeper limit).reply o request = reply := by simp [keeper, hp]
    have hnext : (keeper limit).next o request = o' := by simp [keeper, hp]
    have hsince : stage.waitedSince 0 (0 + 0) = 0 := by
      unfold Stage.waitedSince
      split <;> rfl
    rw [Keeper.serve_of_reply hm (Stage.cutAt?_of_le (by omega)), hdelay, hreply, hnext, hsince]
    rw [hrules] at ih
    exact ih (by omega)
  | case3 o stage request next hm o' hp hw ih =>
    obtain ⟨tx, rfl⟩ := fetching_of_wait hm hp
    cases hm
    have helapsed : o'.elapsed = o.elapsed := by
      have := elapsed_perform o (.fetch tx order.seatId)
      rwa [hp] at this
    have hnow : o'.elapsed = o.elapsed + limit := by omega
    have hlate : o' = { o' with elapsed := o.elapsed + limit } := by rw [← hnow]
    rw [keeper_serve_of_wait hp hlate, Stage.expire, serve_givingUp]
    rfl
  | case4 o stage request next hm o' hp hw =>
    obtain ⟨tx, rfl⟩ := fetching_of_wait hm hp
    cases hm
    let late : Office := { o' with elapsed := deadline }
    have hagain := (perform_eq_none hp).2 late rfl rfl
    have hserve : late.serve deadline order (.fetching tx) =
        late.serve deadline order (.givingUp tx) := by
      rw [serve_of_wait rfl hagain, if_pos ⟨rfl, Nat.le_refl _⟩]
      rfl
    have hlate : late = { o' with elapsed := o.elapsed + limit } := by rw [← hd]
    rw [keeper_serve_of_wait hp hlate]
    exact hserve.trans (serve_givingUp _ _ _ _)

theorem call_is_attended (o : Office) (order : Order) :
    let account :=
      (keeper o.rules.lockWait).attend o.rules.holdLength (some o.rules.lockWait) order o
    o.call (.order order) = (account.state, .outcome account.outcome) := by
  intro account
  let deadline := o.elapsed + o.rules.lockWait
  have hsettled : settled deadline order (o.serve deadline order order.first) =
      (account.state, .ok account.outcome) := settled_serve o deadline order order.first rfl
  let task : Task := ⟨order, order.first, deadline, none⟩
  rcases hserve : o.serve deadline order order.first with ⟨o', stage | outcome⟩
  · rw [hserve] at hsettled
    have hstart : o.start (.order order) = (o', .waiting { task with stage }) :=
      poll_of_wait (t := task) rfl hserve
    exact call_of_wait hstart (poll_of_serve (t := { task with stage }) rfl hsettled)
  · rw [hserve] at hsettled
    obtain ⟨rfl, rfl⟩ : o' = account.state ∧ outcome = account.outcome := by
      simpa [settled] using hsettled
    exact call_of_serve hserve

end Office

end BoxOffice
