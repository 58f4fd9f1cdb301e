import BoxOffice.Proofs.Footing
import BoxOffice.Proofs.HoldPromise
import BoxOffice.Proofs.OfficeTraffic
import BoxOffice.Proofs.RowQueues

set_option autoImplicit false

namespace BoxOffice

open Engine (TxId Request Order Stage)
open Function (update)

namespace Store

variable {s s' : Store} {tx : TxId} {r : Int}

theorem perform_eq_none {now : Instant} {request : Request} (h : (s.perform now request).2 = none) :
    ∃ tx r, request = .fetch tx r := by
  cases request with
  | fetch tx r => exact ⟨tx, r, rfl⟩
  | _ => cases h

theorem Turn.nextTx_le {request : Option Request} (h : s.Turn request s') :
    s.nextTx ≤ s'.nextTx := by
  cases h with
  | perform now request => exact (spares_perform s now request).nextTx
  | idle | faults | putSeat | unclaim => exact Nat.le_refl _

theorem holds_congr (h : s'.claims = s.claims) : s'.Holds tx r ↔ s.Holds tx r := by
  unfold Holds holder
  rw [h]

theorem Holds.perform (h : s.Holds tx r) (now : Instant) {request : Request}
    (he : request.ended? ≠ some tx) : (s.perform now request).1.Holds tx r := by
  have hq := requeued_perform s now request
  generalize hs' : (s.perform now request).1 = s' at hq ⊢
  generalize hxs : s.claims = xs at hq
  generalize hys : s'.claims = ys at hq
  cases hq with
  | same => exact (holds_congr (hys.trans hxs.symm)).2 h
  | @joined _ a q hn =>
    have hc : s'.claims = ({ s with claims := s.claims ++ [⟨q, a⟩] } : Store).claims := by
      rw [hys, hxs]
    rw [holds_congr hc, Holds, holder_append_claim r _ (by rw [h]; simp)]
    exact h
  | @ended _ _ a hended =>
    have hc : s'.claims =
        ({ s with claims := s.claims.filter fun c => c.tx ≠ a } : Store).claims := by
      rw [hys, hxs]
    rw [holds_congr hc]
    refine h.filter (decide_eq_true fun heq => he ?_)
    rw [hended, ← heq]

end Store

namespace Engine

variable {length : Span} {s : Store} {now : Instant} {order : Order} {stage : Stage} {tx : TxId}

theorem tx?_after_move {request : Request} {next : request.Reply → Stage}
    (hm : order.move length stage = .ask request next) (htx : stage.tx? = some tx)
    (reply : request.Reply) :
    (request.ended? = some tx ∧ (next reply).tx? = none) ∨
      (request.ended? = none ∧ (next reply).tx? = some tx) := by
  have hafter : ∀ a r since, (order.afterWrite a r since).tx? = some a := by
    intro a r since
    cases order <;> rfl
  cases stage <;> simp only [Order.move] at hm <;> cases hm <;> cases htx
  case withdrawing | undoing => exact .inl ⟨rfl, tx?_refuse order _⟩
  case givingUp => exact .inl ⟨rfl, rfl⟩
  case committing =>
    refine .inl ⟨rfl, ?_⟩
    cases reply with
    | error e => exact tx?_refuse order e
    | ok => rfl
  case deciding =>
    refine .inr ⟨rfl, ?_⟩
    simp only
    split <;> rfl
  case writing =>
    refine .inr ⟨rfl, ?_⟩
    cases reply with
    | error e => rfl
    | ok => exact hafter _ _ _
  case fetching | recording =>
    refine .inr ⟨rfl, ?_⟩
    cases reply <;> rfl

theorem tx?_after_advance (length : Span) (s : Store) (now : Instant) (order : Order)
    (htx : stage.tx? = some tx) :
    ((order.request? length stage).bind Request.ended? = some tx ∧
        (order.advance length s now stage).2.tx? = none) ∨
      ((order.request? length stage).bind Request.ended? = none ∧
        (order.advance length s now stage).2.tx? = some tx) := by
  unfold Order.request? Order.advance
  cases hm : order.move length stage with
  | answer outcome => exact .inr ⟨rfl, htx⟩
  | ask request next =>
    simp only [Option.bind_some]
    split
    · exact tx?_after_move hm htx _
    · rename_i hp
      obtain ⟨a, r, rfl⟩ := Store.perform_eq_none (congrArg Prod.snd hp)
      exact .inr ⟨rfl, htx⟩

theorem store_advance {request : Request} (h : order.request? length stage = some request) :
    (order.advance length s now stage).1 = (s.perform now request).1 := by
  unfold Order.request? at h
  unfold Order.advance
  cases hm : order.move length stage with
  | answer outcome => simp [hm] at h
  | ask request' next =>
    simp only [hm, Option.some.injEq] at h
    subst h
    simp only
    split <;> rename_i hp <;> rw [hp]

theorem tx?_of_ended (h : (order.request? length stage).bind Request.ended? = some tx) :
    stage.tx? = some tx := by
  unfold Order.request? at h
  cases stage <;> cases h <;> rfl

theorem fetching_of_request? {a : TxId} {r : Int}
    (h : order.request? length stage = some (.fetch a r)) :
    stage = .fetching a ∧ order.seatId = r := by
  unfold Order.request? at h
  cases stage <;> simp [Order.move] at h
  case fetching => exact ⟨by rw [h.1], h.2⟩

end Engine

namespace Bustle

def Open (t : Bustle) (tx : TxId) : Prop :=
  t.hands tx ≠ none ∨ ∃ i v, t.visits i = some v ∧ v.stage.tx? = some tx

/-- The transaction is under way, and it is one that may ask for the row. -/
def Concerns (t : Bustle) (tx : TxId) (r : Int) : Prop :=
  t.hands tx ≠ none ∨
    ∃ i v, t.visits i = some v ∧ v.stage.tx? = some tx ∧ v.order.seatId = r

variable {length : Span} {t : Bustle} {e : Event} {tx : TxId} {r : Int}

theorem Concerns.isOpen (h : t.Concerns tx r) : t.Open tx := by
  rcases h with h | ⟨i, v, hv, htx, -⟩
  · exact .inl h
  · exact .inr ⟨i, v, hv, htx⟩

theorem Firm.lt_of_isOpen (h : t.Firm) (ho : t.Open tx) : tx < t.store.nextTx := by
  rcases ho with hh | ⟨i, v, hv, htx⟩
  · exact h.hand_lt tx hh
  · exact h.tx_lt i v tx hv htx

inductive Asks (length : Span) (t : Bustle) : Event → Request → Prop
  | go {i v request} (hv : t.visits i = some v)
      (h : v.order.request? length v.stage = some request) : Asks length t (.order (.go i)) request
  | leave {i v} {tx : TxId} (hv : t.visits i = some v) (hw : v.stage.isWaiting = true)
      (htx : v.stage.tx? = some tx) : Asks length t (.order (.leave i)) (.discard tx)
  | begin : Asks length t (.hand .begin) .begin
  | call {tx : TxId} {c waits} (hw : t.hands tx = some waits) (hc : ∀ r ∈ waits, c = .fetch r) :
      Asks length t (.hand (.call tx c)) (c.request tx)
  | commit {tx : TxId} (hw : t.hands tx = some none) :
      Asks length t (.hand (.commit tx)) (.commit tx)
  | stop {tx : TxId} {waits} (hw : t.hands tx = some waits) :
      Asks length t (.hand (.stop tx)) (.discard tx)

theorem asks_of_request? {request : Request} (h : t.request? length e = some request) :
    Asks length t e request := by
  cases e with
  | order event =>
    cases event with
    | go i =>
      obtain ⟨v, hv, hrequest⟩ := Option.bind_eq_some_iff.1 h
      exact .go hv hrequest
    | leave i =>
      obtain ⟨v, hv, hrequest⟩ := Option.bind_eq_some_iff.1 h
      split at hrequest
      · rename_i hw
        obtain ⟨tx, htx, rfl⟩ := Option.map_eq_some_iff.1 hrequest
        exact .leave hv hw htx
      · cases hrequest
    | arrive | expire | clock | faults => cases h
  | hand action =>
    cases action with
    | begin =>
      cases h
      exact .begin
    | call tx c =>
      obtain ⟨waits, hw, hrequest⟩ := Option.bind_eq_some_iff.1 h
      split at hrequest
      · rename_i hc
        cases hrequest
        exact .call hw hc
      · cases hrequest
    | commit tx =>
      simp only [request?] at h
      split at h
      · rename_i hw
        cases h
        exact .commit hw
      · cases h
    | stop tx =>
      obtain ⟨waits, hw, rfl⟩ := Option.map_eq_some_iff.1 h
      exact .stop hw
    | abandon => cases h
  | putSeat => cases h

theorem store_step (t : Bustle) {request : Request} (h : t.request? length e = some request) :
    (t.step length e).store = (t.store.perform t.clock request).1 := by
  cases asks_of_request? h with
  | go hv hrequest =>
    simp only [step, Traffic.step, Traffic.go, hv]
    exact Engine.store_advance hrequest
  | leave hv hw htx =>
    simp only [step, Traffic.step, Traffic.leave, hv, if_pos hw, Store.deserted, htx]
    rfl
  | begin => rfl
  | call hw hc =>
    simp only [step, call, hw, if_pos hc]
    split <;> rename_i hp <;> rw [hp]
  | commit hw =>
    simp only [step, commit, hw]
    rfl
  | stop hw =>
    simp only [step, stop, hw]
    rfl

/-- Without a request, claims only change when somebody gives up a wait. -/
theorem claims_step (t : Bustle) (h : t.request? length e = none) :
    (t.step length e).store.claims = t.store.claims ∨
      ∃ tx r, t.hands tx = some (some r) ∧ (t.step length e).store = t.store.unclaim tx r := by
  cases e with
  | order event =>
    cases event with
    | go i =>
      left
      simp only [step, Traffic.step, Traffic.go]
      cases hv : t.visits i with
      | none => rfl
      | some v =>
        simp only [request?, hv, Option.bind_some, Order.request?] at h
        simp only [Order.advance]
        cases hm : v.order.move length v.stage with
        | answer outcome => rfl
        | ask request next => simp [hm] at h
    | leave i =>
      left
      simp only [step, Traffic.step, Traffic.leave]
      cases hv : t.visits i with
      | none => rfl
      | some v =>
        simp only [request?, hv, Option.bind_some] at h
        split at h
        · rename_i hw
          simp only [if_pos hw, Store.deserted, Option.map_eq_none_iff.1 h]
        · rename_i hw
          simp only [if_neg hw]
    | expire i =>
      left
      simp only [step, Traffic.step, Traffic.expire]
      split
      · rfl
      · split <;> rfl
    | arrive | clock | faults => exact .inl rfl
  | hand action =>
    cases action with
    | begin => cases h
    | call tx c =>
      left
      simp only [request?] at h
      simp only [step, call]
      cases hw : t.hands tx with
      | none => rfl
      | some waits =>
        simp only [hw, Option.bind_some] at h
        split at h
        · cases h
        · rename_i hc
          simp only [if_neg hc]
    | abandon tx =>
      simp only [step, abandon]
      split
      · rename_i r hr
        exact .inr ⟨tx, r, hr, rfl⟩
      · exact .inl rfl
    | commit tx =>
      left
      simp only [request?] at h
      split at h
      · cases h
      · rename_i hw
        simp only [step, commit]
    | stop tx =>
      left
      simp only [request?, Option.map_eq_none_iff] at h
      simp only [step, stop, h]
  | putSeat => exact .inl rfl

end Bustle

inductive Traffic.Fate (length : Span) (t : Traffic) (i : Nat) :
    BoxOffice.Event → Option Visit → Prop
  | stays {event} : Fate length t i event (t.visits i)
  | arrives {order} (hi : i = t.arrivals) :
      Fate length t i (.arrive order) (some ⟨order, order.first⟩)
  | goes {v} (hv : t.visits i = some v) :
      Fate length t i (.go i)
        (some ⟨v.order, (v.order.advance length t.store t.clock v.stage).2⟩)
  | expires {v} (hv : t.visits i = some v) (hw : v.stage.isWaiting = true) :
      Fate length t i (.expire i) (some ⟨v.order, v.stage.expire⟩)
  | leaves {v} (hv : t.visits i = some v) (hw : v.stage.isWaiting = true) :
      Fate length t i (.leave i) none

theorem of_update_apply {α β : Type} [DecidableEq α] {P : β → Prop} {f : α → β} {a b : α} {w : β}
    (hnew : b = a → P w) (hold : P (f b)) : P (update f a w b) := by
  by_cases h : b = a
  · subst h
    rw [Function.update_self]
    exact hnew rfl
  · rw [Function.update_of_ne h]
    exact hold

theorem Traffic.fate (length : Span) (t : Traffic) (i : Nat) (event : BoxOffice.Event) :
    Fate length t i event ((t.step length event).visits i) := by
  cases event with
  | arrive order => exact of_update_apply .arrives .stays
  | go j =>
    simp only [step, go]
    cases hv : t.visits j with
    | none => exact .stays
    | some v =>
      refine of_update_apply (fun hi => ?_) .stays
      subst hi
      exact .goes hv
  | expire j =>
    simp only [step, expire]
    cases hv : t.visits j with
    | none => exact .stays
    | some v =>
      simp only
      split
      · rename_i hw
        refine of_update_apply (fun hi => ?_) .stays
        subst hi
        exact .expires hv hw
      · exact .stays
  | leave j =>
    simp only [step, leave]
    cases hv : t.visits j with
    | none => exact .stays
    | some v =>
      simp only
      split
      · rename_i hw
        refine of_update_apply (fun hi => ?_) .stays
        subst hi
        exact .leaves hv hw
      · exact .stays
  | clock | faults => exact .stays

namespace Bustle

variable {length : Span} {t : Bustle} {e : Event} {tx : TxId} {r : Int} {i : Nat} {v : Visit}

inductive Fate (t : Bustle) (tx : TxId) : Event → Option (Option Int) → Prop
  | stays {e : Event} : Fate t tx e (t.hands tx)
  | begins (h : tx = t.store.nextTx) : Fate t tx (.hand .begin) (some none)
  | answered {c waits} (h : t.hands tx = some waits) : Fate t tx (.hand (.call tx c)) (some none)
  | waits {c waits} (h : t.hands tx = some waits) (hc : ∀ r ∈ waits, c = .fetch r)
      (hn : (t.store.perform t.clock (c.request tx)).2 = none) :
      Fate t tx (.hand (.call tx c)) (some (some c.seatId))
  | abandons {r : Int} (h : t.hands tx = some (some r)) :
      Fate t tx (.hand (.abandon tx)) (some none)
  | commits (h : t.hands tx = some none) : Fate t tx (.hand (.commit tx)) none
  | stops {waits} (h : t.hands tx = some waits) : Fate t tx (.hand (.stop tx)) none

theorem fate (length : Span) (t : Bustle) (tx : TxId) (e : Event) :
    Fate t tx e ((t.step length e).hands tx) := by
  cases e with
  | order event => exact .stays
  | putSeat => exact .stays
  | hand action =>
    cases action with
    | begin => exact of_update_apply .begins .stays
    | call a c =>
      simp only [step, call]
      cases hw : t.hands a with
      | none => exact .stays
      | some waits =>
        simp only
        split
        · rename_i hc
          split
          · refine of_update_apply (fun h => ?_) .stays
            subst h
            exact .answered hw
          · rename_i hp
            refine of_update_apply (fun h => ?_) .stays
            subst h
            exact .waits hw hc (congrArg Prod.snd hp)
        · exact .stays
    | abandon a =>
      simp only [step, abandon]
      split
      · rename_i r hr
        refine of_update_apply (fun h => ?_) .stays
        subst h
        exact .abandons hr
      · exact .stays
    | commit a =>
      simp only [step, commit]
      split
      · rename_i hw
        refine of_update_apply (fun h => ?_) .stays
        subst h
        exact .commits hw
      · exact .stays
    | stop a =>
      simp only [step, stop]
      split
      · rename_i waits hw
        refine of_update_apply (fun h => ?_) .stays
        subst h
        exact .stops hw
      · exact .stays

theorem visits_hand (t : Bustle) (action : History.Action) :
    (t.step length (.hand action)).visits = t.visits := by
  cases action with
  | begin => rfl
  | call tx c =>
    simp only [step, call]
    split
    · rfl
    · split
      · split <;> rfl
      · rfl
  | abandon tx | commit tx | stop tx =>
    simp only [step, abandon, commit, stop]
    split <;> rfl

theorem visit_fate (length : Span) (t : Bustle) (i : Nat) (e : Event) :
    (t.step length e).visits i = t.visits i ∨ ∃ event, e = .order event ∧
      t.toTraffic.Fate length i event ((t.step length e).visits i) := by
  cases e with
  | order event => exact .inr ⟨event, rfl, t.toTraffic.fate length i event⟩
  | hand action => exact .inl (congrFun (t.visits_hand action) i)
  | putSeat => exact .inl rfl

theorem Concerns.step (h : t.Concerns tx r) (hlt : ∀ i v, t.visits i = some v → i < t.arrivals)
    (e : Event) :
    (t.step length e).Concerns tx r ∨ (t.request? length e).bind Request.ended? = some tx := by
  rcases h with h | ⟨i, v, hv, htx, hr⟩
  · have hf := fate length t tx e
    generalize hw : (t.step length e).hands tx = w at hf
    have stays : w ≠ none → (t.step length e).Concerns tx r := fun hne => .inl (hw ▸ hne)
    cases hf with
    | stays => exact .inl (stays h)
    | begins | answered | waits | abandons => exact .inl (stays nofun)
    | commits hc => exact .inr (by simp [request?, hc, Request.ended?])
    | stops hs => exact .inr (by simp [request?, hs, Request.ended?])
  · have stays : (t.step length e).visits i = some v → (t.step length e).Concerns tx r :=
      fun hv' => .inr ⟨i, v, hv', htx, hr⟩
    rcases t.visit_fate length i e with hsame | ⟨event, rfl, hf⟩
    · exact .inl (stays (hsame.trans hv))
    · generalize hw : (t.step length (.order event)).visits i = w at hf
      cases hf with
      | stays => exact .inl (stays (hw.trans hv))
      | arrives hi => exact absurd (hlt i v hv) (by omega)
      | goes hv' =>
        obtain rfl := Option.some.inj (hv.symm.trans hv')
        rcases Engine.tx?_after_advance length t.store t.clock v.order htx with
          ⟨hended, -⟩ | ⟨-, hnext⟩
        · exact .inr (by simpa [request?, hv] using hended)
        · exact .inl (.inr ⟨i, _, hw, hnext, hr⟩)
      | expires hv' hwait =>
        obtain rfl := Option.some.inj (hv.symm.trans hv')
        exact .inl (.inr ⟨i, _, hw, (Engine.tx?_expire _).trans htx, hr⟩)
      | leaves hv' hwait =>
        obtain rfl := Option.some.inj (hv.symm.trans hv')
        exact .inr (by simp [request?, hv, hwait, htx, Request.ended?])

theorem Open.before (h : (t.step length e).Open tx) : t.Open tx ∨ tx = t.store.nextTx := by
  rcases h with h | ⟨i, v, hv, htx⟩
  · have hf := fate length t tx e
    generalize (t.step length e).hands tx = w at hf h
    cases hf with
    | stays => exact .inl (.inl h)
    | begins hb => exact .inr hb
    | answered hh | waits hh | abandons hh => exact .inl (.inl (by simp [hh]))
    | commits | stops => exact absurd rfl h
  · have stays : t.visits i = some v → t.Open tx := fun hv => .inr ⟨i, v, hv, htx⟩
    rcases t.visit_fate length i e with hsame | ⟨event, rfl, hf⟩
    · exact .inl (stays (hsame.symm.trans hv))
    · generalize hw : (t.step length (.order event)).visits i = w at hf
      have hw' : w = some v := hw.symm.trans hv
      cases hf with
      | stays => exact .inl (stays hw')
      | arrives =>
        cases hw'
        rw [Traffic.tx?_first] at htx
        cases htx
      | goes hv₀ =>
        cases hw'
        rename_i v₀
        rcases Engine.tx?_advance length t.store t.clock v₀.order v₀.stage with he | he | ⟨he, -⟩
        · rw [he] at htx
          cases htx
        · exact .inl (.inr ⟨i, v₀, hv₀, he.symm.trans htx⟩)
        · exact .inr (Option.some.inj (htx.symm.trans he))
      | expires hv₀ =>
        cases hw'
        exact .inl (.inr ⟨i, _, hv₀, (Engine.tx?_expire _).symm.trans htx⟩)
      | leaves => cases hw'

/-- A visit that has ended its transaction was the only one to drive it. -/
theorem Firm.unowned_update (h : t.Firm) (hv : t.visits i = some v) (htx : v.stage.tx? = some tx)
    {w : Option Visit} (hw : ∀ u, w = some u → u.stage.tx? ≠ some tx) {j : Nat} {u : Visit}
    (hj : update t.visits i w j = some u) : u.stage.tx? ≠ some tx := by
  rcases Traffic.of_update hj with ⟨-, hu⟩ | ⟨hne, hj⟩
  · exact hw u hu
  · exact fun hu => hne (h.tx_inj j i u v tx hj hv hu htx)

theorem Firm.not_isOpen (h : t.Firm) (he : (t.request? length e).bind Request.ended? = some tx) :
    ¬(t.step length e).Open tx := by
  have byVisit : ∀ {event i v w}, t.visits i = some v → v.stage.tx? = some tx →
      (t.toTraffic.step length event).visits = update t.visits i w →
      (∀ u, w = some u → u.stage.tx? ≠ some tx) → ¬(t.step length (.order event)).Open tx := by
    rintro event i v w hv htx hstep hw (ho | ⟨j, u, hj, hu⟩)
    · exact ho (h.apart i v tx hv htx)
    · exact h.unowned_update hv htx hw ((congrFun hstep j).symm.trans hj) hu
  have byHand : ∀ {action}, t.hands tx ≠ none → (t.step length (.hand action)).hands tx = none →
      ¬(t.step length (.hand action)).Open tx := by
    rintro action hh hn (ho | ⟨i, v, hv, htx⟩)
    · exact ho hn
    · exact hh (h.apart i v tx ((congrFun (t.visits_hand action) i).symm.trans hv) htx)
  obtain ⟨request, hrequest, hended⟩ := Option.bind_eq_some_iff.1 he
  cases asks_of_request? hrequest with
  | @go i v _ hv hasked =>
    have hbind : (v.order.request? length v.stage).bind Request.ended? = some tx := by
      rw [hasked]
      exact hended
    have htx : v.stage.tx? = some tx := Engine.tx?_of_ended hbind
    refine byVisit hv htx (w := some _) (by simp only [Traffic.step, Traffic.go, hv]; rfl) ?_
    rintro u hu
    cases hu
    rcases Engine.tx?_after_advance length t.store t.clock v.order htx with ⟨-, hn⟩ | ⟨hn, -⟩
    · rw [hn]
      exact (Option.some_ne_none tx).symm
    · cases hn.symm.trans hbind
  | leave hv hw htx =>
    cases hended
    refine byVisit hv htx (w := none) ?_ fun u hu => by cases hu
    simp only [Traffic.step, Traffic.leave, hv, if_pos hw]
  | begin => cases hended
  | @call _ c _ hw hc => cases c <;> cases hended
  | commit hw =>
    cases hended
    refine byHand (by simp [hw]) ?_
    simp only [Bustle.step, Bustle.commit, hw, Function.update_self]
  | stop hw =>
    cases hended
    refine byHand (by simp [hw]) ?_
    simp only [Bustle.step, Bustle.stop, hw, Function.update_self]

theorem asks_cases (h : t.request? length e = some (.fetch tx r)) :
    (∃ i v, e = .order (.go i) ∧ t.visits i = some v ∧ v.stage = .fetching tx ∧
        v.order.seatId = r) ∨
      ∃ waits, e = .hand (.call tx (.fetch r)) ∧ t.hands tx = some waits ∧
        ∀ q ∈ waits, Tx.Call.fetch r = .fetch q := by
  generalize hfetch : Request.fetch tx r = request at h
  cases asks_of_request? h with
  | @go i v _ hv hasked =>
    subst hfetch
    obtain ⟨hstage, hr⟩ := Engine.fetching_of_request? hasked
    exact .inl ⟨i, v, rfl, hv, hstage, hr⟩
  | @call _ c waits hw hc =>
    cases c <;> cases hfetch
    exact .inr ⟨waits, rfl, hw, hc⟩
  | leave | begin | commit | stop => cases hfetch

theorem concerns_of_fetch (h : t.request? length e = some (.fetch tx r)) : t.Concerns tx r := by
  rcases asks_cases h with ⟨i, v, -, hv, hstage, hr⟩ | ⟨waits, -, hw, -⟩
  · exact .inr ⟨i, v, hv, by rw [hstage]; rfl, hr⟩
  · exact .inl (by simp [hw])

theorem Firm.hands_of_answer (h : t.Firm) (hr : t.request? length e = some (.fetch tx r))
    (hs : (t.store.fetch tx r).2 ≠ none) (q : Int) :
    (t.step length e).hands tx ≠ some (some q) := by
  rcases asks_cases hr with ⟨i, v, rfl, hv, hstage, -⟩ | ⟨waits, rfl, hw, hc⟩
  · have hnone : t.hands tx = none := h.apart i v tx hv (by rw [hstage]; rfl)
    change t.hands tx ≠ some (some q)
    rw [hnone]
    nofun
  · simp only [Bustle.step, Bustle.call, hw, if_pos hc]
    split
    · simp
    · rename_i hp
      exact absurd (congrArg Prod.snd hp) hs

theorem Firm.waits_step (h : t.Firm) (hw : (t.step length e).hands tx = some (some r)) :
    (t.hands tx = some (some r) ∧ t.request? length e ≠ some (.fetch tx r)) ∨
      ¬(t.step length e).store.Holds tx r := by
  by_cases hr : t.request? length e = some (.fetch tx r)
  · right
    have hnone : (t.store.fetch tx r).2 = none := by
      by_contra hs
      exact h.hands_of_answer hr hs r hw
    rw [t.store_step hr]
    exact Store.not_holds_of_fetch_none hnone
  · left
    have hf := fate length t tx e
    rw [hw] at hf
    generalize hw' : some (some r) = w at hf
    cases hf with
    | stays => exact ⟨rfl, hr⟩
    | @waits c waits hh hc hn =>
      cases hw'
      cases c with
      | fetch q => exact absurd (by simp only [request?, hh, Option.bind_some, if_pos hc]; rfl) hr
      | update | insert => cases hn
    | begins | answered | abandons | commits | stops => cases hw'

theorem arrivals_le_step (length : Span) (t : Bustle) (e : Event) :
    t.arrivals ≤ (t.step length e).arrivals := by
  cases e with
  | order event =>
    cases event with
    | arrive order => exact Nat.le_succ _
    | go i =>
      simp only [step, Traffic.step, Traffic.go]
      split <;> exact Nat.le_refl _
    | expire i | leave i =>
      simp only [step, Traffic.step, Traffic.expire, Traffic.leave]
      split
      · exact Nat.le_refl _
      · split <;> exact Nat.le_refl _
    | clock | faults => exact Nat.le_refl _
  | hand action =>
    cases action with
    | begin => exact Nat.le_refl _
    | call tx c =>
      simp only [step, call]
      split
      · exact Nat.le_refl _
      · split
        · split <;> exact Nat.le_refl _
        · exact Nat.le_refl _
    | abandon tx | commit tx | stop tx =>
      simp only [step, abandon, commit, stop]
      split <;> exact Nat.le_refl _
  | putSeat => exact Nat.le_refl _

theorem lt_arrivals_step (h : ∀ i v, t.visits i = some v → i < t.arrivals) (e : Event) :
    ∀ i v, (t.step length e).visits i = some v → i < (t.step length e).arrivals := by
  intro i v hv
  have hle := t.arrivals_le_step length e
  have before : ∀ {u}, t.visits i = some u → i < (t.step length e).arrivals :=
    fun hu => Nat.lt_of_lt_of_le (h i _ hu) hle
  rcases t.visit_fate length i e with hsame | ⟨event, rfl, hf⟩
  · exact before (hsame.symm.trans hv)
  · generalize hw : (t.step length (.order event)).visits i = w at hf
    cases hf with
    | stays => exact before (hw.symm.trans hv)
    | arrives hi => exact hi ▸ Nat.lt_succ_self _
    | goes hu | expires hu | leaves hu => exact before hu

end Bustle

end BoxOffice
