import BoxOffice.Proofs.BustleSteps

set_option autoImplicit false

/-!
# Rows are handed on, and nobody is stuck

A row that has been granted stays with its transaction until the transaction ends, and then nothing
is left of it in any queue. An order claims the row of its own seat only, so while it waits it holds
nothing that others wait for: among orders alone somebody can always go on.
-/

namespace BoxOffice

open Engine (TxId Request Order Stage)

namespace Bustle

def granted? (length : Span) (t : Bustle) (e : Event) : Option Claim :=
  match t.request? length e with
  | some (.fetch tx r) =>
    match (t.store.fetch tx r).2 with
    | some (.ok _) => some ⟨r, tx⟩
    | some (.error _) | none => none
  | _ => none

def granted (length : Span) : Bustle → List Event → List Claim
  | _, [] => []
  | t, e :: events => (t.granted? length e).toList ++ granted length (t.step length e) events

structure Orderly (t : Bustle) (granted : List Claim) : Prop where
  lt_arrivals : ∀ i v, t.visits i = some v → i < t.arrivals
  nodup : t.store.claims.Nodup
  concerns : ∀ c ∈ t.store.claims, t.Concerns c.tx c.seatId
  lt : ∀ c ∈ granted, c.tx < t.store.nextTx
  holds : ∀ c ∈ granted, t.Open c.tx → t.store.Holds c.tx c.seatId
  waits : ∀ tx r, t.hands tx = some (some r) → ⟨r, tx⟩ ∉ granted

variable {length : Span} {t : Bustle} {e : Event} {tx : TxId} {r : Int} {i : Nat} {v : Visit}

theorem granted?_eq_some {c : Claim} (h : t.granted? length e = some c) :
    t.request? length e = some (.fetch c.tx c.seatId) ∧
      ∃ seat, (t.store.fetch c.tx c.seatId).2 = some (.ok seat) := by
  unfold granted? at h
  split at h
  · rename_i hr
    split at h
    · rename_i seat hs
      cases h
      exact ⟨hr, seat, hs⟩
    · cases h
    · cases h
  · cases h

theorem orderly_ofStore {s : Store} (hs : s.AtRest) (clock : Instant) :
    (ofStore s clock).Orderly [] where
  lt_arrivals _ _ hv := by cases hv
  nodup := by
    change s.claims.Nodup
    rw [hs.claims]
    exact List.nodup_nil
  concerns c hc := by
    change c ∈ s.claims at hc
    rw [hs.claims] at hc
    cases hc
  lt _ hc := by cases hc
  holds _ hc := by cases hc
  waits _ _ _ := List.not_mem_nil

variable {granted : List Claim}

theorem Orderly.holds_step (ho : t.Orderly granted) (h : t.Firm) {c : Claim} (hc : c ∈ granted)
    (hopen : (t.step length e).Open c.tx) : (t.step length e).store.Holds c.tx c.seatId := by
  have hholds : t.store.Holds c.tx c.seatId := by
    refine ho.holds c hc (hopen.before.resolve_right ?_)
    exact Nat.ne_of_lt (ho.lt c hc)
  cases hr : t.request? length e with
  | some request =>
    rw [t.store_step hr]
    refine hholds.perform t.clock fun he => h.not_isOpen ?_ hopen
    rw [hr]
    exact he
  | none =>
    rcases t.claims_step hr with hs | ⟨a, q, ha, hs⟩
    · exact (Store.holds_congr hs).2 hholds
    · rw [hs]
      refine hholds.unclaim fun he => ho.waits a q ha ?_
      rw [← he]
      exact hc

theorem Orderly.step (ho : t.Orderly granted) (h : t.Firm) (e : Event) :
    (t.step length e).Orderly (granted ++ (t.granted? length e).toList) := by
  have hturn : t.store.Turn (t.request? length e) (t.step length e).store := t.turn_step e
  have hnew : ∀ c ∈ (t.granted? length e).toList,
      t.request? length e = some (.fetch c.tx c.seatId) ∧
        ∃ seat, (t.store.fetch c.tx c.seatId).2 = some (.ok seat) :=
    fun c hc => granted?_eq_some (Option.mem_toList.1 hc)
  have hheld : ∀ c ∈ (t.granted? length e).toList,
      (t.step length e).store.Holds c.tx c.seatId := by
    intro c hc
    obtain ⟨hr, seat, hs⟩ := hnew c hc
    rw [t.store_step hr]
    exact Store.holds_of_fetch_ok hs
  have hholds : ∀ c ∈ granted ++ (t.granted? length e).toList, (t.step length e).Open c.tx →
      (t.step length e).store.Holds c.tx c.seatId := by
    intro c hc hopen
    rcases List.mem_append.1 hc with hc | hc
    · exact ho.holds_step h hc hopen
    · exact hheld c hc
  refine ⟨lt_arrivals_step ho.lt_arrivals e, hturn.requeued.nodup ho.nodup, ?_, ?_, hholds, ?_⟩
  · intro c hc
    rcases hturn.requeued.mem hc with ⟨hm, hne⟩ | hr
    · exact ((ho.concerns c hm).step ho.lt_arrivals e).resolve_right hne
    · refine ((concerns_of_fetch hr).step ho.lt_arrivals e).resolve_right ?_
      rw [hr]
      nofun
  · intro c hc
    refine Nat.lt_of_lt_of_le ?_ hturn.nextTx_le
    rcases List.mem_append.1 hc with hc | hc
    · exact ho.lt c hc
    · exact h.lt_of_isOpen (concerns_of_fetch (hnew c hc).1).isOpen
  · intro tx r hw hmem
    have hopen : (t.step length e).Open tx := .inl (by rw [hw]; nofun)
    rcases h.waits_step hw with ⟨hw', hne⟩ | hn
    · rcases List.mem_append.1 hmem with hmem | hmem
      · exact ho.waits tx r hw' hmem
      · exact hne (hnew _ hmem).1
    · exact hn (hholds _ hmem hopen)

theorem Orderly.run (ho : t.Orderly granted) (h : t.Firm) (events : List Event) :
    (t.run length events).Orderly (granted ++ t.granted length events) := by
  induction events generalizing t granted with
  | nil => simpa [Bustle.granted, Bustle.run] using ho
  | cons e events ih =>
    have hstep : (t.step length e).Orderly (granted ++ (t.granted? length e).toList) := ho.step h e
    have hrest := ih hstep (h.step e)
    rwa [List.append_assoc] at hrest

def GoesOn (length : Span) (t : Bustle) (i : Nat) : Prop :=
  ∃ v stage, t.visits i = some v ∧
    (t.step length (.order (.go i))).visits i = some ⟨v.order, stage⟩ ∧ stage.rank < v.stage.rank

theorem goesOn_or_waits (length : Span) (hv : t.visits i = some v) :
    (∃ outcome, v.stage = .finished outcome) ∨ t.GoesOn length i ∨
      ∃ tx, v.stage = .fetching tx ∧ (t.store.fetch tx v.order.seatId).2 = none := by
  have hstep : (t.step length (.order (.go i))).visits i =
      some ⟨v.order, (v.order.advance length t.store t.clock v.stage).2⟩ := by
    simp only [step, Traffic.step, Traffic.go, hv, Function.update_self]
  cases hm : v.order.move length v.stage with
  | answer outcome => exact .inl ⟨outcome, Office.eq_finished_of_answer hm⟩
  | ask request next =>
    right
    simp only [Order.advance, hm] at hstep
    split at hstep
    · exact .inl ⟨v, _, hv, hstep, Engine.rank_next_lt hm _⟩
    · rename_i hp
      obtain ⟨tx, r, rfl⟩ := Store.perform_eq_none (congrArg Prod.snd hp)
      have hrequest : v.order.request? length v.stage = some (.fetch tx r) := by
        rw [Order.request?, hm]
      obtain ⟨hstage, hr⟩ := Engine.fetching_of_request? hrequest
      exact .inr ⟨tx, hstage, by rw [hr]; exact congrArg Prod.snd hp⟩

theorem Orderly.goesOn_of_wait (length : Span) (ho : t.Orderly granted) (hv : t.visits i = some v) :
    (∃ outcome, v.stage = .finished outcome) ∨ (∃ j, t.GoesOn length j) ∨
      ∃ b, t.store.Holds b v.order.seatId ∧ t.hands b ≠ none := by
  rcases goesOn_or_waits length hv with h | h | ⟨tx, -, hn⟩
  · exact .inl h
  · exact .inr (.inl ⟨i, h⟩)
  · right
    obtain ⟨b, -, hb⟩ := Store.exists_holder_of_fetch_none hn
    rcases ho.concerns _ hb.mem_claims with hh | ⟨j, w, hw, htx, hr⟩
    · exact .inr ⟨b, hb, hh⟩
    · left
      rcases goesOn_or_waits length hw with ⟨outcome, hf⟩ | h | ⟨a, hstage, hwait⟩
      · rw [hf] at htx
        cases htx
      · exact ⟨j, h⟩
      · rw [hstage] at htx
        obtain rfl := Option.some.inj htx
        rw [hr, Store.fetch_of_holds hb] at hwait
        cases hwait

/-- An order whose transaction waits holds no row: all its claims are on one row. -/
theorem Orderly.not_holds_of_waits (ho : t.Orderly granted) (h : t.Firm) (hv : t.visits i = some v)
    (htx : v.stage.tx? = some tx) (hw : t.store.Waits tx r) (q : Int) : ¬t.store.Holds tx q := by
  intro hq
  have own : ∀ {q'}, ⟨q', tx⟩ ∈ t.store.claims → v.order.seatId = q' := by
    intro q' hm
    rcases ho.concerns _ hm with hh | ⟨j, w, hj, hwtx, hr⟩
    · exact absurd (h.apart i v tx hv htx) hh
    · obtain rfl := h.tx_inj i j v w tx hv hj htx hwtx
      obtain rfl := Option.some.inj (hv.symm.trans hj)
      exact hr
  have hsame : q = r := (own hq.mem_claims).symm.trans (own (Store.mem_queue.1 hw.1))
  exact hw.2 (hsame ▸ hq)

theorem Orderly.goesOn_of_unserved (length : Span) (ho : t.Orderly granted)
    (hnone : ∀ tx, t.hands tx = none) :
    (∀ i v, t.visits i = some v → ∃ outcome, v.stage = .finished outcome) ∨
      ∃ i, t.GoesOn length i := by
  by_cases hall : ∀ i v, t.visits i = some v → ∃ outcome, v.stage = .finished outcome
  · exact .inl hall
  · right
    simp only [not_forall] at hall
    obtain ⟨i, v, hv, hn⟩ := hall
    rcases ho.goesOn_of_wait length hv with h | h | ⟨b, -, hb⟩
    · exact absurd h hn
    · exact h
    · exact absurd (hnone b) hb

/-- What is granted stays granted until the transaction ends, and to one transaction only; a
transaction that has ended stands in no queue; who waits is kept waiting by somebody else, is never
overtaken, and holds nothing if it belongs to an order. So orders never block each other for
good. -/
theorem rows_are_handed_on {s : Store} (hs : s.AtRest) (clock : Instant) (es fs : List Event) :
    let start := ofStore s clock
    let t := start.run length es
    let t' := t.run length fs
    let granted := start.granted length (es ++ fs)
    (∀ c ∈ granted, t'.Open c.tx → t'.store.Holds c.tx c.seatId ∧
      ∀ d ∈ granted, d.seatId = c.seatId → t'.Open d.tx → d.tx = c.tx) ∧
    (∀ tx r, tx ∈ t'.store.queue r → t'.Open tx) ∧
    (∀ tx r, t'.store.Waits tx r → ∃ b, b ≠ tx ∧ t'.Open b ∧ t'.store.Holds b r) ∧
    (∀ tx r, t'.store.Holds tx r ↔ tx ∈ t'.store.queue r ∧ t'.store.ahead r tx = []) ∧
    (∀ tx r, (∀ gs, gs <+: fs → tx ∈ (t.run length gs).store.queue r) →
      (t'.store.ahead r tx).Sublist (t.store.ahead r tx)) ∧
    (∀ e tx r, tx ∉ t'.store.queue r → tx ∈ (t'.step length e).store.queue r →
      (t'.step length e).store.queue r = t'.store.queue r ++ [tx]) ∧
    (∀ tx r, t'.store.Holds tx r → (t'.store.queue r).count tx = 1 ∧
      ∃ reply, t'.store.fetch tx r = (t'.store, some reply)) ∧
    (∀ i v tx r, t'.visits i = some v → v.stage.tx? = some tx → t'.store.Waits tx r →
      ∀ q, ¬t'.store.Holds tx q) ∧
    ((∀ tx, t'.hands tx = none) →
      (∀ i v, t'.visits i = some v → ∃ outcome, v.stage = .finished outcome) ∨
        ∃ i, t'.GoesOn length i) := by
  intro start t t' granted
  have hrun : start.run length (es ++ fs) = t' := run_append es fs
  have hfirm : t'.Firm := hrun ▸ (firm_ofStore s clock).run (es ++ fs)
  have ho : t'.Orderly granted := by
    have h : (start.run length (es ++ fs)).Orderly ([] ++ granted) :=
      (orderly_ofStore hs clock).run (firm_ofStore s clock) (es ++ fs)
    rwa [hrun] at h
  refine ⟨fun c hc hopen => ⟨ho.holds c hc hopen, fun d hd hr hopen' => ?_⟩, ?_, ?_,
    fun tx r => Store.holds_iff_ahead, fun tx r => ahead_run fs,
    fun e tx r => (t'.turn_step e).queue_of_joined, ?_,
    fun i v tx r => ho.not_holds_of_waits hfirm, ho.goesOn_of_unserved length⟩
  · exact (hr ▸ ho.holds d hd hopen').eq (ho.holds c hc hopen)
  · exact fun tx r hm => (ho.concerns _ (Store.mem_queue.1 hm)).isOpen
  · intro tx r hw
    obtain ⟨b, hne, hb⟩ := hw.exists_holder
    exact ⟨b, hne, (ho.concerns _ hb.mem_claims).isOpen, hb⟩
  · intro tx r hh
    refine ⟨?_, _, Store.fetch_of_holds hh⟩
    exact List.count_eq_one_of_mem (Store.nodup_queue ho.nodup r) (Store.mem_queue.2 hh.mem_claims)

/-- Two holds wait for a row that a transaction driven by hand has. -/
def crowd : List Event :=
  [.hand .begin, .hand (.call 0 (.fetch 1)), .order (.arrive (.hold 1 7)),
    .order (.arrive (.hold 1 8)), .order (.go 0), .order (.go 1), .order (.go 0), .order (.go 1)]

def letGo : List Event :=
  [.order (.expire 0), .order (.go 0), .order (.faults ⟨false, true⟩), .hand (.commit 0)]

def crowded : Bustle := (ofStore Traffic.oneSeat .epoch).run Traffic.tenMinutes crowd

theorem rows_are_handed_on_by_failure :
    Traffic.oneSeat.AtRest ∧ crowded.store.queue 1 = [0, 1, 2] ∧
      (crowded.run Traffic.tenMinutes letGo).store.Holds 2 1 ∧
      ∃ i, (crowded.run Traffic.tenMinutes letGo).GoesOn Traffic.tenMinutes i := by
  have hrest : Traffic.oneSeat.AtRest := ⟨rfl, rfl⟩
  have hfirm : (crowded.run Traffic.tenMinutes letGo).Firm :=
    ((firm_ofStore Traffic.oneSeat .epoch).run crowd).run letGo
  have hnone : ∀ tx < 3, (crowded.run Traffic.tenMinutes letGo).hands tx = none := by
    decide +kernel
  have hnext : (crowded.run Traffic.tenMinutes letGo).store.nextTx = 3 := by decide +kernel
  have hhands : ∀ tx, (crowded.run Traffic.tenMinutes letGo).hands tx = none := by
    intro tx
    by_contra h
    exact h (hnone tx (hnext ▸ hfirm.hand_lt tx h))
  have hopen : ∃ v, (crowded.run Traffic.tenMinutes letGo).visits 1 = some v ∧
      v.stage = .fetching 2 := ⟨⟨.hold 1 8, .fetching 2⟩, by decide +kernel, rfl⟩
  obtain ⟨v, hv, hstage⟩ := hopen
  obtain ⟨-, -, -, hholds, -, -, -, -, hgoes⟩ :=
    @rows_are_handed_on Traffic.tenMinutes Traffic.oneSeat hrest .epoch crowd letGo
  refine ⟨hrest, by decide +kernel, (hholds 2 1).2 (by decide +kernel), ?_⟩
  refine (hgoes hhands).resolve_left fun hall => ?_
  obtain ⟨outcome, h⟩ := hall 1 v hv
  cases hstage.symm.trans h

end Bustle

end BoxOffice
