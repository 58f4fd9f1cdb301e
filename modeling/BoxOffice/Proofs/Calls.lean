import BoxOffice.Proofs.Ledger
import BoxOffice.Proofs.RowLocks

set_option autoImplicit false

namespace BoxOffice

open Engine (TxId Order Stage Outcome)

/-- No claim is made in the name of a transaction that has not begun. -/
def Store.Numbered (s : Store) : Prop := ∀ c ∈ s.claims, c.tx < s.nextTx

namespace Ledger

def repeated? (l : Ledger) (order : Order) : Option Booking :=
  order.key.bind fun key => l.bookings.find? fun b => b.HasKey order.userId key

/-- What an order is told whose row somebody else holds on to. -/
def turnAway (l : Ledger) (order : Order) : Outcome :=
  match l.repeated? order with
  | some b => .done (.booked b.id true)
  | none =>
    if (l.seats.get? order.seatId).isNone then .refused (.notFound "seat")
    else .refused .lockTimeout

/-- What comes of an order, by whether its row is held. -/
def meet (length : Span) (held : Bool) (l : Ledger) (order : Order) : Ledger × Outcome :=
  if held then (l, l.turnAway order) else l.serve length order

end Ledger

variable {length : Span} {now : Instant} {order : Order} {s s' : Store} {stage stage' : Stage}
variable {outcome : Outcome} {a b : TxId} {r : Int} {n : Nat}

theorem Store.holder_lt (h : s.Numbered) (hb : s.Holds b r) : b < s.nextTx :=
  h _ hb.mem_claims

theorem Engine.Order.Leads.keeps (h : order.Leads length now s stage s' outcome)
    (hn : n ≤ s.nextTx) (htx : ∀ tx ∈ stage.tx?, n ≤ tx) :
    n ≤ s'.nextTx ∧ ∀ b < n, ∀ r, s.Holds b r → s'.Holds b r := by
  -- What carries the induction: the transaction of the stage, if it has one, is not among the old.
  induction h with
  | finished => exact ⟨hn, fun _ _ _ hb => hb⟩
  | @step s stage s₁ stage₁ s' outcome ha hlt h ih =>
    have hspares : s.Spares stage.tx? (order.advance length s now stage).1 :=
      Engine.spares_advance s now order stage
    have hnext := Engine.tx?_advance length s now order stage
    rw [ha] at hspares hnext
    have hn₁ : n ≤ s₁.nextTx := Nat.le_trans hn hspares.nextTx
    have htx₁ : ∀ tx ∈ stage₁.tx?, n ≤ tx := by
      intro tx hmem
      rcases hnext with hnone | hsame | ⟨hnew, -⟩
      · simp [hnone] at hmem
      · exact htx tx (hsame ▸ hmem)
      · simp only [hnew, Option.mem_def, Option.some.injEq] at hmem
        exact hmem ▸ hn
    obtain ⟨hle, hkeeps⟩ := ih hn₁ htx₁
    refine ⟨hle, fun b hb r hholds => hkeeps b hb r (hspares.holds b r ?_ hholds)⟩
    intro he
    exact absurd (htx b he.symm) (Nat.not_le.2 hb)

theorem Store.holder_eq (hs : s.Numbered) (hsub : s'.claims ⊆ s.claims)
    (hkeeps : ∀ b < s.nextTx, ∀ r, s.Holds b r → s'.Holds b r) (r : Int) :
    s'.holder r = s.holder r := by
  cases hholder : s.holder r with
  | some b => exact hkeeps b (Store.holder_lt hs hholder) r hholder
  | none =>
    cases hholder' : s'.holder r with
    | none => rfl
    | some b =>
      have hb : s'.Holds b r := hholder'
      obtain ⟨c, hc⟩ := exists_holds_of_mem_claims (hsub hb.mem_claims)
      cases hholder.symm.trans hc

theorem Bustle.numbered_run (hs : s.AtRest) (clock : Instant) (events : List Bustle.Event) :
    ((Bustle.ofStore s clock).run length events).store.Numbered := by
  have hfirm : ((Bustle.ofStore s clock).run length events).Firm :=
    (Bustle.firm_ofStore s clock).run events
  have ho : ((Bustle.ofStore s clock).run length events).Orderly
      ([] ++ (Bustle.ofStore s clock).granted length events) :=
    (Bustle.orderly_ofStore hs clock).run (Bustle.firm_ofStore s clock) events
  intro c hc
  exact hfirm.lt_of_isOpen (ho.concerns c hc).isOpen

namespace Engine.Order

theorem repeated?_ledger (s : Store) (now : Instant) (order : Order) :
    (s.ledger now).repeated? order = order.key.bind (s.findBooking order.userId) := rfl

theorem unbooked_of_unrepeated (h : (s.ledger now).repeated? order = none) : order.Unbooked s := by
  intro key hkey
  rw [repeated?_ledger, hkey] at h
  exact h

theorem advance_lookUp {key : String} (hkey : order.key = some key)
    (h : (s.ledger now).repeated? order = none) :
    order.advance length s now (.lookUp key) = (s, .opening) := by
  simp only [advance, move, Store.perform, unbooked_of_unrepeated h key hkey]

theorem posts_repeated {b : Booking} (h : (s.ledger now).repeated? order = some b) :
    order.Posts s length now s order.first (s.ledger now, .done (.booked b.id true)) := by
  rw [repeated?_ledger, Option.bind_eq_some_iff] at h
  obtain ⟨key, hkey, hb⟩ := h
  have hfirst : order.first = .lookUp key := by simp only [first, hkey]
  have hsearch : order.advance length s now (.lookUp key) =
      (s, .finished (.done (.booked b.id true))) := by
    simp only [advance, move, Store.perform, hb]
  rw [hfirst]
  exact (posts_finished (List.Subset.refl _)).step hsearch (by simp [Stage.rank])

theorem Posts.first {entry : Ledger × Outcome} (h : (s.ledger now).repeated? order = none)
    (hp : order.Posts s length now s .opening entry) :
    order.Posts s length now s order.first entry := by
  cases hkey : order.key with
  | none =>
    have hfirst : order.first = .opening := by simp only [Order.first, hkey]
    rw [hfirst]
    exact hp
  | some key =>
    have hfirst : order.first = .lookUp key := by simp only [Order.first, hkey]
    rw [hfirst]
    exact hp.step (advance_lookUp hkey h) (by simp [Stage.rank])

theorem posts_missing (h : (s.ledger now).repeated? order = none)
    (hn : ¬s.Holds s.nextTx order.seatId) (hg : s.seats.get? order.seatId = none) :
    order.Posts s length now s order.first (s.ledger now, .refused (.notFound "seat")) :=
  (posts_opening_missing order (unbooked_of_unrepeated h) hn hg).first h

end Engine.Order

namespace Store

def waited (s : Store) (r : Int) : Store := (s.begin.1.claim s.nextTx r).finish s.nextTx

theorem claims_waited (h : s.Numbered) (r : Int) : (s.waited r).claims = s.claims := by
  have hmem : (⟨r, s.nextTx⟩ : Claim) ∉ s.begin.1.claims := fun hm => Nat.lt_irrefl _ (h _ hm)
  have hkept : s.claims.filter (fun c => c.tx ≠ s.nextTx) = s.claims :=
    List.filter_eq_self.2 fun c hc => decide_eq_true (Nat.ne_of_lt (h c hc))
  unfold waited claim finish
  rw [if_neg hmem]
  change (s.claims ++ [_]).filter _ = _
  rw [List.filter_append, hkept]
  simp

theorem ledger_waited (s : Store) (r : Int) (now : Instant) :
    (s.waited r).ledger now = s.ledger now := by
  unfold waited claim
  split <;> rfl

theorem numbered_waited (h : s.Numbered) (r : Int) : (s.waited r).Numbered := by
  have hnext : (s.waited r).nextTx = s.nextTx + 1 := by
    unfold waited claim
    split <;> rfl
  intro c hc
  rw [claims_waited h] at hc
  rw [hnext]
  exact Nat.lt_succ_of_lt (h c hc)

theorem holder_waited (h : s.Numbered) (r q : Int) : (s.waited r).holder q = s.holder q := by
  unfold holder
  rw [claims_waited h]

theorem claim_claim (s : Store) (a : TxId) (r : Int) : (s.claim a r).claim a r = s.claim a r := by
  have hmem : (⟨r, a⟩ : Claim) ∈ (s.claim a r).claims := by
    unfold claim
    split
    · assumption
    · exact List.mem_append_right _ (List.mem_singleton_self _)
  exact if_pos hmem

theorem fetch_of_held (h : s.Holds b r) (hne : b ≠ a) (hg : s.seats.get? r ≠ none) :
    s.fetch a r = (s.claim a r, none) := by
  have hother : ∀ {s' : Store}, s'.Holds b r → ¬s'.Holds a r :=
    fun hb ha => hne (Option.some.inj (hb.symm.trans ha))
  unfold fetch
  rw [if_neg (hother h), if_neg (by simpa using hg)]
  exact if_neg (hother (h.claim a r))

end Store

namespace Office

variable {o o' : Office} {deadline : Nat}

theorem serve_of_wait {request : Engine.Request} {next : request.Reply → Stage}
    (hm : order.move o.rules.holdLength stage = .ask request next)
    (hp : o.perform request = (o', none)) :
    o.serve deadline order stage =
      if stage.isWaiting = true ∧ deadline ≤ o'.elapsed then o'.serve deadline order stage.expire
      else (o', .error stage) := by
  rw [Office.serve]
  split
  · rename_i h
    cases hm.symm.trans h
  · rename_i h
    cases hm.symm.trans h
    split
    · rename_i hreply
      cases hp.symm.trans hreply
    · rename_i hwait
      cases hp.symm.trans hwait
      rfl

theorem serve_of_held (hk : o.keeping = .memory) (hheld : o.store.Holds b order.seatId)
    (hne : b ≠ a) (hg : o.store.seats.get? order.seatId ≠ none) :
    o.serve deadline order (.fetching a) =
      if deadline ≤ o.elapsed then
        ({ o with store := (o.store.claim a order.seatId).finish a }, .ok (.refused .lockTimeout))
      else ({ o with store := o.store.claim a order.seatId }, .error (.fetching a)) := by
  let queued : Office := { o with store := o.store.claim a order.seatId }
  have hp : o.perform (.fetch a order.seatId) = (queued, none) := by
    rw [perform_of_memory hk]
    simp only [Store.perform, Store.fetch_of_held hheld hne hg]
    rfl
  rw [serve_of_wait rfl hp]
  simp only [Stage.isWaiting, Stage.expire, true_and]
  split
  · have hdiscard : queued.perform (.discard a) =
        ({ o with store := (o.store.claim a order.seatId).finish a }, some ()) :=
      perform_of_memory (o := queued) hk _
    rw [serve_of_reply rfl hdiscard]
    exact serve_of_answer rfl
  · rfl

theorem serve_first (hk : o.keeping = .memory)
    (hunrepeated : (o.store.ledger o.clock).repeated? order = none) :
    o.serve deadline order order.first =
      { o with store := o.store.begin.1 }.serve deadline order (.fetching o.store.nextTx) := by
  have hopening : o.serve deadline order order.first = o.serve deadline order .opening := by
    unfold Order.first
    split
    · rename_i key hkey
      exact serve_of_advance hk (Order.advance_lookUp hkey hunrepeated) (by simp [Stage.rank])
    · rfl
  rw [hopening]
  exact serve_of_advance hk rfl (by simp [Stage.rank])

theorem poll_of_serve {t : Task} {outcome : Outcome} (hl : t.limit = none)
    (h : o.serve t.deadline t.order t.stage = (o', .ok outcome)) :
    o.poll t = (o', .answered (.outcome outcome)) := by
  unfold Office.poll
  simp only [hl, Option.any_none, Bool.false_eq_true, if_false, h, Task.answer]

theorem poll_of_wait {t : Task} (hl : t.limit = none)
    (h : o.serve t.deadline t.order t.stage = (o', .error stage)) :
    o.poll t = (o', .waiting { t with stage }) := by
  unfold Office.poll
  simp only [hl, Option.any_none, Bool.false_eq_true, if_false, h]

theorem call_of_wait {o'' : Office} {c : Call} {t : Task} {answer : Answer}
    (hs : o.start c = (o', .waiting t))
    (hp : { o' with elapsed := t.latest }.poll t = (o'', .answered answer)) :
    o.call c = (o'', answer) := by
  unfold Office.call
  rw [hs]
  simp only [hp]

theorem call_of_held (hk : o.keeping = .memory) (hnum : o.store.Numbered)
    (hunrepeated : (o.store.ledger o.clock).repeated? order = none)
    (hheld : o.store.Holds b order.seatId) (hg : o.store.seats.get? order.seatId ≠ none) :
    ∃ elapsed, o.call (.order order) =
      ({ o with store := o.store.waited order.seatId, elapsed },
        .outcome (.refused .lockTimeout)) := by
  have hne : b ≠ o.store.nextTx := Nat.ne_of_lt (Store.holder_lt hnum hheld)
  let begun : Office := { o with store := o.store.begin.1 }
  have hserve : o.serve (o.elapsed + o.rules.lockWait) order order.first = _ :=
    (serve_first hk hunrepeated).trans (serve_of_held (o := begun) hk hheld hne hg)
  by_cases hwait : o.rules.lockWait = 0
  · rw [if_pos (by simp [begun, hwait])] at hserve
    exact ⟨o.elapsed, call_of_serve hserve⟩
  · -- The one poll that follows comes at the deadline, and meets the same holder.
    rw [if_neg (by simp [begun]; omega)] at hserve
    let queued : Store := o.store.begin.1.claim o.store.nextTx order.seatId
    let late : Office := { o with store := queued, elapsed := o.elapsed + o.rules.lockWait }
    have hqueued : queued.Holds b order.seatId :=
      Store.Holds.claim (s := o.store.begin.1) hheld o.store.nextTx order.seatId
    have hrow : queued.seats.get? order.seatId ≠ none := by
      rw [Store.seats_claim]
      exact hg
    have hlate : late.serve (o.elapsed + o.rules.lockWait) order (.fetching o.store.nextTx) =
        ({ late with store := o.store.waited order.seatId }, .ok (.refused .lockTimeout)) := by
      rw [serve_of_held (o := late) hk hqueued hne hrow, if_pos (Nat.le_refl _),
        Store.claim_claim]
      rfl
    let task : Task := ⟨order, order.first, o.elapsed + o.rules.lockWait, none⟩
    let waiting : Task := { task with stage := .fetching o.store.nextTx }
    have hstart : o.start (.order order) = ({ o with store := queued }, .waiting waiting) :=
      poll_of_wait (t := task) rfl hserve
    have hpoll : late.poll waiting = ({ late with store := o.store.waited order.seatId },
        .answered (.outcome (.refused .lockTimeout))) :=
      poll_of_serve (t := waiting) rfl hlate
    exact ⟨o.elapsed + o.rules.lockWait, call_of_wait hstart hpoll⟩

/-- The call is answered so, the ledger reads so then, and the rows are in the same hands as
before. -/
def Comes (o : Office) (order : Order) (entry : Ledger × Outcome) : Prop :=
  ∃ s' elapsed, o.call (.order order) = ({ o with store := s', elapsed }, .outcome entry.2) ∧
    s'.ledger o.clock = entry.1 ∧ s'.Numbered ∧ ∀ r, s'.holder r = o.store.holder r

theorem comes_of_posts {entry : Ledger × Outcome} (hk : o.keeping = .memory)
    (hnum : o.store.Numbered)
    (hposts : order.Posts o.store o.rules.holdLength o.clock o.store order.first entry) :
    o.Comes order entry := by
  obtain ⟨s', hleads, hledger, hclaims⟩ := hposts
  have hnone : order.first.tx? = none := by
    unfold Order.first
    split <;> rfl
  obtain ⟨hle, hkeeps⟩ := hleads.keeps (Nat.le_refl _) (by simp [hnone])
  refine ⟨s', o.elapsed, call_of_serve (serve_of_leads hleads hk rfl rfl rfl), hledger, ?_,
    Store.holder_eq hnum hclaims hkeeps⟩
  exact fun c hc => Nat.lt_of_lt_of_le (hnum c (hclaims hc)) hle

theorem call_comes (hk : o.keeping = .memory) (hnum : o.store.Numbered) (order : Order) :
    o.Comes order ((o.store.ledger o.clock).meet o.rules.holdLength
      (o.store.holder order.seatId).isSome order) := by
  cases hheld : o.store.holder order.seatId with
  | none => exact comes_of_posts hk hnum (Order.posts_first order hheld)
  | some b =>
    have hne : ¬o.store.Holds o.store.nextTx order.seatId :=
      fun h => Nat.lt_irrefl _ (Store.holder_lt hnum h)
    simp only [Ledger.meet, Option.isSome_some, if_true]
    unfold Ledger.turnAway
    cases hrepeated : (o.store.ledger o.clock).repeated? order with
    | some booking => exact comes_of_posts hk hnum (Order.posts_repeated hrepeated)
    | none =>
      cases hg : o.store.seats.get? order.seatId with
      | none =>
        have hrow : ((o.store.ledger o.clock).seats.get? order.seatId).isNone = true := by
          simp [Store.ledger, hg]
        simp only [hrow, if_true]
        exact comes_of_posts hk hnum (Order.posts_missing hrepeated hne hg)
      | some seat =>
        have hrow : ((o.store.ledger o.clock).seats.get? order.seatId).isNone = false := by
          simp [Store.ledger, hg]
        simp only [hrow, Bool.false_eq_true, if_false]
        obtain ⟨elapsed, hcall⟩ := call_of_held hk hnum hrepeated hheld (by simp [hg])
        exact ⟨_, elapsed, hcall, Store.ledger_waited _ _ _, Store.numbered_waited hnum _,
          Store.holder_waited hnum _⟩

theorem start_of_free (hk : o.keeping = .memory) (order : Order)
    (hfree : o.store.holder order.seatId = none) :
    ∃ s', o.start (.order order) = ({ o with store := s' }, .answered (.outcome
      ((o.store.ledger o.clock).serve o.rules.holdLength order).2)) := by
  have hposts : order.Posts o.store o.rules.holdLength o.clock o.store order.first _ :=
    Order.posts_first order hfree
  obtain ⟨s', hleads, -⟩ := hposts
  let task : Task := ⟨order, order.first, o.elapsed + o.rules.lockWait, none⟩
  exact ⟨s', poll_of_serve (t := task) rfl (serve_of_leads hleads hk rfl rfl rfl)⟩

end Office

end BoxOffice
