import BoxOffice.Proofs.Commits
import BoxOffice.Proofs.HoldPromise
import BoxOffice.Proofs.Ownership
import BoxOffice.Proofs.Progress

set_option autoImplicit false

/-!
# What fails leaves no trace

An order that is refused, and one that is abandoned while it waits for its row, has changed nothing,
and no row remembers it. A purchase that fails at its booking or at its commit therefore leaves the
buyer's hold as it was, and when he orders once more nothing stands in his way but what would have
stood there anyhow.
-/

namespace BoxOffice

open Engine (TxId Order Stage Gain Outcome Advance)
open Function (update)

namespace Store

variable {s : Store} {a : TxId}

theorem commit_of_error {e : BookingError} (h : (s.commit a).2 = .error e) :
    (s.commit a).1 = s.finish a := by
  rw [commit_eq] at h ⊢
  split_ifs at h ⊢
  · rfl
  · rfl

theorem insert_of_error {sale : Sale} {e : BookingError} (h : (s.insert a sale).2 = .error e) :
    (s.insert a sale).1 = s := by
  simp only [insert] at h ⊢
  split_ifs at h ⊢
  · rfl
  · rfl

end Store

namespace Engine

variable {length : Span} {s s' : Store} {now : Instant} {order : Order} {stage stage' : Stage}
variable {showId r user : Int} {givenKey : Option String} {since : Instant} {seat : Seat}

/-- The stages of a purchase of this seat, as long as nothing speaks against it. -/
inductive Retries (seat : Seat) : Stage → Prop
  | lookUp {key} : Retries seat (.lookUp key)
  | opening : Retries seat .opening
  | fetching {tx} : Retries seat (.fetching tx)
  | deciding {tx} : Retries seat (.deciding tx seat)
  | writing {tx r now} : Retries seat (.writing tx r now)
  | recording {tx sale} : Retries seat (.recording tx sale)
  | committing {tx gain} : Retries seat (.committing tx gain)
  | undoing {tx} : Retries seat (.undoing tx .keyTaken)
  | lookAgain {key} : Retries seat (.lookAgain key .keyTaken)
  | finished {id replayed} : Retries seat (.finished (.done (.booked id replayed)))

theorem retries_first (seat : Seat) (order : Order) : Retries seat order.first := by
  unfold Order.first
  split
  · exact .lookUp
  · exact .opening

theorem rank_first_le (order : Order) : order.first.rank ≤ 9 := by
  unfold Order.first
  split <;> simp [Stage.rank]

/-- What an order needs of its surroundings when it makes its next request at this stage: the seat
as it was and its row free, the time of the hold not over, and no fault. -/
def Clear (length : Span) (seat : Seat) (since : Instant) (s : Store) (now : Instant)
    (order : Order) : Stage → Prop
  | .fetching tx => s.seats.get? order.seatId = some seat ∧
      ∀ c ∈ s.claims, c.seatId = order.seatId → c.tx = tx
  | .deciding _ _ => ¬Hold.isExpired since now length
  | .recording _ _ => s.faults.inserts = false
  | .committing _ _ => s.faults.commits = false
  | _ => True

instance : Decidable (Clear length seat since s now order stage) := by
  unfold Clear
  split <;> infer_instance

theorem Retries.next (hr : Retries seat stage)
    (hs : Sound length s (.buy showId r user givenKey) stage)
    (hl : seat.state = .locked since user) (hh : seat.showId = showId)
    (hc : Clear length seat since s now (.buy showId r user givenKey) stage)
    (ha : Advance length s now (.buy showId r user givenKey) stage s' stage') :
    Retries seat stage' ∧ stage'.rank ≤ stage.rank - 1 := by
  -- A refusal for a taken key comes to an order with a key, and sends it to look for the booking.
  have again : ∀ {key}, (Order.buy showId r user givenKey).key = some key →
      (Order.buy showId r user givenKey).refuse .keyTaken = .lookAgain key .keyTaken := by
    intro key hk
    rw [refuse_of_key hk, if_pos (Or.inl rfl)]
  cases hr with
  | lookUp =>
    cases ha with
    | found => exact ⟨.finished, by simp [Stage.rank]⟩
    | unknown => exact ⟨.opening, by simp [Stage.rank]⟩
  | opening =>
    cases ha with
    | begun => exact ⟨.fetching, by simp [Stage.rank]⟩
  | fetching =>
    obtain ⟨hg, halone⟩ := hc
    have hseats := (ha.data (by rintro tx gain ⟨⟩)).1
    cases ha with
    | granted hs' hg' =>
      have hsame := hg'.get?
      rw [hseats] at hsame
      obtain rfl := Option.some.inj (hsame.symm.trans hg)
      exact ⟨.deciding, by simp [Stage.rank]⟩
    | missing hn =>
      rw [hg] at hn
      cases hn
    | waits hw => exact absurd (Store.holds_claim_of_alone halone) hw
  | deciding =>
    have hok : (Order.buy showId r user givenKey).admits length seat now = .ok () :=
      admits_buy_iff.2 ⟨⟨since, hl, hc⟩, hh⟩
    cases ha with
    | admitted => exact ⟨.writing, by simp [Stage.rank]⟩
    | rejected hno =>
      rw [hok] at hno
      cases hno
  | writing =>
    cases ha with
    | saleWritten => exact ⟨.recording, by simp [Stage.rank]⟩
  | recording =>
    cases ha with
    | insertFailed hf =>
      rw [show s.faults.inserts = false from hc] at hf
      cases hf
    | insertTaken => exact ⟨.undoing, by simp [Stage.rank]⟩
    | inserted => exact ⟨.committing, by simp [Stage.rank]⟩
  | committing =>
    cases ha with
    | commitFailed hf =>
      rw [show s.faults.commits = false from hc] at hf
      cases hf
    | commitTaken hk =>
      cases hs with
      | selling =>
        obtain ⟨key, hkey, -⟩ := (Store.keyTaken_eq_true_iff _ _ _).1 hk
        rw [again hkey]
        exact ⟨.lookAgain, by simp [Stage.rank]⟩
    | saleCommitted => exact ⟨.finished, by simp [Stage.rank]⟩
  | undoing =>
    cases ha with
    | undone =>
      cases hs with
      | undoing he =>
        obtain ⟨key, hkey, -⟩ := he rfl
        rw [again hkey]
        exact ⟨.lookAgain, by simp [Stage.rank]⟩
  | lookAgain =>
    cases ha with
    | foundAgain => exact ⟨.finished, by simp [Stage.rank]⟩
    | unknownAgain hn =>
      cases hs with
      | lookAgain hk he =>
        obtain ⟨key, hkey, b, hm, hb⟩ := he rfl
        obtain rfl := Option.some.inj (hkey.symm.trans hk)
        exact absurd hb ((Store.findBooking_eq_none_iff _ _ _).1 hn b hm)
  | finished =>
    cases ha with
    | finished => exact ⟨.finished, Nat.zero_le _⟩

end Engine

namespace Traffic

variable {length : Span} {s : Store} {t t' : Traffic} {e : Event} {events : List Event}
variable {i k : Nat} {showId r user : Int} {givenKey : Option String} {since : Instant}
variable {seat : Seat} {order : Order} {stage : Stage}

/-- The visit has been refused, or it has left while it waited. -/
def Failed (t : Traffic) (i : Nat) : Prop :=
  (∃ order e, t.visits i = some ⟨order, .finished (.refused e)⟩) ∨
    i < t.arrivals ∧ t.visits i = none

theorem Failed.not_owns {tx : TxId} (h : t.Failed i) : ¬t.Owns i tx := by
  rintro ⟨v, hv, htx⟩
  rcases h with ⟨order, e, hi⟩ | ⟨-, hi⟩
  · obtain rfl := Option.some.inj (hv.symm.trans hi)
    cases htx
  · cases hv.symm.trans hi

theorem Happens.data_of_failed (hh : Happens length t e t') (ht' : t'.Sound length)
    (he : e = .go i ∨ e = .expire i ∨ e = .leave i) (hf : (t'.run length events).Failed i) :
    t'.store.seats = t.store.seats ∧ t'.store.bookings = t.store.bookings := by
  cases hh with
  | goes hv ha =>
    rename_i j v s' stage'
    obtain rfl : j = i := by simpa using he
    rcases commits_or_data hv ha with ⟨-, gain, rfl⟩ | hdata
    · -- Its commit would have been answered, and answers are final.
      have hi := ht'.finished_run (Function.update_self _ _ _) events
      rcases hf with ⟨order, e, hi'⟩ | ⟨-, hi'⟩
      · have hstage := congrArg Visit.stage (Option.some.inj (hi.symm.trans hi'))
        exact absurd (Stage.finished.inj hstage) (gain.outcome_ne_refused length e)
      · cases hi.symm.trans hi'
    · exact hdata
  | leaves => exact ⟨seats_deserted _ _, bookings_deserted _ _⟩
  | arrives | expires | clock | faults | nothing => exact ⟨rfl, rfl⟩

/-- From a request of the visit that fails, to insert its booking or to commit, to the end of its
transaction. -/
inductive FailsToBook (t : Traffic) (i : Nat) (order : Order) : List Event → Prop
  | insert {tx sale e wait} (hi : t.visits i = some ⟨order, .recording tx sale⟩)
      (he : (t.store.insert tx sale).2 = .error e) (hw : .go i ∉ wait) :
      FailsToBook t i order (.go i :: (wait ++ [.go i]))
  | commit {tx gain e} (hi : t.visits i = some ⟨order, .committing tx gain⟩)
      (he : (t.store.commit tx).2 = .error e) : FailsToBook t i order [.go i]

theorem step_of_advance {s' : Store} {stage' : Stage} (hi : t.visits i = some ⟨order, stage⟩)
    (ha : order.advance length t.store t.clock stage = (s', stage')) :
    t.step length (.go i) =
      { t with store := s', visits := update t.visits i (some ⟨order, stage'⟩) } := by
  simp only [step, go, hi, ha]

theorem advance_of_insert_error {now : Instant} {tx : TxId} {sale : Sale} {e : BookingError}
    (he : (s.insert tx sale).2 = .error e) :
    order.advance length s now (.recording tx sale) = (s, .undoing tx e) := by
  have hi : s.insert tx sale = (s, .error e) := Prod.ext (Store.insert_of_error he) he
  simp only [Order.advance, Order.move, Store.perform, hi]

theorem advance_of_commit_error {now : Instant} {tx : TxId} {gain : Gain} {e : BookingError}
    (he : (s.commit tx).2 = .error e) :
    order.advance length s now (.committing tx gain) = (s.finish tx, order.refuse e) := by
  have hc : s.commit tx = (s.finish tx, .error e) := Prod.ext (Store.commit_of_error he) he
  simp only [Order.advance, Order.move, Store.perform, hc]

theorem FailsToBook.leaves_hold (hf : t.FailsToBook i (.buy showId r user givenKey) events)
    (ht : t.Sound length) :
    ∃ seat since e, t.store.seats.get? r = some seat ∧ seat.state = .locked since user ∧
      seat.showId = showId ∧ (t.run length events).store.seats.get? r = some seat ∧
      (t.run length events).visits i = some ⟨.buy showId r user givenKey,
        (Order.buy showId r user givenKey).refuse e⟩ := by
  cases hf with
  | commit hi he =>
    cases ht.stage i _ hi with
    | selling hg ha hs =>
      obtain ⟨⟨since, hl, -⟩, hh⟩ := Engine.admits_buy_iff.1 ha
      rw [run_cons, run_nil, step_of_advance hi (advance_of_commit_error he)]
      exact ⟨_, since, _, hg.get?, hl, hh, hg.get?, Function.update_self _ _ _⟩
  | insert hi he hw =>
    rename_i tx sale e wait
    cases ht.stage i _ hi with
    | recording hg ha hs =>
      rename_i seat now
      obtain ⟨⟨since, hl, -⟩, hh⟩ := Engine.admits_buy_iff.1 ha
      have ht₁ : (t.step length (.go i)).Sound length := ht.step _
      have hstep : t.step length (.go i) = _ := step_of_advance hi (advance_of_insert_error he)
      have hi₁ : (t.step length (.go i)).visits i =
          some ⟨.buy showId r user givenKey, .undoing tx e⟩ := by
        rw [hstep]
        exact Function.update_self _ _ _
      have hg₁ : (t.step length (.go i)).store.Grips tx r seat := by
        rw [hstep]
        exact hg
      -- Until the transaction is rolled back, it keeps its row.
      have hi₂ := ht₁.stays hi₁ rfl hw
      have hg₂ : ((t.step length (.go i)).run length wait).store.Grips tx r seat := by
        rcases Owns.run ⟨_, hi₁, rfl⟩ ht₁ wait with ⟨-, hkeeps⟩ | hover
        · exact hkeeps r seat hg₁
        · exact absurd rfl (hover.unowned i _ hi₂)
      rw [run_cons, run_append, run_cons, run_nil, step_of_advance hi₂ rfl]
      exact ⟨seat, since, e, hg.get?, hl, hh, hg₂.get?, Function.update_self _ _ _⟩

def Unhindered (length : Span) (seat : Seat) (since : Instant) (k : Nat) (t : Traffic) (e : Event) :
    Prop :=
  e ≠ .expire k ∧ e ≠ .leave k ∧ (e = .go k →
    ∀ v ∈ t.visits k, Engine.Clear length seat since t.store t.clock v.order v.stage)

instance : Decidable (Unhindered length seat since k t e) := inferInstanceAs (Decidable (_ ∧ _))

theorem Sound.retries_step (ht : t.Sound length) (hl : seat.state = .locked since user)
    (hh : seat.showId = showId) (hk : t.visits k = some ⟨.buy showId r user givenKey, stage⟩)
    (hr : Engine.Retries seat stage) (hu : Unhindered length seat since k t e) :
    ∃ stage', (t.step length e).visits k = some ⟨.buy showId r user givenKey, stage'⟩ ∧
      Engine.Retries seat stage' ∧ stage'.rank ≤ stage.rank - [e].count (.go k) := by
  obtain ⟨hexpire, hleave, hclear⟩ := hu
  by_cases hgo : e = .go k
  · subst e
    obtain ⟨s', stage', ha, hstep⟩ := ht.step_go hk
    obtain ⟨hr', hrank⟩ := hr.next (ht.stage k _ hk) hl hh (hclear rfl _ hk) ha
    rw [List.count_singleton_self, hstep]
    exact ⟨stage', Function.update_self _ _ _, hr', hrank⟩
  · rw [List.count_singleton, beq_eq_false_iff_ne.2 hgo]
    refine ⟨stage, ?_, hr, Nat.le_refl _⟩
    rcases ht.visit (happens ht e) hk with h | ⟨h, -⟩ | ⟨-, ⟨h, -⟩ | ⟨h, -⟩⟩
    · exact h
    · exact absurd h hgo
    · exact absurd h hexpire
    · exact absurd h hleave

theorem Sound.retried (ht : t.Sound length) (hl : seat.state = .locked since user)
    (hh : seat.showId = showId)
    (hu : Along length (Unhindered length seat since t.arrivals)
      (t.step length (.arrive (.buy showId r user givenKey))) events) :
    let order := Order.buy showId r user givenKey
    let t' := (t.step length (.arrive order)).run length events
    (∀ outcome, t'.visits t.arrivals = some ⟨order, .finished outcome⟩ →
      ∃ id replayed, outcome = .done (.booked id replayed)) ∧
    (9 ≤ events.count (.go t.arrivals) →
      ∃ outcome, t'.visits t.arrivals = some ⟨order, .finished outcome⟩) := by
  intro order t'
  have hk : (t.step length (.arrive order)).visits t.arrivals = some ⟨order, order.first⟩ :=
    Function.update_self _ _ _
  obtain ⟨stage, hk', hr, hrank⟩ := (ht.step (.arrive order)).rank_run hk
    (Engine.retries_first seat order) hu fun ht hk hr hu => ht.retries_step hl hh hk hr hu
  have hfirst := Engine.rank_first_le order
  constructor
  · intro outcome hout
    obtain ⟨-, rfl⟩ := Visit.mk.inj (Option.some.inj (hk'.symm.trans hout))
    cases hr
    exact ⟨_, _, rfl⟩
  · intro hcount
    obtain ⟨outcome, rfl⟩ := Engine.finished_of_rank (show stage.rank = 0 by omega)
    exact ⟨outcome, hk'⟩

/-- Whoever is refused, or leaves while he waits for a row, has changed no seat and no booking at
any of his steps, and his transactions stand in no queue. A purchase that fails to insert its
booking or to commit leaves the seat locked as it was, and the same order comes to a booking when it
arrives once more and nothing is in its way. -/
theorem failure_leaves_no_trace (hs : s.AtRest) (clock : Instant) (events : List Event) :
    let start := ofStore s clock
    let t := start.run length events
    (∀ i, t.Failed i →
      (∀ before e after, events = before ++ e :: after →
        e = .go i ∨ e = .expire i ∨ e = .leave i →
        let t₀ := start.run length before
        (t₀.step length e).store.seats = t₀.store.seats ∧
          (t₀.step length e).store.bookings = t₀.store.bookings) ∧
      ∀ before after tx, events = before ++ after → (start.run length before).Owns i tx →
        ∀ r, ¬t.store.Holds tx r ∧ ⟨r, tx⟩ ∉ t.store.claims) ∧
    ∀ i showId r user givenKey failing,
      let order := Order.buy showId r user givenKey
      let t' := t.run length failing
      t.FailsToBook i order failing →
        ∃ seat since e, t.store.seats.get? r = some seat ∧ seat.state = .locked since user ∧
          t'.store.seats.get? r = some seat ∧ t'.visits i = some ⟨order, order.refuse e⟩ ∧
          ∀ mid later,
            let k := (t'.run length mid).arrivals
            let t₁ := (t'.run length mid).step length (.arrive order)
            let t₂ := t₁.run length later
            Along length (Unhindered length seat since k) t₁ later →
            (∀ outcome, t₂.visits k = some ⟨order, .finished outcome⟩ →
              ∃ id replayed, outcome = .done (.booked id replayed)) ∧
            (9 ≤ later.count (.go k) →
              ∃ outcome, t₂.visits k = some ⟨order, .finished outcome⟩) := by
  intro start t
  have hstart : start.Sound length := sound_ofStore hs clock
  have ht : t.Sound length := hstart.run events
  refine ⟨fun i hi => ⟨?_, ?_⟩, ?_⟩
  · rintro before e after rfl he
    have ht₀ := hstart.run before
    have hrun : t = ((start.run length before).step length e).run length after := run_append _ _
    rw [hrun] at hi
    exact (happens ht₀ e).data_of_failed (ht₀.step e) he hi
  · rintro before after tx rfl howns r
    have hrun : t = (start.run length before).run length after := run_append _ _
    have hover : t.Over tx := by
      rcases howns.run (hstart.run before) after with ⟨h, -⟩ | hover
      · rw [← hrun] at h
        exact absurd h hi.not_owns
      · rwa [← hrun] at hover
    have hfree : ⟨r, tx⟩ ∉ t.store.claims := fun hm => hover.not_claimed ht _ hm rfl
    exact ⟨fun hh => hfree hh.mem_claims, hfree⟩
  · intro i showId r user givenKey failing order t' hf
    obtain ⟨seat, since, e, hg, hl, hh, hg', hi'⟩ := hf.leaves_hold ht
    refine ⟨seat, since, e, hg, hl, hg', hi', ?_⟩
    exact fun mid later hu => ((ht.run failing).run mid).retried hl hh hu

def keyedPurchase : Order := .buy 5 1 7 (some "k")

def insertFault : List Event :=
  [.arrive (.hold 1 7), .go 0, .go 0, .go 0, .go 0, .go 0, .arrive keyedPurchase,
    .go 1, .go 1, .go 1, .go 1, .go 1, .faults ⟨true, false⟩]

def retry : List Event := .replicate 9 (.go 2)

def onceFaulty : Traffic := (ofStore oneSeat .epoch).run tenMinutes insertFault

def onceFailed : Traffic := onceFaulty.run tenMinutes (.go 1 :: ([] ++ [.go 1]))

theorem failure_leaves_no_trace_retry :
    oneSeat.AtRest ∧ onceFailed.Failed 1 ∧ (∀ r, ¬onceFailed.store.Holds 1 r) ∧
      onceFaulty.FailsToBook 1 keyedPurchase (.go 1 :: ([] ++ [.go 1])) ∧
      ∃ id replayed, (((onceFailed.run tenMinutes [.faults ⟨false, false⟩]).step tenMinutes
        (.arrive keyedPurchase)).run tenMinutes retry).visits 2 =
          some ⟨keyedPurchase, .finished (.done (.booked id replayed))⟩ := by
  have hrest : oneSeat.AtRest := ⟨rfl, rfl⟩
  have hfailed : onceFailed.Failed 1 :=
    Or.inl ⟨keyedPurchase, .unavailable "booking insert failed", by decide +kernel⟩
  have hrecording : onceFaulty.visits 1 =
      some ⟨keyedPurchase, .recording 1 ⟨7, 5, 1, some "k"⟩⟩ := by
    decide +kernel
  have herror : (onceFaulty.store.insert 1 ⟨7, 5, 1, some "k"⟩).2 =
      .error (.unavailable "booking insert failed") := by
    decide +kernel
  have hfails : onceFaulty.FailsToBook 1 keyedPurchase (.go 1 :: ([] ++ [.go 1])) :=
    .insert hrecording herror nofun
  have hseat : onceFaulty.store.seats.get? 1 = some ⟨1, 5, "A1", .locked .epoch 7⟩ := by
    decide +kernel
  have hk : (onceFailed.run tenMinutes [.faults ⟨false, false⟩]).arrivals = 2 := by
    decide +kernel
  have howns : onceFaulty.Owns 1 1 := ⟨_, hrecording, rfl⟩
  have hfaulty : (ofStore oneSeat .epoch).run tenMinutes insertFault = onceFaulty := rfl
  have hrun : (ofStore oneSeat .epoch).run tenMinutes
      (insertFault ++ (.go 1 :: ([] ++ [.go 1]))) = onceFailed := run_append _ _
  have hfree : ∀ r, ¬onceFailed.store.Holds 1 r := by
    have hfailed' := hfailed
    have howns' := howns
    rw [← hrun] at hfailed'
    rw [← hfaulty] at howns'
    have hfree := ((failure_leaves_no_trace hrest .epoch _).1 1 hfailed').2 insertFault _ 1 rfl
      howns'
    rw [hrun] at hfree
    exact fun r => (hfree r).1
  have hfails' := hfails
  rw [← hfaulty] at hfails'
  obtain ⟨seat, since, e, hg, hl, -, -, hretry⟩ :=
    (failure_leaves_no_trace hrest .epoch insertFault).2 1 5 1 7 (some "k") _ hfails'
  rw [hfaulty] at hg hretry
  obtain rfl := Option.some.inj (hg.symm.trans hseat)
  cases hl
  have hfailing : onceFaulty.run tenMinutes (.go 1 :: ([] ++ [.go 1])) = onceFailed := rfl
  have h := hretry [.faults ⟨false, false⟩] retry
  simp only [hfailing, hk] at h
  obtain ⟨hdone, hends⟩ := h (by decide +kernel)
  obtain ⟨outcome, hout⟩ := hends (by decide)
  obtain ⟨id, replayed, rfl⟩ := hdone outcome hout
  exact ⟨hrest, hfailed, hfree, hfails, id, replayed, hout⟩

end Traffic

end BoxOffice
