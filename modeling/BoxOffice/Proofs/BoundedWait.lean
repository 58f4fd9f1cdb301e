import BoxOffice.Proofs.Keepers

set_option autoImplicit false

/-!
# Only the wait for the row is bounded

An order begins to wait when it asks for a transaction. If it gets its row in time, or is denied
it in time, the bound on the wait makes no difference any more, however long the keeper takes over
the rest. Otherwise the order lets go of its transaction as soon as the time is up.
-/

namespace BoxOffice.Engine

variable {σ : Type} {k : Keeper σ} {length : Span} {wait : Option Nat} {order : Order}
variable {stage : Stage} {s : σ} {time since w : Nat} {tx : TxId} {e : BookingError}
variable {request : Request} {next : request.Reply → Stage}

/-- The order has its row, or will not get it. -/
def Stage.isPastRow : Stage → Bool
  | lookUp _ | opening | fetching _ | withdrawing _ _ => false
  | _ => true

theorem Stage.not_waiting_of_past (h : stage.isPastRow = true) : stage.isWaiting = false := by
  cases stage <;> simp_all [Stage.isPastRow, Stage.isWaiting]

theorem isPastRow_refuse (order : Order) (e : BookingError) :
    (order.refuse e).isPastRow = true := by
  unfold Order.refuse
  split
  · split <;> rfl
  · rfl

theorem isPastRow_next (hm : order.move length stage = .ask request next)
    (h : stage.isPastRow = true) (reply : request.Reply) : (next reply).isPastRow = true := by
  cases stage <;> simp only [Stage.isPastRow, Bool.false_eq_true] at h <;>
    simp only [Order.move] at hm <;> cases hm
  case deciding tx seat =>
    simp only
    split <;> rfl
  case writing tx seatId now =>
    rcases reply with e | _
    · rfl
    · cases order <;> rfl
  case recording => rcases reply with e | booking <;> rfl
  case committing =>
    rcases reply with e | _
    · exact isPastRow_refuse order e
    · rfl
  case undoing tx e => exact isPastRow_refuse order e
  case givingUp => rfl
  case lookAgain => rcases reply with e | (_ | booking) <;> rfl

namespace Keeper

theorem serve_of_past (h : stage.isPastRow = true) :
    k.serve length wait order s time since stage =
      k.serve length none order s time since stage := by
  fun_induction Keeper.serve k length wait order s time since stage with
  | case1 s time since stage outcome hm => rw [serve_of_answer hm]
  | case2 s time since stage request next hm t hc ih =>
    rw [Stage.cutAt?_of_not_waiting (Stage.not_waiting_of_past h)] at hc
    cases hc
  | case3 s time since stage request next hm hc ih =>
    rw [serve_of_reply hm Stage.cutAt?_none, ih (isPastRow_next hm h _)]

/-- How long it takes until the row is granted, or until the transaction has been rolled back in
which it was not. -/
def fetchTime (k : Keeper σ) (order : Order) (s : σ) (tx : TxId) : Nat :=
  k.delay s (.fetch tx order.seatId) +
    match k.reply s (.fetch tx order.seatId) with
    | .ok _ => 0
    | .error _ => k.delay (k.next s (.fetch tx order.seatId)) (.rollback tx)

def rowTime (k : Keeper σ) (order : Order) (s : σ) : Nat :=
  k.delay s .begin +
    match k.reply s .begin with
    | .ok tx => k.fetchTime order (k.next s .begin) tx
    | .error _ => 0

/-- When an order begins to wait for its row, and what is kept then. An order does not wait that is
answered without, because of an earlier booking or because it cannot be found out whether there is
one. -/
def start? (k : Keeper σ) (order : Order) (s : σ) : Option (Nat × σ) :=
  match order.key with
  | none => some (0, s)
  | some key =>
    match k.reply s (.find order.userId key) with
    | .ok none => some (k.delay s (.find order.userId key), k.next s (.find order.userId key))
    | .ok (some _) | .error _ => none

theorem attend_of_start?_eq_none (h : k.start? order s = none) :
    k.attend length wait order s = k.attend length none order s := by
  unfold start? at h
  cases hk : order.key with
  | none => simp [hk] at h
  | some key =>
    have hfirst : order.first = .lookUp key := by simp [Order.first, hk]
    simp only [hk] at h
    unfold attend
    rw [hfirst, serve_of_reply rfl (Stage.cutAt?_of_not_waiting rfl),
      serve_of_reply rfl Stage.cutAt?_none, serve_of_past]
    rcases hr : k.reply s (.find order.userId key) with e | (_ | booking)
    · rfl
    · simp [hr] at h
    · rfl

theorem attend_of_start?_eq_some (length : Span) (wait : Option Nat) {start : Nat} {s' : σ}
    (h : k.start? order s = some (start, s')) :
    k.attend length wait order s =
      (k.serve length wait order s' start start .opening).after order.preface := by
  unfold start? at h
  cases hk : order.key with
  | none =>
    simp only [hk, Option.some.injEq, Prod.mk.injEq] at h
    obtain ⟨rfl, rfl⟩ := h
    simp [attend, Order.first, Order.preface, hk, Account.after]
  | some key =>
    have hfirst : order.first = .lookUp key := by simp [Order.first, hk]
    simp only [hk] at h
    unfold attend
    rw [hfirst, serve_of_reply rfl (Stage.cutAt?_of_not_waiting rfl)]
    rcases hr : k.reply s (.find order.userId key) with e | (_ | booking)
    · simp [hr] at h
    · simp only [hr, Option.some.injEq, Prod.mk.injEq] at h
      obtain ⟨rfl, rfl⟩ := h
      simp [Order.preface, Order.judgement, Stage.waitedSince, Stage.isWaiting, hk]
    · simp [hr] at h

theorem serve_of_heard (hm : order.move length stage = .ask request next)
    (hw : stage.isWaiting = true) (ht : time + k.delay s request ≤ since + w)
    (h : k.serve length (some w) order (k.next s request) (time + k.delay s request) since
        (next (k.reply s request)) =
      k.serve length none order (k.next s request) (time + k.delay s request) since
        (next (k.reply s request))) :
    k.serve length (some w) order s time since stage =
      k.serve length none order s time since stage := by
  rw [serve_of_reply hm (Stage.cutAt?_of_le ht), serve_of_reply hm Stage.cutAt?_none,
    Stage.waitedSince, if_pos hw, h]

theorem serve_withdrawing_of_le (ht : time + k.delay s (.rollback tx) ≤ since + w) :
    k.serve length (some w) order s time since (.withdrawing tx e) =
      k.serve length none order s time since (.withdrawing tx e) :=
  serve_of_heard rfl rfl ht (serve_of_past (isPastRow_refuse _ _))

theorem serve_fetching_of_le (ht : time + k.fetchTime order s tx ≤ since + w) :
    k.serve length (some w) order s time since (.fetching tx) =
      k.serve length none order s time since (.fetching tx) := by
  unfold fetchTime at ht
  refine serve_of_heard rfl rfl (by omega) ?_
  cases hr : k.reply s (.fetch tx order.seatId) with
  | ok seat => exact serve_of_past rfl
  | error e =>
    simp only [hr] at ht
    exact serve_withdrawing_of_le (by omega)

theorem serve_opening_of_le (ht : time + k.rowTime order s ≤ since + w) :
    k.serve length (some w) order s time since .opening =
      k.serve length none order s time since .opening := by
  unfold rowTime at ht
  refine serve_of_heard rfl rfl (by omega) ?_
  cases hr : k.reply s .begin with
  | ok tx =>
    simp only [hr] at ht
    exact serve_fetching_of_le (by omega)
  | error e => exact serve_of_past (isPastRow_refuse _ _)

theorem serve_givingUp : k.serve length wait order s time since (.givingUp tx) =
    ⟨[.made (.discard tx) ()], .refused .lockTimeout, time, k.next s (.discard tx)⟩ := by
  rw [serve_of_reply rfl (Stage.cutAt?_of_not_waiting rfl), serve_of_answer rfl,
    k.prompt s rfl]
  rfl

theorem serve_withdrawing_of_lt (length : Span) (ht : since + w < time + k.delay s (.rollback tx)) :
    ∃ s', k.serve length (some w) order s time since (.withdrawing tx e) =
      ⟨[.cut (.rollback tx), .made (.discard tx) ()], .refused .lockTimeout, since + w, s'⟩ := by
  rw [serve_of_cut rfl (Stage.cutAt?_of_lt rfl ht), Stage.expire, serve_givingUp]
  exact ⟨_, rfl⟩

end Keeper

/-- All that passes between an order and its keeper if the order does not get its row in time. -/
inductive GivesUp (order : Order) : List Deed → Prop
  | unopened : GivesUp order [.cut .begin]
  | unread {tx : TxId} : GivesUp order
      [.made .begin (.ok tx), .cut (.fetch tx order.seatId), .made (.discard tx) ()]
  | unreturned {tx : TxId} {e : BookingError} : GivesUp order
      [.made .begin (.ok tx), .made (.fetch tx order.seatId) (.error e), .cut (.rollback tx),
        .made (.discard tx) ()]

namespace Keeper

theorem serve_fetching_of_lt (length : Span) (ht : since + w < time + k.fetchTime order s tx) :
    ∃ deeds s', k.serve length (some w) order s time since (.fetching tx) =
        ⟨deeds, .refused .lockTimeout, since + w, s'⟩ ∧
      GivesUp order (.made .begin (.ok tx) :: deeds) := by
  -- Either the row itself comes too late, or it is denied and the way back takes too long.
  by_cases hread : since + w < time + k.delay s (.fetch tx order.seatId)
  · rw [serve_of_cut rfl (Stage.cutAt?_of_lt rfl hread), Stage.expire, serve_givingUp]
    exact ⟨_, _, rfl, .unread⟩
  · unfold fetchTime at ht
    rw [serve_of_reply rfl (Stage.cutAt?_of_le (Nat.le_of_not_lt hread))]
    cases hr : k.reply s (.fetch tx order.seatId) with
    | ok seat =>
      simp only [hr] at ht
      omega
    | error e =>
      simp only [hr] at ht
      have hlate : since + w < time + k.delay s (.fetch tx order.seatId) +
          k.delay (k.next s (.fetch tx order.seatId)) (.rollback tx) := by omega
      obtain ⟨s', hserve⟩ := serve_withdrawing_of_lt (e := e) length hlate
      exact ⟨_, s', congrArg (Account.after _) hserve, .unreturned⟩

theorem serve_opening_of_lt (length : Span) (ht : since + w < time + k.rowTime order s) :
    ∃ deeds s', k.serve length (some w) order s time since .opening =
        ⟨deeds, .refused .lockTimeout, since + w, s'⟩ ∧ GivesUp order deeds := by
  by_cases hbegin : since + w < time + k.delay s .begin
  · rw [serve_of_cut rfl (Stage.cutAt?_of_lt rfl hbegin), Stage.expire, serve_of_answer rfl]
    exact ⟨_, _, rfl, .unopened⟩
  · unfold rowTime at ht
    rw [serve_of_reply rfl (Stage.cutAt?_of_le (Nat.le_of_not_lt hbegin))]
    cases hr : k.reply s .begin with
    | error e =>
      simp only [hr] at ht
      omega
    | ok tx =>
      simp only [hr] at ht
      have hlate : since + w < time + k.delay s .begin +
          k.fetchTime order (k.next s .begin) tx := by omega
      obtain ⟨deeds, s', hserve, hdeeds⟩ := serve_fetching_of_lt length hlate
      exact ⟨_, s', congrArg (Account.after _) hserve, hdeeds⟩

end Keeper

/-- A keeper that never says by itself that somebody has waited too long for a row. -/
def Keeper.Patient (k : Keeper σ) : Prop :=
  ∀ (s : σ) (request : Request), request.failure? (k.reply s request) ≠ some .lockTimeout

def Stage.Timely : Stage → Prop
  | withdrawing _ e | undoing _ e | lookAgain _ e => e ≠ .lockTimeout
  | givingUp _ => False
  | finished outcome => outcome ≠ .refused .lockTimeout
  | _ => True

theorem timely_first (order : Order) : order.first.Timely := by
  unfold Order.first
  split <;> trivial

theorem timely_refuse (order : Order) (h : e ≠ .lockTimeout) : (order.refuse e).Timely := by
  unfold Order.refuse
  split
  · split <;> simp [Stage.Timely, h]
  · simp [Stage.Timely, h]

theorem admits_ne_lockTimeout {seat : Seat} {now : Instant} :
    order.admits length seat now ≠ .error .lockTimeout := by
  intro h
  cases order with
  | hold => rcases admits_hold_error h with ⟨h, -⟩ | ⟨h, -⟩ <;> cases h
  | buy => rcases admits_buy_error h with h | h | h | h <;> cases h

theorem timely_next (hm : order.move length stage = .ask request next) (h : stage.Timely)
    {reply : request.Reply} (hr : request.failure? reply ≠ some .lockTimeout) :
    (next reply).Timely := by
  cases stage <;> simp only [Order.move] at hm <;> cases hm
  case lookUp key => rcases reply with e | (_ | booking) <;> simp_all [Stage.Timely]
  case opening =>
    rcases reply with e | tx
    · exact timely_refuse order (by simpa using hr)
    · trivial
  case fetching tx => rcases reply with e | seat <;> simp_all [Stage.Timely]
  case withdrawing | undoing => exact timely_refuse order h
  case deciding tx seat =>
    simp only
    split
    · trivial
    · next ha =>
      rintro rfl
      exact admits_ne_lockTimeout ha
  case writing tx seatId now =>
    rcases reply with e | _
    · simpa [Stage.Timely] using hr
    · cases order <;> trivial
  case recording tx sale => rcases reply with e | booking <;> simp_all [Stage.Timely]
  case committing tx gain =>
    rcases reply with e | _
    · exact timely_refuse order (by simpa using hr)
    · exact gain.outcome_ne_refused length _
  case givingUp => exact h.elim
  case lookAgain key e =>
    rcases reply with e' | (_ | booking)
    · simpa [Stage.Timely] using hr
    · simp only [Stage.Timely, unexplained] at h ⊢
      split <;> simp_all
    · simp [Stage.Timely]

namespace Keeper

theorem serve_ne_lockTimeout (hk : k.Patient) (h : stage.Timely) :
    (k.serve length none order s time since stage).outcome ≠ .refused .lockTimeout := by
  fun_induction Keeper.serve k length none order s time since stage with
  | case1 s time since stage outcome hm =>
    obtain rfl := Office.eq_finished_of_answer hm
    exact h
  | case2 s time since stage request next hm t hc ih =>
    rw [Stage.cutAt?_none] at hc
    cases hc
  | case3 s time since stage request next hm hc ih => exact ih (timely_next hm h (hk _ _))

end Keeper

structure LetsGo (deeds : List Deed) : Prop where
  dropped {t : TxId} (h : Begun deeds t) : .made (.discard t) () ∈ deeds
  not_updated {t : TxId} {seatId : Int} {state : SeatState} : ¬Asked deeds (.update t seatId state)
  not_inserted {t : TxId} {sale : Sale} : ¬Asked deeds (.insert t sale)
  not_committed {t : TxId} : ¬Asked deeds (.commit t)

theorem GivesUp.letsGo {deeds : List Deed} (h : GivesUp order deeds) :
    LetsGo (order.preface ++ deeds) := by
  cases h <;> constructor <;> simp

/-- The bound on the wait makes no difference to an order whose row is granted or denied in time.
Any other order is turned away at the moment when its time is up, and has changed nothing. -/
theorem only_the_wait_for_the_row_is_bounded (hk : k.Patient) (length : Span) (order : Order)
    (s : σ) (w : Nat) :
    let bounded := k.attend length (some w) order s
    let unbounded := k.attend length none order s
    (order.serve length k.perform order.first).run s = (unbounded.outcome, unbounded.state) ∧
      unbounded.outcome ≠ .refused .lockTimeout ∧
      match k.start? order s with
      | none => bounded = unbounded
      | some (start, s') =>
        (k.rowTime order s' ≤ w → bounded = unbounded) ∧
          (w < k.rowTime order s' → bounded.outcome = .refused .lockTimeout ∧
            bounded.time = start + w ∧ LetsGo bounded.deeds) := by
  intro bounded unbounded
  refine ⟨Keeper.serve_unbounded _ _ _ _ _ _ _,
    Keeper.serve_ne_lockTimeout hk (timely_first order), ?_⟩
  cases hstart : k.start? order s with
  | none => exact Keeper.attend_of_start?_eq_none hstart
  | some began =>
    obtain ⟨start, s'⟩ := began
    have hbounded := Keeper.attend_of_start?_eq_some length (some w) hstart
    have hunbounded := Keeper.attend_of_start?_eq_some length none hstart
    refine ⟨fun hle => ?_, fun hlt => ?_⟩
    · refine hbounded.trans (Eq.trans ?_ hunbounded.symm)
      rw [Keeper.serve_opening_of_le (by omega)]
    · obtain ⟨deeds, s'', hserve, hdeeds⟩ := Keeper.serve_opening_of_lt length
        (show start + w < start + k.rowTime order s' by omega)
      rw [hserve] at hbounded
      have hout : bounded.outcome = .refused .lockTimeout := congrArg Account.outcome hbounded
      have htime : bounded.time = start + w := congrArg Account.time hbounded
      have hall : bounded.deeds = order.preface ++ deeds := congrArg Account.deeds hbounded
      exact ⟨hout, htime, hall ▸ hdeeds.letsGo⟩

/-- A keeper of one seat that user 3 holds. It takes its time over the row and over the commit. -/
def sluggish (row commit : Nat) : Keeper Unit where
  reply _ request :=
    match request with
    | .now => .epoch
    | .find _ _ => .ok none
    | .begin => .ok 1
    | .fetch _ seatId => .ok ⟨seatId, 1, "A1", .locked .epoch 3⟩
    | .insert _ sale => .ok (sale.booking 5)
    | .update _ _ _ | .commit _ | .rollback _ => .ok ()
    | .discard _ => ()
  next _ _ := ()
  delay _ request :=
    match request with
    | .fetch _ _ => row
    | .commit _ => commit
    | _ => 0
  leave _ _ _ := ()
  prompt _ request h := by cases request <;> first | rfl | cases h

theorem patient_sluggish (row commit : Nat) : (sluggish row commit).Patient := by
  rintro s (_ | _) <;> simp [sluggish]

/-- A slow commit does not harm a sale, and a slow row does. -/
theorem only_the_wait_for_the_row_is_bounded_sluggish :
    let order := Order.buy 1 7 3 (some "k")
    (sluggish 20 200).Patient ∧ (sluggish 200 20).Patient ∧
      ((sluggish 20 200).attend Traffic.tenMinutes (some 50) order ()).outcome =
        .done (.booked 5 false) ∧
      ((sluggish 200 20).attend Traffic.tenMinutes (some 50) order ()).outcome =
        .refused .lockTimeout ∧
      .made (.discard 1) () ∈
        ((sluggish 200 20).attend Traffic.tenMinutes (some 50) order ()).deeds := by
  intro order
  obtain ⟨-, -, hsold, -⟩ := only_the_wait_for_the_row_is_bounded (patient_sluggish 20 200)
    Traffic.tenMinutes order () 50
  obtain ⟨-, -, -, hlate⟩ := only_the_wait_for_the_row_is_bounded (patient_sluggish 200 20)
    Traffic.tenMinutes order () 50
  obtain ⟨hout, -, hdeeds⟩ := hlate (by decide)
  refine ⟨patient_sluggish _ _, patient_sluggish _ _, ?_, hout, hdeeds.dropped ?_⟩
  · rw [hsold (by decide)]
    decide +kernel
  · have hfirst : order.first = .lookUp "k" := rfl
    rw [Keeper.attend, hfirst, Keeper.serve_of_reply rfl (Stage.cutAt?_of_not_waiting rfl),
      Keeper.serve_of_reply rfl (Stage.cutAt?_of_le (by decide))]
    simp [sluggish, Account.after]

end BoxOffice.Engine
