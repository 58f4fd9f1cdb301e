import BoxOffice.Proofs.Courses

set_option autoImplicit false

/-!
# The discipline of transactions

Whatever keeps the seats, and whatever it replies, an order asks only for what is due. `Licensed`
says when a request is due, given what has passed before. `Disciplined` adds what may not be left
out: the row is asked for in every transaction, a seat that the order admits is written, and no
transaction is left open. It also says where the answer comes from.
-/

namespace BoxOffice.Engine

@[simp] def Deed.request? : Deed → Option Request
  | made request _ | cut request => some request
  | judged _ => none

@[simp] def failure? {α : Type} : Except BookingError α → Option BookingError
  | .ok _ => none
  | .error e => some e

@[simp] def Request.failure? : (request : Request) → request.Reply → Option BookingError
  | now, _ | discard _, _ => none
  | find _ _, reply => Engine.failure? reply
  | begin, reply => Engine.failure? reply
  | fetch _ _, reply => Engine.failure? reply
  | insert _ _, reply => Engine.failure? reply
  | update _ _ _, reply | commit _, reply | rollback _, reply => Engine.failure? reply

@[simp] def Deed.error? : Deed → Option BookingError
  | made request reply => request.failure? reply
  | cut _ => none
  | judged verdict => failure? verdict

def firstError? (deeds : List Deed) : Option BookingError := deeds.findSome? Deed.error?

def Smooth (deeds : List Deed) : Prop :=
  ∀ deed ∈ deeds, deed.error? = none ∧ ∀ request, deed ≠ .cut request

def Asked (deeds : List Deed) (request : Request) : Prop :=
  ∃ deed ∈ deeds, deed.request? = some request

/-- A commit ends its transaction whatever it replies, and so does a rollback. -/
@[simp] def Deed.Ends (tx : TxId) : Deed → Prop
  | made (.commit t) _ | made (.rollback t) _ | made (.discard t) _ => t = tx
  | _ => False

def Begun (deeds : List Deed) (tx : TxId) : Prop := .made .begin (.ok tx) ∈ deeds

def Ended (deeds : List Deed) (tx : TxId) : Prop := ∃ deed ∈ deeds, deed.Ends tx

def Open (deeds : List Deed) (tx : TxId) : Prop := Begun deeds tx ∧ ¬Ended deeds tx

/-- The order may take the seat, as it was read in the transaction and at the time that was read
after it. -/
def Admitted (length : Span) (order : Order) (past : List Deed) (tx : TxId) (now : Instant) :
    Prop :=
  ∃ seat, .made (.fetch tx order.seatId) (.ok seat) ∈ past ∧ .made .now now ∈ past ∧
    order.admits length seat now = .ok ()

def Written (order : Order) (past : List Deed) (tx : TxId) : Prop :=
  ∃ now, .made (.update tx order.seatId (order.newState now)) (.ok ()) ∈ past

def Order.sale? : Order → Option Sale
  | hold _ _ => none
  | order@(buy showId seatId userId _) => some ⟨userId, showId, seatId, order.key⟩

def Recorded (order : Order) (past : List Deed) (tx : TxId) : Prop :=
  ∀ sale, order.sale? = some sale → ∃ booking, .made (.insert tx sale) (.ok booking) ∈ past

/-- A request is due after what has passed. -/
def Licensed (length : Span) (order : Order) (past : List Deed) : Request → Prop
  | .now => Smooth past ∧ ∃ tx, Open past tx
  | .find user key =>
    user = order.userId ∧ order.key = some key ∧ ∀ tx, Begun past tx → Ended past tx
  | .begin => Smooth past ∧ ¬Asked past .begin
  | .fetch tx seatId =>
    Smooth past ∧ Open past tx ∧ seatId = order.seatId ∧ ∀ t r, ¬Asked past (.fetch t r)
  | .update tx seatId state =>
    Smooth past ∧ Open past tx ∧ seatId = order.seatId ∧
      (∃ now, Admitted length order past tx now ∧ state = order.newState now) ∧
      ∀ t r st, ¬Asked past (.update t r st)
  | .insert tx sale =>
    Smooth past ∧ Open past tx ∧ order.sale? = some sale ∧ Written order past tx ∧
      ∀ t sa, ¬Asked past (.insert t sa)
  | .commit tx => Smooth past ∧ Open past tx ∧ Written order past tx ∧ Recorded order past tx
  | .rollback tx =>
    Open past tx ∧ (∃ e, firstError? past = some e) ∧ ∀ request, .cut request ∉ past
  | .discard tx => Open past tx ∧ ∃ request, .cut request ∈ past

/-- What a buyer is told who has looked for his booking once more, because of an error. -/
def afterLookingAgain (e : BookingError) : Except BookingError (Option Booking) → Outcome
  | .ok (some booking) => .done (.booked booking.id true)
  | .ok none => .refused (unexplained e)
  | .error e' => .refused e'

/-- The time of a hold is the one that was read, and the booking of a sale the one that was
recorded. -/
def Gained (deeds : List Deed) : Gain → Prop
  | .hold since => .made .now since ∈ deeds
  | .sale booking => ∃ tx sale, .made (.insert tx sale) (.ok booking) ∈ deeds

/-- Where the outcome of an order comes from. -/
inductive Answers (length : Span) (order : Order) (deeds : List Deed) : Outcome → Prop
  | fresh {tx gain} (hs : Smooth deeds) (hc : .made (.commit tx) (.ok ()) ∈ deeds)
      (hg : Gained deeds gain) : Answers length order deeds (gain.outcome length)
  | found {key booking} (h : deeds = [.made (.find order.userId key) (.ok (some booking))]) :
      Answers length order deeds (.done (.booked booking.id true))
  | failed {e} (he : firstError? deeds = some e) (hw : ∀ request, .cut request ∉ deeds) :
      Answers length order deeds (.refused e)
  | overdue (h : ∃ request, .cut request ∈ deeds) :
      Answers length order deeds (.refused .lockTimeout)
  | again {past key reply e} (h : deeds = past ++ [.made (.find order.userId key) reply])
      (he : firstError? past = some e) (hw : ∀ request, .cut request ∉ past)
      (hk : e = .keyTaken ∨ e = .notLocked) :
      Answers length order deeds (afterLookingAgain e reply)

structure Complete (order : Order) (deeds : List Deed) : Prop where
  fetched {tx : TxId} (h : Begun deeds tx) : Asked deeds (.fetch tx order.seatId)
  written {tx : TxId} (h : Begun deeds tx) (hj : .judged (.ok ()) ∈ deeds) :
    ∃ state, Asked deeds (.update tx order.seatId state)
  ended {tx : TxId} (h : Begun deeds tx) : Ended deeds tx

structure Disciplined (length : Span) (order : Order) (deeds : List Deed) (ending : Ending) :
    Prop where
  licensed {past rest : List Deed} {deed : Deed} (h : deeds = past ++ deed :: rest)
    {request : Request} (hr : deed.request? = some request) : Licensed length order past request
  complete : Complete order deeds
  /-- A transaction ends by a commit if and only if nothing has failed before its end. -/
  commits {past rest : List Deed} {deed : Deed} (h : deeds = past ++ deed :: rest) {tx : TxId}
    (he : deed.Ends tx) : (∃ reply, deed = .made (.commit tx) reply) ↔ Smooth past
  answers {outcome : Outcome} (h : ending = .answered outcome) : Answers length order deeds outcome

section

variable {deeds deeds' past : List Deed} {deed : Deed} {request : Request} {tx : TxId}

@[simp] theorem smooth_nil : Smooth [] := by simp [Smooth]

@[simp] theorem smooth_cons : Smooth (deed :: deeds) ↔
    (deed.error? = none ∧ ∀ request, deed ≠ .cut request) ∧ Smooth deeds := by simp [Smooth]

@[simp] theorem smooth_append : Smooth (deeds ++ deeds') ↔ Smooth deeds ∧ Smooth deeds' :=
  List.forall_mem_append

theorem Smooth.cut_not_mem (h : Smooth deeds) : .cut request ∉ deeds :=
  fun hmem => (h _ hmem).2 request rfl

@[simp] theorem not_asked_nil : ¬Asked [] request := by simp [Asked]

@[simp] theorem asked_cons :
    Asked (deed :: deeds) request ↔ deed.request? = some request ∨ Asked deeds request := by
  simp [Asked]

@[simp] theorem asked_append :
    Asked (deeds ++ deeds') request ↔ Asked deeds request ∨ Asked deeds' request := by
  simp [Asked, or_and_right, exists_or]

@[simp] theorem not_begun_nil : ¬Begun [] tx := by simp [Begun]

@[simp] theorem begun_cons :
    Begun (deed :: deeds) tx ↔ deed = .made .begin (.ok tx) ∨ Begun deeds tx := by
  simp [Begun, eq_comm]

@[simp] theorem begun_append :
    Begun (deeds ++ deeds') tx ↔ Begun deeds tx ∨ Begun deeds' tx := by simp [Begun]

@[simp] theorem not_ended_nil : ¬Ended [] tx := by simp [Ended]

@[simp] theorem ended_cons : Ended (deed :: deeds) tx ↔ deed.Ends tx ∨ Ended deeds tx := by
  simp [Ended]

@[simp] theorem ended_append :
    Ended (deeds ++ deeds') tx ↔ Ended deeds tx ∨ Ended deeds' tx := by
  simp [Ended, or_and_right, exists_or]

@[simp] theorem firstError?_nil : firstError? [] = none := rfl

@[simp] theorem firstError?_cons :
    firstError? (deed :: deeds) = deed.error?.or (firstError? deeds) := by
  simp only [firstError?, List.findSome?_cons]
  cases deed.error? <;> rfl

@[simp] theorem firstError?_append :
    firstError? (deeds ++ deeds') = (firstError? deeds).or (firstError? deeds') := by
  simp [firstError?, List.findSome?_append]

theorem Smooth.firstError?_eq_none (h : Smooth deeds) : firstError? deeds = none :=
  List.findSome?_eq_none_iff.2 fun deed hmem => (h deed hmem).1

end

def Order.preface (order : Order) : List Deed :=
  match order.key with
  | some key => [.made (.find order.userId key) (.ok none)]
  | none => []

theorem Order.mem_preface {order : Order} {deed : Deed} : deed ∈ order.preface ↔
    ∃ key, order.key = some key ∧ deed = .made (.find order.userId key) (.ok none) := by
  unfold Order.preface
  split <;> simp_all

section

variable (order : Order)

@[simp] theorem smooth_preface : Smooth order.preface := by
  intro deed h
  obtain ⟨key, -, rfl⟩ := Order.mem_preface.1 h
  simp

@[simp] theorem asked_preface {request : Request} : Asked order.preface request ↔
    ∃ key, order.key = some key ∧ request = .find order.userId key := by
  simp [Asked, Order.mem_preface, eq_comm]

@[simp] theorem not_begun_preface {tx : TxId} : ¬Begun order.preface tx := by
  simp [Begun, Order.mem_preface]

@[simp] theorem not_ended_preface {tx : TxId} : ¬Ended order.preface tx := by
  simp [Ended, Order.mem_preface]

@[simp] theorem firstError?_preface : firstError? order.preface = none :=
  (smooth_preface order).firstError?_eq_none

@[simp] theorem judged_not_mem_preface {verdict : Except BookingError Unit} :
    .judged verdict ∉ order.preface := by
  simp [Order.mem_preface]

@[simp] theorem cut_not_mem_preface {request : Request} : .cut request ∉ order.preface :=
  (smooth_preface order).cut_not_mem

end

def Order.hearing (order : Order) (tx : TxId) (seat : Seat) (now : Instant)
    (verdict : Except BookingError Unit) : List Deed :=
  order.preface ++ [.made .begin (.ok tx), .made (.fetch tx order.seatId) (.ok seat),
    .made .now now, .judged verdict]

def Order.writing (order : Order) (tx : TxId) (seat : Seat) (now : Instant)
    (reply : Except BookingError Unit) : List Deed :=
  order.hearing tx seat now (.ok ()) ++
    [.made (.update tx order.seatId (order.newState now)) reply]

/-- An order that is refused has left nothing open. -/
structure Refused (order : Order) (past : List Deed) (e : BookingError) : Prop where
  error : firstError? past = some e
  waited : ∀ request, .cut request ∉ past
  complete : Complete order past

/-- What has passed when an order reaches a stage. -/
inductive Stands (length : Span) (order : Order) : List Deed → Stage → Prop
  | lookUp {key} (hk : order.key = some key) : Stands length order [] (.lookUp key)
  | opening : Stands length order order.preface .opening
  | fetching {tx} : Stands length order (order.preface ++ [.made .begin (.ok tx)]) (.fetching tx)
  | withdrawing {tx e} : Stands length order
      (order.preface ++ [.made .begin (.ok tx), .made (.fetch tx order.seatId) (.error e)])
      (.withdrawing tx e)
  | deciding {tx seat} (hs : seat.id = order.seatId) : Stands length order
      (order.preface ++ [.made .begin (.ok tx), .made (.fetch tx order.seatId) (.ok seat)])
      (.deciding tx seat)
  | rejected {tx seat now e} : Stands length order (order.hearing tx seat now (.error e))
      (.undoing tx e)
  | writing {tx seat now} (ha : order.admits length seat now = .ok ()) :
      Stands length order (order.hearing tx seat now (.ok ())) (.writing tx order.seatId now)
  | unwritten {tx seat now e} : Stands length order (order.writing tx seat now (.error e))
      (.undoing tx e)
  | holding {tx seat now} (hn : order.sale? = none) :
      Stands length order (order.writing tx seat now (.ok ())) (.committing tx (.hold now))
  | recording {tx seat now sale} (hs : order.sale? = some sale) :
      Stands length order (order.writing tx seat now (.ok ())) (.recording tx sale)
  | unrecorded {tx seat now sale e} : Stands length order
      (order.writing tx seat now (.ok ()) ++ [.made (.insert tx sale) (.error e)])
      (.undoing tx e)
  | selling {tx seat now sale booking} (hs : order.sale? = some sale) : Stands length order
      (order.writing tx seat now (.ok ()) ++ [.made (.insert tx sale) (.ok booking)])
      (.committing tx (.sale booking))
  | unread {tx} : Stands length order
      (order.preface ++ [.made .begin (.ok tx), .cut (.fetch tx order.seatId)]) (.givingUp tx)
  | unreturned {tx e} : Stands length order
      (order.preface ++ [.made .begin (.ok tx), .made (.fetch tx order.seatId) (.error e),
        .cut (.rollback tx)]) (.givingUp tx)
  | lookAgain {past key e} (hk : order.key = some key) (he : e = .keyTaken ∨ e = .notLocked)
      (h : Refused order past e) : Stands length order past (.lookAgain key e)
  | finished {past outcome} (hc : Complete order past) (ha : Answers length order past outcome) :
      Stands length order past (.finished outcome)

section

variable {length : Span} {order : Order} {past : List Deed} {stage : Stage}

theorem stands_first : Stands length order [] order.first := by
  unfold Order.first
  cases hk : order.key with
  | some key => exact .lookUp hk
  | none =>
    have hp : order.preface = [] := by simp [Order.preface, hk]
    exact hp ▸ .opening

theorem Refused.stands {e : BookingError} (h : Refused order past e) :
    Stands length order past (order.refuse e) := by
  have hfinished : Stands length order past (.finished (.refused e)) :=
    .finished h.complete (.failed h.error h.waited)
  unfold Order.refuse
  cases hk : order.key with
  | none => exact hfinished
  | some key =>
    simp only
    split
    · next he => exact .lookAgain hk he h
    · exact hfinished

theorem admitted_hearing {tx : TxId} {seat : Seat} {now : Instant}
    (ha : order.admits length seat now = .ok ()) :
    Admitted length order (order.hearing tx seat now (.ok ())) tx now :=
  ⟨seat, by simp [Order.hearing], by simp [Order.hearing], ha⟩

theorem written_writing (tx : TxId) (seat : Seat) (now : Instant) :
    Written order (order.writing tx seat now (.ok ())) tx := ⟨now, by simp [Order.writing]⟩

theorem smooth_writing (tx : TxId) (seat : Seat) (now : Instant) :
    Smooth (order.writing tx seat now (.ok ())) := by simp [Order.writing, Order.hearing]

theorem Smooth.refused_of_commit {tx : TxId} {e : BookingError} (hs : Smooth past)
    (hc : Complete order (past ++ [.made (.commit tx) (.error e)])) :
    Refused order (past ++ [.made (.commit tx) (.error e)]) e where
  error := by simp [hs.firstError?_eq_none]
  waited := by simp [hs.cut_not_mem]
  complete := hc

theorem Smooth.answers_of_commit {tx : TxId} {gain : Gain} (hs : Smooth past)
    (hg : Gained (past ++ [.made (.commit tx) (.ok ())]) gain) :
    Answers length order (past ++ [.made (.commit tx) (.ok ())]) (gain.outcome length) :=
  .fresh (by simp [hs]) (List.mem_append_right _ (List.mem_singleton_self _)) hg

theorem Written.append {deeds : List Deed} {tx : TxId} (h : Written order past tx) :
    Written order (past ++ deeds) tx :=
  let ⟨now, hmem⟩ := h
  ⟨now, List.mem_append_left deeds hmem⟩

theorem Stands.licensed (h : Stands length order past stage) {request : Request}
    {next : request.Reply → Stage} (hm : order.move length stage = .ask request next) :
    Licensed length order past request := by
  cases h <;> simp only [Order.move] at hm <;> cases hm
  case lookUp key hk => simp [Licensed, hk]
  case opening => simp [Licensed]
  case fetching tx => simp [Licensed, Open]
  case withdrawing tx e => simp [Licensed, Open]
  case deciding tx seat hs => simp [Licensed, Open]
  case rejected tx seat now e => simp [Licensed, Open, Order.hearing]
  case writing tx seat now ha =>
    exact ⟨by simp [Order.hearing], by simp [Order.hearing, Open], rfl,
      ⟨now, admitted_hearing ha, rfl⟩, by simp [Order.hearing]⟩
  case unwritten tx seat now e => simp [Licensed, Open, Order.writing, Order.hearing]
  case holding tx seat now hn =>
    exact ⟨by simp [Order.writing, Order.hearing], by simp [Order.writing, Order.hearing, Open],
      written_writing _ _ _, fun sale hs => by simp [hn] at hs⟩
  case recording tx seat now sale hs =>
    exact ⟨by simp [Order.writing, Order.hearing], by simp [Order.writing, Order.hearing, Open],
      hs, written_writing _ _ _, by simp [Order.writing, Order.hearing]⟩
  case unrecorded tx seat now sale e => simp [Licensed, Open, Order.writing, Order.hearing]
  case selling tx seat now sale booking hs =>
    refine ⟨by simp [Order.writing, Order.hearing], by simp [Order.writing, Order.hearing, Open],
      (written_writing _ _ _).append, fun sale' hs' => ⟨booking, ?_⟩⟩
    rw [hs] at hs'
    cases hs'
    simp
  case unread tx => simp [Licensed, Open]
  case unreturned tx e => simp [Licensed, Open]
  case lookAgain key e hk he hr => exact ⟨rfl, hk, fun tx => hr.complete.ended⟩

theorem Complete.concat {deed : Deed} (h : Complete order past)
    (hb : ∀ tx, deed ≠ .made .begin (.ok tx)) (hj : deed ≠ .judged (.ok ())) :
    Complete order (past ++ [deed]) where
  fetched hbegun := by
    have := h.fetched (by simpa [hb] using hbegun)
    simp [this]
  written hbegun hjudged := by
    obtain ⟨state, hasked⟩ := h.written (by simpa [hb] using hbegun)
      (by simpa [hj.symm] using hjudged)
    exact ⟨state, by simp [hasked]⟩
  ended hbegun := by
    have := h.ended (by simpa [hb] using hbegun)
    simp [this]

theorem Stands.complete (h : Stands length order past stage) {request : Request}
    {next : request.Reply → Stage} (hm : order.move length stage = .ask request next)
    {reply : request.Reply} {tx : TxId} (he : (Deed.made request reply).Ends tx) :
    Complete order (past ++ [.made request reply]) := by
  cases h <;> simp only [Order.move] at hm <;> cases hm
  -- these stages ask for something else than the end of a transaction
  case lookUp | opening | fetching | deciding | writing | recording | lookAgain => exact he.elim
  all_goals constructor <;> simp [Order.writing, Order.hearing]

/-- A reply leads on from where an order stands. -/
theorem Stands.replied (h : Stands length order past stage) {request : Request}
    {next : request.Reply → Stage} (hm : order.move length stage = .ask request next)
    (reply : request.Reply)
    (hf : ∀ tx id seat, Deed.made request reply = .made (.fetch tx id) (.ok seat) → seat.id = id) :
    Stands length order (past ++ .made request reply :: order.judgement length stage request reply)
      (next reply) := by
  have hended : ∀ tx, (Deed.made request reply).Ends tx →
      Complete order (past ++ [.made request reply]) := fun tx he => h.complete hm he
  cases h <;> simp only [Order.move] at hm <;> cases hm <;> simp only [Order.judgement]
  case lookUp key hk =>
    rcases reply with e | (_ | booking)
    · exact .finished ⟨by simp, by simp, by simp⟩ (.failed (by simp) (by simp))
    · have hp : order.preface = [.made (.find order.userId key) (.ok none)] := by
        simp [Order.preface, hk]
      simpa [hp] using (Stands.opening : Stands length order _ _)
    · exact .finished ⟨by simp, by simp, by simp⟩ (.found rfl)
  case opening =>
    rcases reply with e | tx
    · exact Refused.stands ⟨by simp, by simp, by simp, by simp, by simp⟩
    · exact .fetching
  case fetching tx =>
    rcases reply with e | seat
    · simpa using (Stands.withdrawing : Stands length order _ (.withdrawing tx e))
    · simpa using
        (Stands.deciding (hf tx order.seatId seat rfl) : Stands length order _ (.deciding tx seat))
  case deciding tx seat hs =>
    cases hv : order.admits length seat reply with
    | error e =>
      simpa [Order.hearing, hv] using
        (Stands.rejected : Stands length order (order.hearing tx seat reply (.error e)) _)
    | ok =>
      simpa [Order.hearing, hv, hs] using
        (Stands.writing hv : Stands length order (order.hearing tx seat reply (.ok ())) _)
  case writing tx seat now ha =>
    rcases reply with e | _
    · exact .unwritten
    · cases hs : order.sale? with
      | none =>
        have hnext : order.afterWrite tx order.seatId now = .committing tx (.hold now) := by
          cases order <;> simp_all [Order.sale?, Order.afterWrite]
        rw [hnext]
        exact .holding hs
      | some sale =>
        have hnext : order.afterWrite tx order.seatId now = .recording tx sale := by
          cases order <;> simp_all [Order.sale?, Order.afterWrite, Order.seatId]
        rw [hnext]
        exact .recording hs
  case recording tx seat now sale hs =>
    rcases reply with e | booking
    · exact .unrecorded
    · exact .selling hs
  case holding tx seat now hn =>
    have hs : Smooth (order.writing tx seat now (.ok ())) := smooth_writing _ _ _
    have hc := hended tx rfl
    rcases reply with e | _
    · exact (hs.refused_of_commit hc).stands
    · have hg : Gained (order.writing tx seat now (.ok ()) ++ [.made (.commit tx) (.ok ())])
          (.hold now) := by simp [Gained, Order.writing, Order.hearing]
      exact .finished hc (hs.answers_of_commit hg)
  case selling tx seat now sale booking hs =>
    have hs : Smooth (order.writing tx seat now (.ok ()) ++
        [.made (.insert tx sale) (.ok booking)]) := by simp [smooth_writing]
    have hc := hended tx rfl
    rcases reply with e | _
    · exact (hs.refused_of_commit hc).stands
    · have hg : Gained (order.writing tx seat now (.ok ()) ++
          [.made (.insert tx sale) (.ok booking)] ++ [.made (.commit tx) (.ok ())])
          (.sale booking) := ⟨tx, sale, by simp⟩
      exact .finished hc (hs.answers_of_commit hg)
  case withdrawing tx e => exact Refused.stands ⟨by simp, by simp, hended tx rfl⟩
  case rejected tx seat now e =>
    exact Refused.stands ⟨by simp [Order.hearing], by simp [Order.hearing], hended tx rfl⟩
  case unwritten tx seat now e =>
    exact Refused.stands ⟨by simp [Order.writing, Order.hearing],
      by simp [Order.writing, Order.hearing], hended tx rfl⟩
  case unrecorded tx seat now sale e =>
    exact Refused.stands ⟨by simp [Order.writing, Order.hearing],
      by simp [Order.writing, Order.hearing], hended tx rfl⟩
  case unread tx => exact .finished (hended tx rfl) (.overdue (by simp))
  case unreturned tx e => exact .finished (hended tx rfl) (.overdue (by simp))
  case lookAgain key e hk he hr =>
    have hc : Complete order (past ++ [.made (.find order.userId key) reply]) :=
      hr.complete.concat (by simp) (by simp)
    have ha : Answers length order (past ++ [.made (.find order.userId key) reply])
        (afterLookingAgain e reply) := .again rfl hr.error hr.waited he
    rcases reply with e' | (_ | booking)
    · exact .finished hc ha
    · exact .finished hc ha
    · exact .finished hc ha

theorem Stands.expired (h : Stands length order past stage) {request : Request}
    {next : request.Reply → Stage} (hm : order.move length stage = .ask request next)
    (hw : stage.isWaiting = true) :
    Stands length order (past ++ [.cut request]) stage.expire := by
  cases h <;> simp only [Stage.isWaiting, reduceCtorEq] at hw <;> simp only [Order.move] at hm <;>
    cases hm
  case opening => exact .finished ⟨by simp, by simp, by simp⟩ (.overdue (by simp))
  case fetching tx =>
    simpa [Stage.expire] using (Stands.unread : Stands length order _ (.givingUp tx))
  case withdrawing tx e =>
    simpa [Stage.expire] using (Stands.unreturned : Stands length order _ (.givingUp tx))

theorem Stands.open_tx (h : Stands length order past stage) {tx : TxId}
    (ht : stage.tx? = some tx) : Open past tx := by
  cases h <;> simp only [Stage.tx?, reduceCtorEq, Option.some.injEq] at ht <;> subst ht <;>
    simp [Open, Order.writing, Order.hearing]

theorem Stands.abandoned (h : Stands length order past stage) {request : Request}
    {next : request.Reply → Stage} (hm : order.move length stage = .ask request next)
    (ha : request.isAwaited = true) :
    Complete order (past ++ .cut request :: stage.lettingGo) := by
  cases h <;> simp only [Order.move] at hm <;> cases hm <;>
    simp only [Request.isAwaited, reduceCtorEq, Stage.lettingGo, Stage.tx?] at ha ⊢
  case lookAgain key e hk he hr => exact hr.complete.concat (by simp) (by simp)
  all_goals constructor <;> simp [Order.writing, Order.hearing]

end

/-- Every request is due when it is made, after what has passed before these deeds and after those
deeds that precede it. -/
def Due (length : Span) (order : Order) (past deeds : List Deed) : Prop :=
  ∀ before deed rest, deeds = before ++ deed :: rest → ∀ request, deed.request? = some request →
    Licensed length order (past ++ before) request

section

variable {length : Span} {order : Order} {past deeds : List Deed}

theorem due_nil : Due length order past [] := by
  intro before deed rest h
  simp at h

theorem Due.cons {deed : Deed}
    (hd : ∀ request, deed.request? = some request → Licensed length order past request)
    (h : Due length order (past ++ [deed]) deeds) : Due length order past (deed :: deeds) := by
  intro before deed' rest hsplit request hr
  rcases List.cons_eq_append_iff.1 hsplit with ⟨rfl, hcons⟩ | ⟨before, rfl, hrest⟩
  · cases hcons
    simpa using hd request hr
  · simpa using h before deed' rest hrest request hr

theorem Due.judgement {stage : Stage} {request : Request} {reply : request.Reply}
    (h : Due length order (past ++ order.judgement length stage request reply) deeds) :
    Due length order past (order.judgement length stage request reply ++ deeds) := by
  unfold Order.judgement at h ⊢
  split at h
  · exact .cons (by simp) h
  · simpa using h

theorem Due.commits (h : Due length order [] deeds) {rest : List Deed} {deed : Deed} {tx : TxId}
    (hsplit : deeds = past ++ deed :: rest) (he : deed.Ends tx) :
    (∃ reply, deed = .made (.commit tx) reply) ↔ Smooth past := by
  have hlicensed : ∀ request, deed.request? = some request →
      Licensed length order past request := fun request hr => h past deed rest hsplit request hr
  cases deed with
  | cut | judged => exact he.elim
  | made request reply =>
    have hdue := hlicensed request rfl
    cases request with
    | commit t =>
      obtain rfl : t = tx := he
      exact ⟨fun _ => hdue.1, fun _ => ⟨reply, rfl⟩⟩
    | rollback t =>
      obtain ⟨-, ⟨e, herror⟩, -⟩ := hdue
      refine ⟨fun ⟨_, hd⟩ => (by cases hd), fun hs => ?_⟩
      rw [hs.firstError?_eq_none] at herror
      cases herror
    | discard t =>
      obtain ⟨-, request, hcut⟩ := hdue
      exact ⟨fun ⟨_, hd⟩ => (by cases hd), fun hs => absurd hcut hs.cut_not_mem⟩
    | _ => exact he.elim

end

theorem Course.follows {length : Span} {order : Order} {past deeds : List Deed} {stage : Stage}
    {ending : Ending} (h : Course length order stage deeds ending)
    (hs : Stands length order past stage)
    (hf : ∀ tx id seat, .made (.fetch tx id) (.ok seat) ∈ deeds → seat.id = id) :
    Due length order past deeds ∧ Complete order (past ++ deeds) ∧
      ∀ outcome, ending = .answered outcome → Answers length order (past ++ deeds) outcome := by
  induction h generalizing past with
  | answered hm =>
    obtain rfl := Office.eq_finished_of_answer hm
    cases hs with
    | finished hc ha =>
      refine ⟨due_nil, by simpa using hc, fun outcome he => ?_⟩
      cases he
      simpa using ha
  | @replied stage request next deeds ending hm reply h ih =>
    have hnext := hs.replied hm reply fun tx id seat he => hf tx id seat (he ▸ List.mem_cons_self)
    obtain ⟨hdue, hc, ha⟩ := ih hnext fun tx id seat hmem =>
      hf tx id seat (List.mem_cons_of_mem _ (List.mem_append_right _ hmem))
    refine ⟨.cons ?_ (.judgement (by simpa using hdue)), by simpa using hc, by simpa using ha⟩
    rintro request' ⟨⟩
    exact hs.licensed hm
  | @expired stage request next deeds ending hm hw h ih =>
    obtain ⟨hdue, hc, ha⟩ := ih (hs.expired hm hw) fun tx id seat hmem =>
      hf tx id seat (List.mem_cons_of_mem _ hmem)
    refine ⟨.cons ?_ hdue, by simpa using hc, by simpa using ha⟩
    rintro request' ⟨⟩
    exact hs.licensed hm
  | @abandoned stage request next hm ha =>
    refine ⟨.cons ?_ ?_, hs.abandoned hm ha, fun outcome he => by cases he⟩
    · rintro request' ⟨⟩
      exact hs.licensed hm
    · unfold Stage.lettingGo
      cases ht : stage.tx? with
      | none => exact due_nil
      | some tx =>
        refine .cons ?_ due_nil
        rintro request' ⟨⟩
        exact ⟨by simpa [Open] using hs.open_tx ht, request, by simp⟩

/-- Whatever is replied to an order, it keeps the discipline of transactions. -/
theorem transactions_are_disciplined {length : Span} {order : Order} {deeds : List Deed}
    {ending : Ending} (h : Course length order order.first deeds ending)
    (hf : ∀ tx id seat, .made (.fetch tx id) (.ok seat) ∈ deeds → seat.id = id) :
    Disciplined length order deeds ending := by
  obtain ⟨hdue, hc, ha⟩ := h.follows stands_first hf
  exact ⟨fun hsplit _ hr => hdue _ _ _ hsplit _ hr, hc,
    fun hsplit _ he => hdue.commits hsplit he, ha _⟩

/-- Another order with the key has been faster. Neither the error of the insertion nor that of the
rollback is what the buyer is told, since his booking is there. -/
def overtaken : List Deed :=
  [.made (.find 3 "k") (.ok none), .made .begin (.ok 4),
    .made (.fetch 4 7) (.ok ⟨7, 1, "A1", .locked .epoch 3⟩),
    .made .now .epoch, .judged (.ok ()), .made (.update 4 7 .sold) (.ok ()),
    .made (.insert 4 ⟨3, 1, 7, some "k"⟩) (.error .keyTaken),
    .made (.rollback 4) (.error (.unavailable "gone")),
    .made (.find 3 "k") (.ok (some ⟨5, 3, 1, 7, some "k"⟩))]

theorem transactions_are_disciplined_overtaken :
    let order := Order.buy 1 7 3 (some "k")
    Course Traffic.tenMinutes order order.first overtaken (.answered (.done (.booked 5 true))) ∧
      (∀ tx id seat, .made (.fetch tx id) (.ok seat) ∈ overtaken → seat.id = id) ∧
      Disciplined Traffic.tenMinutes order overtaken (.answered (.done (.booked 5 true))) := by
  intro order
  have hcourse :
      Course Traffic.tenMinutes order order.first overtaken
        (.answered (.done (.booked 5 true))) := by
    iterate 8 refine .replied rfl _ ?_
    exact .answered rfl
  have hf : ∀ tx id seat, .made (.fetch tx id) (.ok seat) ∈ overtaken → seat.id = id := by
    simp +contextual [overtaken]
  exact ⟨hcourse, hf, transactions_are_disciplined hcourse hf⟩

end BoxOffice.Engine
