import BoxOffice.Proofs.Discipline

set_option autoImplicit false

namespace BoxOffice.Engine

structure Keeper (σ : Type) where
  reply (s : σ) (request : Request) : request.Reply
  next (s : σ) (request : Request) : σ
  delay (s : σ) (request : Request) : Nat
  /-- What is kept when a request has been let go of, for which the order had waited so long. -/
  leave (s : σ) (request : Request) (waited : Nat) : σ
  /-- To read the clock takes no time, and neither does it to let go of a transaction. -/
  prompt (s : σ) {request : Request} (h : request.isAwaited = false) : delay s request = 0

structure Account (σ : Type) where
  deeds : List Deed
  outcome : Outcome
  time : Nat
  state : σ

variable {σ : Type}

def Account.after (past : List Deed) (a : Account σ) : Account σ :=
  { a with deeds := past ++ a.deeds }

/-- When a stage has to do without its reply, because that comes too late. -/
def Stage.cutAt? (wait : Option Nat) (since arrival : Nat) (stage : Stage) : Option Nat :=
  if stage.isWaiting then (wait.map (since + ·)).filter (· < arrival) else none

def Stage.waitedSince (since arrival : Nat) (stage : Stage) : Nat :=
  if stage.isWaiting then since else arrival

namespace Keeper

/-- An order attends to a keeper from a stage on. It has waited for its row since the given time, if
it does so in this stage; otherwise it may begin to wait now. -/
def serve (k : Keeper σ) (length : Span) (wait : Option Nat) (order : Order) (s : σ)
    (time since : Nat) (stage : Stage) : Account σ :=
  match _hm : order.move length stage with
  | .answer outcome => ⟨[], outcome, time, s⟩
  | .ask request next =>
    match _hc : stage.cutAt? wait since (time + k.delay s request) with
    | some t =>
      (k.serve length wait order (k.leave s request (t - time)) t t stage.expire).after
        [.cut request]
    | none =>
      (k.serve length wait order (k.next s request) (time + k.delay s request)
        (stage.waitedSince since (time + k.delay s request))
        (next (k.reply s request))).after
        (.made request (k.reply s request) ::
          order.judgement length stage request (k.reply s request))
termination_by stage.rank
decreasing_by
  · refine rank_expire_lt ?_
    by_contra hw
    simp [Stage.cutAt?, hw] at _hc
  · exact rank_next_lt _hm _

def attend (k : Keeper σ) (length : Span) (wait : Option Nat) (order : Order) (s : σ) :
    Account σ :=
  k.serve length wait order s 0 0 order.first

def perform (k : Keeper σ) (request : Request) : StateM σ request.Reply :=
  fun s => (k.reply s request, k.next s request)

end Keeper

section

variable {wait : Option Nat} {w since arrival t : Nat} {stage : Stage}

theorem Stage.cutAt?_eq_some_iff : stage.cutAt? wait since arrival = some t ↔
    stage.isWaiting = true ∧ ∃ w, wait = some w ∧ since + w < arrival ∧ t = since + w := by
  cases wait with
  | none => simp [Stage.cutAt?]
  | some w =>
    by_cases hw : stage.isWaiting = true
    · simp [Stage.cutAt?, hw]
      omega
    · simp [Stage.cutAt?, hw]

@[simp] theorem Stage.cutAt?_none : stage.cutAt? none since arrival = none := by
  simp [Stage.cutAt?]

theorem Stage.cutAt?_of_not_waiting (h : stage.isWaiting = false) :
    stage.cutAt? wait since arrival = none := by
  simp [Stage.cutAt?, h]

theorem Stage.cutAt?_of_le (h : arrival ≤ since + w) :
    stage.cutAt? (some w) since arrival = none := by
  simp [Stage.cutAt?, h]

theorem Stage.cutAt?_of_lt (hw : stage.isWaiting = true) (h : since + w < arrival) :
    stage.cutAt? (some w) since arrival = some (since + w) := by
  simp [Stage.cutAt?, hw, h]

end

namespace Keeper

variable {k : Keeper σ} {length : Span} {wait : Option Nat} {order : Order} {stage : Stage} {s : σ}
variable {time since t : Nat} {request : Request} {next : request.Reply → Stage}

theorem serve_of_answer {outcome : Outcome} (hm : order.move length stage = .answer outcome) :
    k.serve length wait order s time since stage = ⟨[], outcome, time, s⟩ := by
  unfold serve
  split <;> simp_all

theorem serve_of_reply (hm : order.move length stage = .ask request next)
    (hc : stage.cutAt? wait since (time + k.delay s request) = none) :
    k.serve length wait order s time since stage =
      (k.serve length wait order (k.next s request) (time + k.delay s request)
        (stage.waitedSince since (time + k.delay s request))
        (next (k.reply s request))).after
        (.made request (k.reply s request) ::
          order.judgement length stage request (k.reply s request)) := by
  rw [serve]
  split
  · simp_all
  · rename_i request' next' hm'
    obtain ⟨rfl, hnext⟩ := Move.ask.inj (hm.symm.trans hm')
    cases hnext
    split
    · simp_all
    · rfl

theorem serve_of_cut (hm : order.move length stage = .ask request next)
    (hc : stage.cutAt? wait since (time + k.delay s request) = some t) :
    k.serve length wait order s time since stage =
      (k.serve length wait order (k.leave s request (t - time)) t t stage.expire).after
        [.cut request] := by
  rw [serve]
  split
  · simp_all
  · rename_i request' next' hm'
    obtain ⟨rfl, hnext⟩ := Move.ask.inj (hm.symm.trans hm')
    cases hnext
    split
    · rename_i t' hc'
      cases hc.symm.trans hc'
      rfl
    · simp_all

theorem serve_is_course (k : Keeper σ) (length : Span) (wait : Option Nat) (order : Order) (s : σ)
    (time since : Nat) (stage : Stage) :
    Course length order stage (k.serve length wait order s time since stage).deeds
      (.answered (k.serve length wait order s time since stage).outcome) := by
  fun_induction Keeper.serve k length wait order s time since stage with
  | case1 s time since stage outcome hm => exact .answered hm
  | case2 s time since stage request next hm t hc ih =>
    exact .expired hm (Stage.cutAt?_eq_some_iff.1 hc).1 ih
  | case3 s time since stage request next hm hc ih =>
    exact .replied hm _ ih

theorem serve_unbounded (k : Keeper σ) (length : Span) (order : Order) (s : σ)
    (time since : Nat) (stage : Stage) :
    (order.serve length k.perform stage).run s =
      ((k.serve length none order s time since stage).outcome,
        (k.serve length none order s time since stage).state) := by
  fun_induction Order.serve length k.perform order stage generalizing s time since with
  | case1 stage outcome hm =>
    rw [serve_of_answer hm]
    rfl
  | case2 stage request next hm ih =>
    rw [serve_of_reply hm Stage.cutAt?_none]
    exact ih _ _ _ _

end Keeper

end BoxOffice.Engine
