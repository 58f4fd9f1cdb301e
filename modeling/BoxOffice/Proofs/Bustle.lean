import BoxOffice.Proofs.DraftedStores
import BoxOffice.Proofs.TrafficSoundness

set_option autoImplicit false

/-!
# Orders beside transactions that are driven by hand

In a bustle the orders of a traffic share their store with transactions that somebody drives by
hand: these make any calls in any order, keep as many rows as they like, give waits up and end when
they like. Seats are put in or replaced at any time. An event makes one request of the store at
most, and a request leaves alone what other transactions rely on.
-/

namespace BoxOffice

open Engine (TxId Request Order Stage)
open Function (update)

def Engine.Request.tx? : Request → Option TxId
  | now | find _ _ | begin => none
  | fetch tx _ | update tx _ _ | insert tx _ | commit tx | rollback tx | discard tx => some tx

def Engine.Order.request? (length : Span) (order : Order) (stage : Stage) : Option Request :=
  match order.move length stage with
  | .ask request _ => some request
  | .answer _ => none

def Tx.Call.request (tx : TxId) : Tx.Call → Request
  | fetch seatId => .fetch tx seatId
  | update seatId state => .update tx seatId state
  | insert sale => .insert tx sale

structure Bustle extends Traffic where
  /-- The transactions that are driven by hand, each with the row that it waits for. -/
  hands : TxId → Option (Option Int)

namespace Bustle

inductive Event where
  | order (event : BoxOffice.Event)
  | hand (action : History.Action)
  | putSeat (seat : Seat)
deriving DecidableEq

def ofStore (s : Store) (clock : Instant) : Bustle := ⟨.ofStore s clock, fun _ => none⟩

def begin (t : Bustle) : Bustle :=
  let (store, tx) := t.store.begin
  { t with store, hands := update t.hands tx (some none) }

/-- While a transaction waits for a row, it can only ask for it again. -/
def call (t : Bustle) (tx : TxId) (c : Tx.Call) : Bustle :=
  match t.hands tx with
  | none => t
  | some waits =>
    if ∀ r ∈ waits, c = .fetch r then
      match t.store.perform t.clock (c.request tx) with
      | (store, some _) => { t with store, hands := update t.hands tx (some none) }
      | (store, none) => { t with store, hands := update t.hands tx (some (some c.seatId)) }
    else t

def abandon (t : Bustle) (tx : TxId) : Bustle :=
  match t.hands tx with
  | some (some r) =>
    { t with store := t.store.unclaim tx r, hands := update t.hands tx (some none) }
  | _ => t

def commit (t : Bustle) (tx : TxId) : Bustle :=
  match t.hands tx with
  | some none => { t with store := (t.store.commit tx).1, hands := update t.hands tx none }
  | _ => t

def stop (t : Bustle) (tx : TxId) : Bustle :=
  match t.hands tx with
  | some _ => { t with store := t.store.finish tx, hands := update t.hands tx none }
  | none => t

def step (length : Span) (t : Bustle) : Event → Bustle
  | .order event => { t with toTraffic := t.toTraffic.step length event }
  | .hand .begin => t.begin
  | .hand (.call tx c) => t.call tx c
  | .hand (.abandon tx) => t.abandon tx
  | .hand (.commit tx) => t.commit tx
  | .hand (.stop tx) => t.stop tx
  | .putSeat seat => { t with store := { t.store with seats := t.store.seats.put seat } }

def run (length : Span) (t : Bustle) (events : List Event) : Bustle :=
  events.foldl (step length) t

def request? (length : Span) (t : Bustle) : Event → Option Request
  | .order (.go i) => (t.visits i).bind fun v => v.order.request? length v.stage
  | .order (.leave i) =>
    (t.visits i).bind fun v => if v.stage.isWaiting then v.stage.tx?.map .discard else none
  | .hand .begin => some .begin
  | .hand (.call tx c) =>
    (t.hands tx).bind fun waits => if ∀ r ∈ waits, c = .fetch r then some (c.request tx) else none
  | .hand (.commit tx) => if t.hands tx = some none then some (.commit tx) else none
  | .hand (.stop tx) => (t.hands tx).map fun _ => .discard tx
  | .order (.arrive _) | .order (.expire _) | .order (.clock _) | .order (.faults _)
  | .hand (.abandon _) | .putSeat _ => none

end Bustle

namespace Store

inductive Turn (s : Store) : Option Request → Store → Prop
  | perform (now : Instant) (request : Request) : Turn s (some request) (s.perform now request).1
  | idle : Turn s none s
  | faults (faults : Faults) : Turn s none { s with faults }
  | putSeat (seat : Seat) : Turn s none { s with seats := s.seats.put seat }
  | unclaim (tx : TxId) (r : Int) : Turn s none (s.unclaim tx r)

/-- What everybody but the transaction `a` can rely on when a store changes, even where seats are
replaced: rows do not vanish. -/
structure Spares (a : Option TxId) (s s' : Store) : Prop where
  tx : ∀ b, b < s.nextTx → some b ≠ a → s'.tx b = s.tx b
  holds : ∀ b r, some b ≠ a → s.Holds b r → s'.Holds b r
  rows : ∀ r, s.seats.get? r ≠ none → s'.seats.get? r ≠ none
  nextTx : s.nextTx ≤ s'.nextTx
  bookings : s.bookings <+: s'.bookings

variable {s s' : Store} {a : Option TxId}

theorem ChangedBy.spares (h : ChangedBy a s s')
    (hrows : ∀ r, s.seats.get? r ≠ none → s'.seats.get? r ≠ none) : Spares a s s' :=
  ⟨h.tx, h.holds, hrows, h.nextTx, h.bookings⟩

theorem Spares.refl (a : Option TxId) (s : Store) : Spares a s s :=
  (ChangedBy.refl a s).spares fun _ h => h

theorem Spares.mono {b : Option TxId} (h : Spares a s s') (ha : a = none ∨ a = b) :
    Spares b s s' := by
  rcases ha with rfl | rfl
  · exact ⟨fun c hc _ => h.tx c hc nofun, fun c r _ => h.holds c r nofun, h.rows, h.nextTx,
      h.bookings⟩
  · exact h

theorem get?_put_ne_none {seats : SeatTable} {seat : Seat} {r : Int} (h : seats.get? r ≠ none) :
    (seats.put seat).get? r ≠ none := by
  rw [SeatTable.get?_put]
  split
  · exact Option.some_ne_none seat
  · exact h

theorem get?_putAll_ne_none {seats : SeatTable} {r : Int} (rows : List Seat)
    (h : seats.get? r ≠ none) : (seats.putAll rows).get? r ≠ none := by
  induction rows generalizing seats with
  | nil => exact h
  | cons row rows ih => exact ih (get?_put_ne_none h)

theorem spares_putSeat (s : Store) (seat : Seat) :
    Spares none s { s with seats := s.seats.put seat } :=
  ⟨fun _ _ _ => rfl, fun _ _ _ h => h, fun _ => get?_put_ne_none, Nat.le_refl _,
    List.prefix_refl _⟩

theorem Beside.spares {tx : TxId} (h : Beside tx s s') : Spares (some tx) s s' :=
  h.changed.spares fun r => mt (h.rows r).1

theorem spares_commit (s : Store) (tx : TxId) : Spares (some tx) s (s.commit tx).1 := by
  have hfinish := (beside_finish s tx).spares
  rw [commit_eq]
  split
  · exact hfinish
  · split
    · exact hfinish
    · exact ⟨hfinish.tx, hfinish.holds, fun r => get?_putAll_ne_none _, Nat.le_refl _,
        List.prefix_append _ _⟩

theorem spares_perform (s : Store) (now : Instant) (request : Request) :
    Spares request.tx? s (s.perform now request).1 := by
  cases request with
  | now | find => exact .refl _ _
  | begin => exact (changedBy_begin s).spares fun _ h => h
  | fetch tx r => exact (beside_perform s tx (.fetch r)).spares
  | update tx r state => exact (beside_perform s tx (.update r state)).spares
  | insert tx sale => exact (beside_perform s tx (.insert sale)).spares
  | commit tx => exact spares_commit s tx
  | rollback tx | discard tx => exact (beside_finish s tx).spares

theorem Turn.prefix_bookings {request : Option Request} (h : s.Turn request s') :
    s.bookings <+: s'.bookings := by
  cases h with
  | perform now request => exact (spares_perform s now request).bookings
  | idle | faults | putSeat | unclaim => exact List.prefix_refl _

end Store

namespace Engine

variable {length : Span} {order : Order} {stage : Stage}

theorem tx?_of_move {request : Request} {next : request.Reply → Stage}
    (hm : order.move length stage = .ask request next) :
    request.tx? = none ∨ request.tx? = stage.tx? := by
  cases stage <;> simp only [Order.move] at hm <;> cases hm <;> simp [Request.tx?, Stage.tx?]

theorem spares_advance (s : Store) (now : Instant) (order : Order) (stage : Stage) :
    s.Spares stage.tx? (order.advance length s now stage).1 := by
  unfold Order.advance
  cases hm : order.move length stage with
  | answer outcome => exact .refl _ _
  | ask request next =>
    have hs := (s.spares_perform now request).mono (tx?_of_move hm)
    simp only
    split <;> rename_i hp <;> rwa [hp] at hs

theorem tx?_next {request : Request} {next : request.Reply → Stage}
    (hm : order.move length stage = .ask request next) (hne : stage ≠ .opening)
    (reply : request.Reply) : (next reply).tx? = none ∨ (next reply).tx? = stage.tx? := by
  have hrefuse := tx?_refuse order
  have hafter : ∀ tx r since, (order.afterWrite tx r since).tx? = some tx := by
    intro tx r since
    cases order <;> rfl
  cases stage <;> simp only [Order.move] at hm <;> cases hm
  case opening => exact absurd rfl hne
  case deciding tx seat =>
    simp only
    split <;> exact .inr rfl
  case withdrawing | undoing => exact .inl (hrefuse _)
  case givingUp => exact .inl rfl
  case committing tx gain =>
    rcases reply with e | _
    · exact .inl (hrefuse e)
    · exact .inl rfl
  case writing tx r since =>
    rcases reply with e | _
    · exact .inr rfl
    · exact .inr (hafter _ _ _)
  case fetching | recording => cases reply <;> exact .inr rfl
  case lookUp | lookAgain => rcases reply with e | (_ | b) <;> exact .inl rfl

theorem tx?_advance (length : Span) (s : Store) (now : Instant) (order : Order) (stage : Stage) :
    (order.advance length s now stage).2.tx? = none ∨
      (order.advance length s now stage).2.tx? = stage.tx? ∨
      ((order.advance length s now stage).2.tx? = some s.nextTx ∧
        (order.advance length s now stage).1.nextTx = s.nextTx + 1) := by
  by_cases hne : stage = .opening
  · subst hne
    exact .inr (.inr ⟨rfl, rfl⟩)
  · unfold Order.advance
    cases hm : order.move length stage with
    | answer outcome => exact .inr (.inl rfl)
    | ask request next =>
      simp only
      split
      · rename_i reply hp
        exact (tx?_next hm hne reply).imp_right .inl
      · exact .inr (.inl rfl)

end Engine

namespace Bustle

variable {length : Span} {t : Bustle}

theorem run_append (es fs : List Event) :
    t.run length (es ++ fs) = (t.run length es).run length fs :=
  List.foldl_append

theorem turn_advance (s : Store) (now : Instant) (order : Order) (stage : Stage) :
    s.Turn (order.request? length stage) (order.advance length s now stage).1 := by
  unfold Order.request? Order.advance
  cases order.move length stage with
  | answer outcome => exact .idle
  | ask request next =>
    have hturn := Store.Turn.perform (s := s) now request
    simp only
    split <;> rename_i hp <;> rwa [hp] at hturn

theorem turn_go (t : Bustle) (i : Nat) :
    t.store.Turn (t.request? length (.order (.go i))) (t.toTraffic.go length i).store := by
  simp only [request?, Traffic.go]
  cases t.visits i with
  | none => exact .idle
  | some v => exact turn_advance _ _ _ _

theorem turn_leave (t : Bustle) (i : Nat) :
    t.store.Turn (t.request? length (.order (.leave i))) (t.toTraffic.leave i).store := by
  simp only [request?, Traffic.leave]
  cases t.visits i with
  | none => exact .idle
  | some v =>
    simp only [Option.bind_some]
    split
    · unfold Store.deserted
      cases v.stage.tx? with
      | none => exact .idle
      | some tx => exact .perform t.clock (.discard tx)
    · exact .idle

theorem turn_call (t : Bustle) (tx : TxId) (c : Tx.Call) :
    t.store.Turn (t.request? length (.hand (.call tx c))) (t.call tx c).store := by
  simp only [request?, call]
  cases t.hands tx with
  | none => exact .idle
  | some waits =>
    simp only [Option.bind_some]
    split
    · have hturn := Store.Turn.perform (s := t.store) t.clock (c.request tx)
      split <;> rename_i hp <;> rwa [hp] at hturn
    · exact .idle

theorem turn_step (t : Bustle) (e : Event) :
    t.store.Turn (t.request? length e) (t.step length e).store := by
  cases e with
  | order event =>
    cases event with
    | arrive order => exact .idle
    | go i => exact t.turn_go i
    | expire i =>
      simp only [step, Traffic.step, Traffic.expire]
      split
      · exact .idle
      · split <;> exact .idle
    | leave i => exact t.turn_leave i
    | clock now => exact .idle
    | faults faults => exact .faults faults
  | hand action =>
    cases action with
    | begin => exact .perform t.clock .begin
    | call tx c => exact t.turn_call tx c
    | abandon tx =>
      simp only [step, abandon]
      split
      · exact .unclaim tx _
      · exact .idle
    | commit tx =>
      simp only [step, commit, request?]
      by_cases h : t.hands tx = some none
      · rw [if_pos h, h]
        exact .perform t.clock (.commit tx)
      · rw [if_neg h]
        split
        · rename_i hnone
          exact absurd hnone h
        · exact .idle
    | stop tx =>
      simp only [step, stop, request?]
      cases t.hands tx with
      | some waits => exact .perform t.clock (.discard tx)
      | none => exact .idle
  | putSeat seat => exact .putSeat seat

end Bustle

end BoxOffice
