import BoxOffice.Proofs.OrderSoundness

set_option autoImplicit false

/-!
# Many orders over one store

In a traffic the orders under way take turns at their requests, in any order. Between two requests
the clock may move either way, faults may be switched, waits may run out and visitors may leave.
`Traffic.Sound` holds of every traffic that starts from a store at rest.
-/

namespace BoxOffice

open Engine (TxId Order Stage Gain Advance)
open Function (update)

structure Visit where
  order : Order
  stage : Stage
deriving DecidableEq

structure Traffic where
  store : Store
  clock : Instant
  /-- By number of arrival; a visitor who left is none. -/
  visits : Nat → Option Visit
  arrivals : Nat

inductive Event where
  | arrive (order : Order)
  | go (visit : Nat)
  | expire (visit : Nat)
  | leave (visit : Nat)
  | clock (now : Instant)
  | faults (faults : Faults)
deriving DecidableEq

structure Store.AtRest (s : Store) : Prop where
  running : s.running = []
  claims : s.claims = []

def Store.deserted (s : Store) (stage : Stage) : Store :=
  match stage.tx? with
  | some tx => s.finish tx
  | none => s

namespace Traffic

def ofStore (s : Store) (clock : Instant) : Traffic := ⟨s, clock, fun _ => none, 0⟩

def arrive (t : Traffic) (order : Order) : Traffic :=
  { t with
    visits := update t.visits t.arrivals (some ⟨order, order.first⟩)
    arrivals := t.arrivals + 1 }

def go (length : Span) (t : Traffic) (i : Nat) : Traffic :=
  match t.visits i with
  | none => t
  | some v =>
    let (store, stage) := v.order.advance length t.store t.clock v.stage
    { t with store, visits := update t.visits i (some ⟨v.order, stage⟩) }

def expire (t : Traffic) (i : Nat) : Traffic :=
  match t.visits i with
  | none => t
  | some v =>
    if v.stage.isWaiting then
      { t with visits := update t.visits i (some ⟨v.order, v.stage.expire⟩) }
    else t

def leave (t : Traffic) (i : Nat) : Traffic :=
  match t.visits i with
  | none => t
  | some v =>
    if v.stage.isWaiting then
      { t with store := t.store.deserted v.stage, visits := update t.visits i none }
    else t

def step (length : Span) (t : Traffic) : Event → Traffic
  | .arrive order => t.arrive order
  | .go i => t.go length i
  | .expire i => t.expire i
  | .leave i => t.leave i
  | .clock now => { t with clock := now }
  | .faults faults => { t with store := { t.store with faults } }

def run (length : Span) (t : Traffic) (events : List Event) : Traffic :=
  events.foldl (step length) t

def Along (length : Span) (P : Traffic → Event → Prop) : Traffic → List Event → Prop
  | _, [] => True
  | t, e :: events => P t e ∧ Along length P (t.step length e) events

instance decidableAlong {length : Span} {P : Traffic → Event → Prop} [∀ t e, Decidable (P t e)] :
    ∀ t events, Decidable (Along length P t events)
  | _, [] => .isTrue trivial
  | t, e :: events =>
    have : Decidable (Along length P (t.step length e) events) := decidableAlong _ _
    inferInstanceAs (Decidable (P t e ∧ Along length P (t.step length e) events))

/-- The reading of the clock that an event takes for an order on this seat. -/
def reading? (r : Int) (t : Traffic) : Event → Option Instant
  | .go i =>
    match t.visits i with
    | some ⟨order, .deciding _ _⟩ => if order.seatId = r then some t.clock else none
    | _ => none
  | _ => none

def readings (length : Span) (r : Int) : Traffic → List Event → List Instant
  | _, [] => []
  | t, e :: events => (t.reading? r e).toList ++ readings length r (t.step length e) events

def tenMinutes : Span := ⟨600000000000, by decide, by decide⟩

structure Sound (length : Span) (t : Traffic) : Prop where
  stage : ∀ i v, t.visits i = some v → Engine.Sound length t.store v.order v.stage
  tx_lt : ∀ i v tx, t.visits i = some v → v.stage.tx? = some tx → tx < t.store.nextTx
  tx_inj : ∀ i j v w tx, t.visits i = some v → t.visits j = some w →
    v.stage.tx? = some tx → w.stage.tx? = some tx → i = j
  claim : ∀ c ∈ t.store.claims, ∃ i v, t.visits i = some v ∧ v.stage.tx? = some c.tx ∧
    c.seatId = v.order.seatId
  lt_arrivals : ∀ i v, t.visits i = some v → i < t.arrivals

inductive Happens (length : Span) (t : Traffic) : Event → Traffic → Prop
  | arrives (order : Order) : Happens length t (.arrive order) (t.arrive order)
  | goes {i v s' stage'} (hv : t.visits i = some v)
      (ha : Advance length t.store t.clock v.order v.stage s' stage') :
      Happens length t (.go i)
        { t with store := s', visits := update t.visits i (some ⟨v.order, stage'⟩) }
  | expires {i v} (hv : t.visits i = some v) (hw : v.stage.isWaiting = true) :
      Happens length t (.expire i)
        { t with visits := update t.visits i (some ⟨v.order, v.stage.expire⟩) }
  | leaves {i v} (hv : t.visits i = some v) (hw : v.stage.isWaiting = true) :
      Happens length t (.leave i)
        { t with store := t.store.deserted v.stage, visits := update t.visits i none }
  | clock (now : Instant) : Happens length t (.clock now) { t with clock := now }
  | faults (faults : Faults) :
      Happens length t (.faults faults) { t with store := { t.store with faults } }
  | nothing {e} : Happens length t e t

variable {length : Span} {s : Store} {t t' : Traffic} {e : Event} {i j : Nat} {v w : Visit}

@[simp]
theorem run_nil : t.run length [] = t := rfl

@[simp]
theorem run_cons (events : List Event) :
    t.run length (e :: events) = (t.step length e).run length events := rfl

theorem run_append (es fs : List Event) :
    t.run length (es ++ fs) = (t.run length es).run length fs :=
  List.foldl_append

theorem sound_ofStore (hs : s.AtRest) (clock : Instant) : (ofStore s clock).Sound length where
  stage _ _ hv := by cases hv
  tx_lt _ _ _ hv := by cases hv
  tx_inj _ _ _ _ _ hv := by cases hv
  claim c hc := by
    change c ∈ s.claims at hc
    rw [hs.claims] at hc
    cases hc
  lt_arrivals _ _ hv := by cases hv

theorem happens (ht : t.Sound length) (e : Event) : Happens length t e (t.step length e) := by
  cases e with
  | arrive order => exact .arrives order
  | go i =>
    simp only [step, go]
    split
    · exact .nothing
    · rename_i v hv
      exact .goes hv (Engine.advance_of_sound (ht.stage i v hv))
  | expire i =>
    simp only [step, expire]
    split
    · exact .nothing
    · rename_i v hv
      split
      · rename_i hw
        exact .expires hv hw
      · exact .nothing
  | leave i =>
    simp only [step, leave]
    split
    · exact .nothing
    · rename_i v hv
      split
      · rename_i hw
        exact .leaves hv hw
      · exact .nothing
  | clock now => exact .clock now
  | faults f => exact .faults f

end Traffic

end BoxOffice
