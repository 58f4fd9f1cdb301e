import BoxOffice.Proofs.ExpiryArithmetic
import BoxOffice.Session

set_option autoImplicit false

namespace BoxOffice

/-- A value under a lock. There is a mark on it once somebody has broken off while holding it. -/
structure Lock (α : Type) where
  value : α
  marked : Bool

namespace Lock

variable {α : Type}

/-- Taking the lock brings its value, as an error if there is a mark. -/
def take (l : Lock α) : Except α α := if l.marked then .error l.value else .ok l.value

def held (l : Lock α) : α :=
  match l.take with
  | .ok value => value
  | .error value => value

/-- Takes the lock and works on the value in place. `work` says what it leaves behind and whether it
came to its end. -/
def within (l : Lock α) (work : α → α × Bool) : Lock α × Bool :=
  let (value, done) := work l.held
  (⟨value, l.marked || !done⟩, done)

theorem held_eq (l : Lock α) : l.held = l.value := by
  unfold held take
  cases l.marked <;> rfl

end Lock

/-- Moves a reading in place; the sum is there before anything is written. -/
def Instant.shift (t : Instant) (span : Span) : Instant × Bool :=
  match t.add? span with
  | some later => (later, true)
  | none => (t, false)

abbrev HandClock := Lock Instant

namespace HandClock

inductive Move where
  | advance (span : Span)
  | set (target : Instant)

abbrev Entry := Move × Bool

def now (c : HandClock) : Instant := c.held

def turn (c : HandClock) : Move → HandClock × Bool
  | .advance span => c.within fun t => t.shift span
  | .set target => c.within fun _ => (target, true)

def turns (c : HandClock) : List Move → HandClock × List Entry
  | [] => (c, [])
  | m :: rest =>
    let (c', done) := c.turn m
    let (last, log) := turns c' rest
    (last, (m, done) :: log)

end HandClock

namespace Instant

variable {t : Instant} {span : Span}

def Reaches (t : Instant) (span : Span) : Prop := (t.reading.after span.parts).OnCalendar

end Instant

namespace HandClock

variable {c c' : HandClock} {m : Move} {done : Bool} {start : Instant} {log : List Entry}

theorem now_mk (t : Instant) (marked : Bool) : now ⟨t, marked⟩ = t := Lock.held_eq _

/-- What a move can do to a clock, whether there is a mark on its lock or not. -/
inductive Turned (c : HandClock) : Move → HandClock → Bool → Prop
  | advanced {span : Span} {later : Instant} (hlater : c.now.add? span = some later) :
      Turned c (.advance span) ⟨later, c.marked⟩ true
  | brokenOff {span : Span} (hreaches : ¬c.now.Reaches span) :
      Turned c (.advance span) ⟨c.now, true⟩ false
  | set {target : Instant} : Turned c (.set target) ⟨target, c.marked⟩ true

theorem Turned.exact {span : Span} (h : Turned c (.advance span) c' done)
    (hc : c.now.leap = false) :
    c'.now.nanos = c.now.nanos + (if done then span.nanos else 0) ∧ c'.now.leap = false := by
  cases h with
  | advanced hlater =>
    rw [now_mk]
    exact (Instant.add?_eq_some_iff_of_not_leap hc).1 hlater
  | brokenOff =>
    rw [now_mk, if_neg Bool.false_ne_true, Int.add_zero]
    exact ⟨rfl, hc⟩

namespace Entry

def gain : Entry → Int
  | (.advance span, true) => span.nanos
  | _ => 0

end Entry

end HandClock

namespace Session

variable {c : HandClock}

open HandClock (Move Entry)

def move (s : Session) : Move → Session × Bool
  | .advance span =>
    match s.advance span with
    | some later => (later, true)
    | none => (s, false)
  | .set target => (s.setClock target, true)

end Session

end BoxOffice
