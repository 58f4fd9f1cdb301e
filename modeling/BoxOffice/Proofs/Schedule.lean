import BoxOffice.Store
import Mathlib.Logic.Function.Basic

set_option autoImplicit false

/-!
# Schedules of transactions

Transactions of one store take turns at their calls, in any order. A call to fetch a row may have to
wait; then its transaction makes no other call until the row is its own or it gives the wait up. A
history keeps the calls of the transactions that are open, with their answers, and those of the
transactions that have been committed, in the order of their commits.

The same calls can be made one transaction after the other: `Store.serial`.
-/

namespace BoxOffice

open Engine (TxId)
open Function (update)

def Booking.sale (b : Booking) : Sale := ⟨b.userId, b.showId, b.seatId, b.key⟩

namespace Tx

inductive Call where
  | fetch (seatId : Int)
  | update (seatId : Int) (state : SeatState)
  | insert (sale : Sale)
deriving DecidableEq

def Call.seatId : Call → Int
  | fetch seatId | update seatId _ => seatId
  | insert sale => sale.seatId

/-- A booking that has been staged answers by its sale. Its number tells how many bookings others
have staged before. -/
inductive Answer where
  | seat (reply : Except BookingError Seat)
  | written (reply : Except BookingError Unit)
  | staged (reply : Except BookingError Sale)

def Call.perform (s : Store) (tx : TxId) : Call → Store × Option Answer
  | .fetch seatId => let (s, reply) := s.fetch tx seatId; (s, reply.map .seat)
  | .update seatId state => let (s, reply) := s.update tx seatId state; (s, some (.written reply))
  | .insert sale => let (s, reply) := s.insert tx sale; (s, some (.staged (reply.map Booking.sale)))

structure Entry where
  call : Call
  answer : Answer

/-- The calls that an open transaction has made, and the row that it waits for. -/
structure Script where
  entries : List Entry
  waits : Option Int

def Script.Allows (script : Script) (c : Call) : Prop := ∀ r ∈ script.waits, c = .fetch r

instance (script : Script) (c : Call) : Decidable (script.Allows c) :=
  inferInstanceAs (Decidable (∀ r ∈ script.waits, c = .fetch r))

end Tx

open Tx (Call Answer Entry Script)

structure History where
  store : Store
  scripts : TxId → Option Script
  log : List (List Entry)

inductive History.Action where
  | begin
  /-- Makes a call, or asks again for the row that an earlier one waits for. -/
  | call (tx : TxId) (c : Call)
  | abandon (tx : TxId)
  | commit (tx : TxId)
  | stop (tx : TxId)
deriving DecidableEq

namespace History

def ofStore (s : Store) : History := ⟨s, fun _ => none, []⟩

def call (h : History) (tx : TxId) (c : Call) : History :=
  match h.scripts tx with
  | none => h
  | some script =>
    if script.Allows c then
      match c.perform h.store tx with
      | (store, some answer) =>
        { h with
          store
          scripts := update h.scripts tx (some ⟨script.entries ++ [⟨c, answer⟩], none⟩) }
      | (store, none) =>
        { h with store, scripts := update h.scripts tx (some ⟨script.entries, some c.seatId⟩) }
    else h

def abandon (h : History) (tx : TxId) : History :=
  match h.scripts tx with
  | some ⟨entries, some r⟩ =>
    { h with
      store := h.store.unclaim tx r
      scripts := update h.scripts tx (some ⟨entries, none⟩) }
  | _ => h

def commit (h : History) (tx : TxId) : History :=
  match h.scripts tx with
  | some ⟨entries, none⟩ =>
    let (store, reply) := h.store.commit tx
    { store
      scripts := update h.scripts tx none
      log := match reply with
        | .ok () => h.log ++ [entries]
        | .error _ => h.log }
  | _ => h

def stop (h : History) (tx : TxId) : History :=
  match h.scripts tx with
  | some _ => { h with store := h.store.finish tx, scripts := update h.scripts tx none }
  | none => h

def step (h : History) : Action → History
  | .begin =>
    let (store, tx) := h.store.begin
    { h with store, scripts := update h.scripts tx (some ⟨[], none⟩) }
  | .call tx c => h.call tx c
  | .abandon tx => h.abandon tx
  | .commit tx => h.commit tx
  | .stop tx => h.stop tx

def run (h : History) (actions : List Action) : History := actions.foldl step h

end History

namespace Store

def performAll (tx : TxId) (s : Store) : List Call → Store × List (Option Answer)
  | [] => (s, [])
  | c :: calls =>
    let (s, answer) := c.perform s tx
    let (s, answers) := performAll tx s calls
    (s, answer :: answers)

/-- A whole transaction with nobody else about: the answers to its calls and to its commit. -/
def alone (s : Store) (calls : List Call) :
    Store × List (Option Answer) × Except BookingError Unit :=
  let (s, tx) := s.begin
  let (s, answers) := s.performAll tx calls
  let (s, reply) := s.commit tx
  (s, answers, reply)

def serial (s : Store) :
    List (List Call) → Store × List (List (Option Answer) × Except BookingError Unit)
  | [] => (s, [])
  | calls :: rest =>
    let (s, result) := s.alone calls
    let (s, results) := s.serial rest
    (s, result :: results)

end Store

end BoxOffice
