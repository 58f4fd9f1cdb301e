import BoxOffice.Proofs.DraftedStores
import BoxOffice.Proofs.HoldPromise
import Mathlib.Logic.Embedding.Basic

set_option autoImplicit false

namespace BoxOffice

open Engine (TxId Order Stage Gain)
open Function (update)

abbrev Key := { key : String // key ≠ "" }

abbrev Renaming := Int → Key ↪ Key

namespace Renaming

variable (ρ : Renaming) (user : Int)

/-- The empty key is none, and stays as it is. -/
def text (key : String) : String := if h : key = "" then key else (ρ user ⟨key, h⟩).1

variable {ρ user} {key key' : String}

theorem text_of_ne (h : key ≠ "") : ρ.text user key = (ρ user ⟨key, h⟩).1 := dif_neg h

@[simp]
theorem text_eq_empty_iff : ρ.text user key = "" ↔ key = "" := by
  by_cases h : key = ""
  · rw [text, dif_pos h]
  · rw [text_of_ne h]
    exact iff_of_false (ρ user ⟨key, h⟩).2 h

theorem text_inj : ρ.text user key = ρ.text user key' ↔ key = key' := by
  refine ⟨fun h => ?_, fun h => h ▸ rfl⟩
  have hempty : key = "" ↔ key' = "" := by
    rw [← text_eq_empty_iff, h, text_eq_empty_iff]
  by_cases hkey : key = ""
  · rw [hkey, hempty.1 hkey]
  · rw [text_of_ne hkey, text_of_ne (mt hempty.2 hkey)] at h
    exact congrArg Subtype.val ((ρ user).injective (Subtype.ext h))

end Renaming

def Sale.rename (ρ : Renaming) (sale : Sale) : Sale :=
  { sale with key := sale.key.map (ρ.text sale.userId) }

def Booking.rename (ρ : Renaming) (b : Booking) : Booking :=
  { b with key := b.key.map (ρ.text b.userId) }

namespace Engine

def Order.rename (ρ : Renaming) : Order → Order
  | .hold seatId userId => .hold seatId userId
  | .buy showId seatId userId givenKey =>
    .buy showId seatId userId (givenKey.map (ρ.text userId))

def Gain.rename (ρ : Renaming) : Gain → Gain
  | hold since => hold since
  | sale booking => sale (booking.rename ρ)

def Stage.rename (ρ : Renaming) (user : Int) : Stage → Stage
  | lookUp key => lookUp (ρ.text user key)
  | recording tx sale => recording tx (sale.rename ρ)
  | committing tx gain => committing tx (gain.rename ρ)
  | lookAgain key e => lookAgain (ρ.text user key) e
  | stage => stage

end Engine

def Tx.rename (ρ : Renaming) (t : Tx) : Tx := { t with bookings := t.bookings.map (·.rename ρ) }

def Store.rename (ρ : Renaming) (s : Store) : Store :=
  { s with
    bookings := s.bookings.map (·.rename ρ)
    running := s.running.map (·.rename ρ) }

def Visit.rename (ρ : Renaming) (v : Visit) : Visit :=
  ⟨v.order.rename ρ, v.stage.rename ρ v.order.userId⟩

def Event.rename (ρ : Renaming) : Event → Event
  | .arrive order => .arrive (order.rename ρ)
  | event => event

def Traffic.rename (ρ : Renaming) (t : Traffic) : Traffic :=
  { t with
    store := t.store.rename ρ
    visits := fun i => (t.visits i).map (·.rename ρ) }

variable {ρ : Renaming} {s : Store} {tx : TxId} {r user : Int} {key : String}

namespace Engine

variable {order : Order} {stage : Stage} {length : Span} {e : BookingError}

@[simp]
theorem seatId_rename : (order.rename ρ).seatId = order.seatId := by cases order <;> rfl

@[simp]
theorem userId_rename : (order.rename ρ).userId = order.userId := by cases order <;> rfl

@[simp]
theorem admits_rename {seat : Seat} {now : Instant} :
    (order.rename ρ).admits length seat now = order.admits length seat now := by
  cases order <;> rfl

@[simp]
theorem newState_rename {now : Instant} :
    (order.rename ρ).newState now = order.newState now := by
  cases order <;> rfl

@[simp]
theorem key_rename : (order.rename ρ).key = order.key.map (ρ.text order.userId) := by
  cases order with
  | hold r user => rfl
  | buy showId r user givenKey =>
    cases givenKey with
    | none => rfl
    | some key =>
      by_cases h : key = "" <;>
        simp [Order.rename, Order.key, Order.userId, Option.filter, h]

@[simp]
theorem first_rename : (order.rename ρ).first = order.first.rename ρ order.userId := by
  unfold Order.first
  rw [key_rename]
  cases order.key <;> rfl

theorem refuse_rename : (order.rename ρ).refuse e = (order.refuse e).rename ρ order.userId := by
  unfold Order.refuse
  rw [key_rename]
  cases order.key with
  | none => rfl
  | some key =>
    simp only [Option.map_some]
    split <;> rfl

theorem afterWrite_rename {now : Instant} :
    (order.rename ρ).afterWrite tx r now = (order.afterWrite tx r now).rename ρ order.userId := by
  cases order with
  | hold => rfl
  | buy showId seatId user givenKey =>
    have hkey : ((Order.buy showId seatId user givenKey).rename ρ).key =
        (Order.buy showId seatId user givenKey).key.map (ρ.text user) := key_rename
    rw [Order.rename] at hkey
    simp only [Order.rename, Order.afterWrite, Stage.rename, Sale.rename, hkey]

@[simp]
theorem outcome_rename {gain : Gain} : (gain.rename ρ).outcome length = gain.outcome length := by
  cases gain <;> rfl

@[simp]
theorem isWaiting_rename : (stage.rename ρ user).isWaiting = stage.isWaiting := by
  cases stage <;> rfl

@[simp]
theorem tx?_rename : (stage.rename ρ user).tx? = stage.tx? := by cases stage <;> rfl

theorem expire_rename : (stage.rename ρ user).expire = stage.expire.rename ρ user := by
  cases stage <;> rfl

end Engine

namespace Store

theorem hasKey_rename {b : Booking} :
    (b.rename ρ).HasKey user (ρ.text user key) ↔ b.HasKey user key := by
  unfold Booking.HasKey Booking.rename
  refine and_congr_right fun hu => ?_
  rw [hu]
  cases b.key with
  | none => exact iff_of_false nofun nofun
  | some other => simp only [Option.map_some, Option.some.injEq, Renaming.text_inj]

theorem findBooking_rename :
    (s.rename ρ).findBooking user (ρ.text user key) =
      (s.findBooking user key).map (·.rename ρ) := by
  unfold findBooking rename
  rw [List.find?_map]
  congr 2
  funext b
  exact decide_eq_decide.2 hasKey_rename

theorem keyTaken_rename {bookings : List Booking} {key : Option String} :
    keyTaken (bookings.map (·.rename ρ)) user (key.map (ρ.text user)) =
      keyTaken bookings user key := by
  cases key with
  | none => rfl
  | some key =>
    simp only [keyTaken, Option.map_some, List.any_map]
    congr 1
    funext b
    exact decide_eq_decide.2 hasKey_rename

theorem tx_rename : (s.rename ρ).tx tx = (s.tx tx).rename ρ := by
  have hfind : (s.rename ρ).running.find? (fun t => t.id = tx) =
      (s.running.find? fun t => t.id = tx).map (·.rename ρ) := List.find?_map
  unfold Store.tx
  rw [hfind]
  cases s.running.find? fun t => t.id = tx <;> rfl

theorem setTx_rename (ρ : Renaming) (s : Store) (t : Tx) :
    (s.rename ρ).setTx (t.rename ρ) = (s.setTx t).rename ρ := by
  unfold setTx rename
  rw [List.map_cons, List.filter_map]
  rfl

theorem finish_rename : (s.rename ρ).finish tx = (s.finish tx).rename ρ := by
  unfold finish rename
  rw [List.filter_map]
  rfl

theorem seats_rename : (s.rename ρ).seats = s.seats := rfl

theorem faults_rename : (s.rename ρ).faults = s.faults := rfl

theorem holds_rename : (s.rename ρ).Holds tx r ↔ s.Holds tx r := Iff.rfl

theorem claim_rename : (s.rename ρ).claim tx r = (s.claim tx r).rename ρ := by
  by_cases h : (⟨r, tx⟩ : Claim) ∈ s.claims
  · rw [claim, claim, if_pos h, if_pos (show _ ∈ (s.rename ρ).claims from h)]
  · rw [claim, claim, if_neg h, if_neg (show _ ∉ (s.rename ρ).claims from h)]
    rfl

theorem read?_rename : (s.rename ρ).read? tx r = s.read? tx r := by
  unfold read?
  rw [tx_rename]
  rfl

theorem readHeld_rename : (s.rename ρ).readHeld tx r = s.readHeld tx r := by
  unfold readHeld
  rw [read?_rename]

theorem fetch_rename :
    (s.rename ρ).fetch tx r = ((s.fetch tx r).1.rename ρ, (s.fetch tx r).2) := by
  simp only [fetch, claim_rename, readHeld_rename, holds_rename, seats_rename]
  split
  · rfl
  · split
    · rfl
    · split <;> rfl

theorem update_rename {state : SeatState} :
    (s.rename ρ).update tx r state =
      ((s.update tx r state).1.rename ρ, (s.update tx r state).2) := by
  simp only [update, holds_rename, read?_rename, tx_rename]
  split
  · rfl
  · cases s.read? tx r with
    | none => rfl
    | some seat =>
      exact congrArg (·, Except.ok ())
        (setTx_rename ρ s { s.tx tx with seats := (s.tx tx).seats.put { seat with state } })

theorem stage_rename {t : Tx} {b : Booking} :
    { t.rename ρ with bookings := (t.rename ρ).bookings ++ [b.rename ρ] } =
      Tx.rename ρ { t with bookings := t.bookings ++ [b] } := by
  unfold Tx.rename
  rw [List.map_append]
  rfl

theorem insert_rename {sale : Sale} :
    (s.rename ρ).insert tx (sale.rename ρ) =
      ((s.insert tx sale).1.rename ρ, (s.insert tx sale).2.map (·.rename ρ)) := by
  have hkeys : keyTaken (((s.tx tx).rename ρ).bookings ++ (s.rename ρ).bookings)
      (sale.rename ρ).userId (sale.rename ρ).key =
        keyTaken ((s.tx tx).bookings ++ s.bookings) sale.userId sale.key := by
    change keyTaken ((s.tx tx).bookings.map _ ++ s.bookings.map _) _ _ = _
    rw [← List.map_append]
    exact keyTaken_rename
  simp only [insert, tx_rename, hkeys, faults_rename]
  split
  · rfl
  · split
    · rfl
    · have hset := setTx_rename ρ { s with lastBooking := s.lastBooking + 1 }
        { s.tx tx with bookings := (s.tx tx).bookings ++ [sale.booking (s.lastBooking + 1 : Nat)] }
      rw [← stage_rename] at hset
      exact congrArg (·, Except.ok ((sale.booking (s.lastBooking + 1 : Nat)).rename ρ)) hset

theorem commit_rename :
    (s.rename ρ).commit tx = ((s.commit tx).1.rename ρ, (s.commit tx).2) := by
  have hkeys : (((s.tx tx).rename ρ).bookings.any fun b =>
      keyTaken (s.rename ρ).bookings b.userId b.key) =
        (s.tx tx).bookings.any fun b => keyTaken s.bookings b.userId b.key := by
    change ((s.tx tx).bookings.map _).any _ = _
    rw [List.any_map]
    congr 1
    funext b
    exact keyTaken_rename
  simp only [commit, tx_rename, hkeys, faults_rename, finish_rename]
  split
  · rfl
  · split
    · rfl
    · have hbookings : (s.rename ρ).bookings ++ ((s.tx tx).rename ρ).bookings =
          (s.bookings ++ (s.tx tx).bookings).map (·.rename ρ) := List.map_append.symm
      rw [hbookings]
      rfl

theorem deserted_rename {stage : Stage} :
    (s.rename ρ).deserted (stage.rename ρ user) = (s.deserted stage).rename ρ := by
  unfold deserted
  rw [Engine.tx?_rename]
  cases stage.tx? with
  | none => rfl
  | some tx => exact finish_rename

end Store

theorem Engine.advance_rename {length : Span} {now : Instant} {order : Order} {stage : Stage} :
    (order.rename ρ).advance length (s.rename ρ) now (stage.rename ρ order.userId) =
      ((order.advance length s now stage).1.rename ρ,
        (order.advance length s now stage).2.rename ρ order.userId) := by
  cases stage with
  | lookUp key =>
    simp only [Order.advance, Order.move, Stage.rename, Store.perform, userId_rename,
      Store.findBooking_rename]
    cases s.findBooking order.userId key <;> rfl
  | opening => rfl
  | fetching tx =>
    simp only [Order.advance, Order.move, Stage.rename, Store.perform, seatId_rename,
      Store.fetch_rename]
    rcases s.fetch tx order.seatId with ⟨s', _ | e | seat⟩ <;> rfl
  | withdrawing tx e | undoing tx e =>
    simp only [Order.advance, Order.move, Stage.rename, Store.perform, Store.finish_rename,
      refuse_rename]
  | deciding tx seat =>
    simp only [Order.advance, Order.move, Stage.rename, Store.perform, admits_rename]
    cases order.admits length seat now <;> rfl
  | writing tx r since =>
    simp only [Order.advance, Order.move, Stage.rename, Store.perform, newState_rename,
      Store.update_rename]
    rcases s.update tx r (order.newState since) with ⟨s', e | _⟩
    · rfl
    · exact Prod.ext rfl afterWrite_rename
  | recording tx sale =>
    simp only [Order.advance, Order.move, Stage.rename, Store.perform, Store.insert_rename]
    rcases s.insert tx sale with ⟨s', e | b⟩ <;> rfl
  | committing tx gain =>
    simp only [Order.advance, Order.move, Stage.rename, Store.perform, Store.commit_rename]
    rcases s.commit tx with ⟨s', e | _⟩
    · exact Prod.ext rfl refuse_rename
    · exact Prod.ext rfl (congrArg Stage.finished outcome_rename)
  | givingUp tx =>
    simp only [Order.advance, Order.move, Stage.rename, Store.perform, Store.finish_rename]
  | lookAgain key e =>
    simp only [Order.advance, Order.move, Stage.rename, Store.perform, userId_rename,
      Store.findBooking_rename]
    cases s.findBooking order.userId key <;> rfl
  | finished outcome => rfl

namespace Traffic

variable {length : Span} {t : Traffic}

theorem put_rename {store : Store} {now : Instant} {visits : Nat → Option Visit} {i n : Nat}
    {w : Option Visit} :
    (⟨store, now, update visits i w, n⟩ : Traffic).rename ρ =
      ⟨store.rename ρ, now,
        update (fun j => (visits j).map (·.rename ρ)) i (w.map (·.rename ρ)), n⟩ := by
  have hvisits : (fun j => (update visits i w j).map (·.rename ρ)) =
      update (fun j => (visits j).map (·.rename ρ)) i (w.map (·.rename ρ)) :=
    funext (Function.apply_update (fun _ => Option.map (·.rename ρ)) visits i w)
  exact congrArg (Traffic.mk (store.rename ρ) now · n) hvisits

theorem step_rename (e : Event) :
    (t.rename ρ).step length (e.rename ρ) = (t.step length e).rename ρ := by
  have hvisit : ∀ {i v}, t.visits i = some v → (t.rename ρ).visits i = some (v.rename ρ) := by
    intro i v hv
    simp only [rename, hv, Option.map_some]
  have hnone : ∀ {i}, t.visits i = none → (t.rename ρ).visits i = none := by
    intro i hv
    simp only [rename, hv, Option.map_none]
  cases e with
  | arrive order =>
    simp only [Event.rename, step, arrive, put_rename, Engine.first_rename]
    rfl
  | go i =>
    simp only [Event.rename, step, go]
    cases hv : t.visits i with
    | none => simp only [hnone hv]
    | some v =>
      simp only [hvisit hv, put_rename]
      simp only [Traffic.rename, Visit.rename, Engine.advance_rename, Option.map_some]
  | expire i =>
    simp only [Event.rename, step, expire]
    cases hv : t.visits i with
    | none => simp only [hnone hv]
    | some v =>
      simp only [hvisit hv, Visit.rename, Engine.isWaiting_rename]
      by_cases hw : v.stage.isWaiting = true
      · simp only [if_pos hw, put_rename, Engine.expire_rename]
        rfl
      · simp only [if_neg hw]
  | leave i =>
    simp only [Event.rename, step, leave]
    cases hv : t.visits i with
    | none => simp only [hnone hv]
    | some v =>
      simp only [hvisit hv, Visit.rename, Engine.isWaiting_rename]
      by_cases hw : v.stage.isWaiting = true
      · simp only [if_pos hw, put_rename]
        simp only [Traffic.rename, Store.deserted_rename]
        rfl
      · simp only [if_neg hw]
  | clock | faults => rfl

theorem run_rename (events : List Event) :
    (t.rename ρ).run length (events.map (·.rename ρ)) = (t.run length events).rename ρ := by
  induction events generalizing t with
  | nil => rfl
  | cons e events ih => rw [List.map_cons, run_cons, step_rename, ih, run_cons]

end Traffic

/-- The stores differ only in what other users have booked and other transactions have staged. -/
structure Store.Alike (user : Int) (tx? : Option TxId) (s s' : Store) : Prop where
  seats : s'.seats = s.seats
  claims : s'.claims = s.claims
  nextTx : s'.nextTx = s.nextTx
  faults : s'.faults = s.faults
  lastBooking : s'.lastBooking = s.lastBooking
  tx : ∀ tx ∈ tx?, s'.tx tx = s.tx tx
  bookings : s'.bookings.filter (fun b => b.userId = user) =
    s.bookings.filter fun b => b.userId = user

namespace Store

variable {s' : Store} {tx? : Option TxId}

theorem findBooking_eq_filter :
    s.findBooking user key =
      (s.bookings.filter fun b => b.userId = user).find? fun b => b.HasKey user key := by
  unfold findBooking
  rw [List.find?_filter]
  congr 1
  funext b
  simp only [Booking.HasKey, decide_eq_true_eq]
  by_cases hu : b.userId = user <;> simp [hu]

theorem keyTaken_eq_filter {bookings : List Booking} {key : Option String} :
    keyTaken bookings user key =
      keyTaken (bookings.filter fun b => b.userId = user) user key := by
  cases key with
  | none => rfl
  | some key =>
    simp only [keyTaken, List.any_filter]
    congr 1
    funext b
    by_cases hu : b.userId = user <;> simp [Booking.HasKey, hu]

namespace Alike

theorem findBooking (h : s.Alike user tx? s') : s'.findBooking user key = s.findBooking user key := by
  rw [findBooking_eq_filter, h.bookings, ← findBooking_eq_filter]

theorem keyTaken (h : s.Alike user tx? s') (bookings : List Booking) (key : Option String) :
    Store.keyTaken (bookings ++ s'.bookings) user key =
      Store.keyTaken (bookings ++ s.bookings) user key := by
  rw [keyTaken_eq_filter, List.filter_append, h.bookings, ← List.filter_append,
    ← keyTaken_eq_filter]

theorem holds (h : s.Alike user tx? s') : s'.Holds tx r ↔ s.Holds tx r := by
  unfold Holds holder
  rw [h.claims]

theorem ended (h : s.Alike user tx? s') : s.Alike user none s' :=
  { h with tx := nofun }

theorem begin (h : s.Alike user none s') :
    s.begin.1.Alike user (some s.nextTx) s'.begin.1 where
  seats := h.seats
  claims := h.claims
  nextTx := congrArg (· + 1) h.nextTx
  faults := h.faults
  lastBooking := h.lastBooking
  bookings := h.bookings
  tx := by
    rintro tx ⟨⟩
    rw [tx_begin, tx_begin, if_pos h.nextTx.symm, if_pos rfl]

theorem finish (h : s.Alike user tx? s') (tx : TxId) :
    (s.finish tx).Alike user none (s'.finish tx) where
  seats := h.seats
  claims := congrArg (List.filter _) h.claims
  nextTx := h.nextTx
  faults := h.faults
  lastBooking := h.lastBooking
  bookings := h.bookings
  tx := nofun

theorem claim (h : s.Alike user tx? s') (tx : TxId) (r : Int) :
    (s.claim tx r).Alike user tx? (s'.claim tx r) := by
  unfold Store.claim
  rw [h.claims]
  split
  · exact h
  · exact { h with claims := rfl }

theorem setTx (h : s.Alike user tx? s') {t : Tx} (ht : t.id = tx) :
    (s.setTx t).Alike user (some tx) (s'.setTx t) where
  seats := h.seats
  claims := h.claims
  nextTx := h.nextTx
  faults := h.faults
  lastBooking := h.lastBooking
  bookings := h.bookings
  tx := by
    rintro b ⟨⟩
    rw [tx_setTx, tx_setTx, if_pos ht.symm, if_pos ht.symm]

theorem readHeld (h : s.Alike user (some tx) s') : s'.readHeld tx r = s.readHeld tx r := by
  unfold Store.readHeld read?
  rw [h.tx tx rfl, h.seats]

theorem fetch (h : s.Alike user (some tx) s') (r : Int) :
    ∃ t t' reply, s.fetch tx r = (t, reply) ∧ s'.fetch tx r = (t', reply) ∧
      t.Alike user (some tx) t' := by
  have hclaim := h.claim tx r
  simp only [Store.fetch, h.holds, hclaim.holds, h.seats, h.readHeld, hclaim.readHeld]
  split
  · exact ⟨_, _, _, rfl, rfl, h⟩
  · split
    · exact ⟨_, _, _, rfl, rfl, h⟩
    · split
      · exact ⟨_, _, _, rfl, rfl, hclaim⟩
      · exact ⟨_, _, _, rfl, rfl, hclaim⟩

theorem update (h : s.Alike user (some tx) s') (r : Int) (state : SeatState) :
    ∃ t t' reply, s.update tx r state = (t, reply) ∧ s'.update tx r state = (t', reply) ∧
      t.Alike user (some tx) t' := by
  have hread : s'.read? tx r = s.read? tx r := by
    unfold read?
    rw [h.tx tx rfl, h.seats]
  simp only [Store.update, h.holds, hread, h.tx tx rfl]
  split
  · exact ⟨_, _, _, rfl, rfl, h⟩
  · cases s.read? tx r with
    | none => exact ⟨_, _, _, rfl, rfl, h⟩
    | some seat =>
      refine ⟨_, _, _, rfl, rfl, h.setTx ?_⟩
      exact id_tx s tx

theorem insert (h : s.Alike user (some tx) s') {sale : Sale} (hu : sale.userId = user) :
    ∃ t t' reply, s.insert tx sale = (t, reply) ∧ s'.insert tx sale = (t', reply) ∧
      t.Alike user (some tx) t' := by
  have hnext : ({ s with lastBooking := s.lastBooking + 1 } : Store).Alike user (some tx)
      { s' with lastBooking := s.lastBooking + 1, faults := s.faults } :=
    { h with lastBooking := rfl, faults := rfl }
  simp only [Store.insert, h.tx tx rfl, h.faults, hu, h.keyTaken, h.lastBooking]
  split
  · exact ⟨_, _, _, rfl, rfl, h⟩
  · split
    · exact ⟨_, _, _, rfl, rfl, h⟩
    · refine ⟨_, _, _, rfl, rfl, hnext.setTx ?_⟩
      exact id_tx s tx

theorem commit (h : s.Alike user (some tx) s') (hu : ∀ b ∈ (s.tx tx).bookings, b.userId = user) :
    ∃ t t' reply, s.commit tx = (t, reply) ∧ s'.commit tx = (t', reply) ∧
      t.Alike user none t' := by
  have hkeys : ((s.tx tx).bookings.any fun b => Store.keyTaken s'.bookings b.userId b.key) =
      (s.tx tx).bookings.any fun b => Store.keyTaken s.bookings b.userId b.key := by
    rw [Bool.eq_iff_iff, List.any_eq_true, List.any_eq_true]
    refine exists_congr fun b => and_congr_right fun hb => ?_
    rw [hu b hb]
    exact Bool.eq_iff_iff.1 (h.keyTaken [] b.key)
  have hfinish := h.finish tx
  simp only [Store.commit, h.tx tx rfl, h.faults, hkeys]
  split
  · exact ⟨_, _, _, rfl, rfl, hfinish⟩
  · split
    · exact ⟨_, _, _, rfl, rfl, hfinish⟩
    · refine ⟨_, _, _, rfl, rfl, { hfinish with seats := ?_, bookings := ?_ }⟩
      · exact congrArg (SeatTable.putAll · (s.tx tx).seats.rows) h.seats
      · simp only [List.filter_append, h.bookings]

theorem advance {length : Span} {now : Instant} {order : Order} {stage : Stage}
    (h : s.Alike order.userId stage.tx? s') (hsound : Engine.Sound length s order stage) :
    (order.advance length s' now stage).2 = (order.advance length s now stage).2 ∧
      (order.advance length s now stage).1.Alike order.userId
        (order.advance length s now stage).2.tx? (order.advance length s' now stage).1 := by
  cases stage with
  | lookUp key | lookAgain key e =>
    simp only [Order.advance, Order.move, Store.perform, h.findBooking, true_and]
    cases s.findBooking order.userId key <;> exact h
  | opening => exact ⟨congrArg Stage.fetching h.nextTx, h.begin⟩
  | fetching tx =>
    obtain ⟨t, t', reply, hs, hs', hstore⟩ := Alike.fetch h order.seatId
    simp only [Order.advance, Order.move, Store.perform, hs, hs']
    rcases reply with _ | e | seat <;> exact ⟨rfl, hstore⟩
  | withdrawing tx e | undoing tx e =>
    refine ⟨rfl, ?_⟩
    change (s.finish tx).Alike order.userId (order.refuse e).tx? (s'.finish tx)
    rw [Engine.tx?_refuse]
    exact h.finish tx
  | givingUp tx => exact ⟨rfl, h.finish tx⟩
  | deciding tx seat =>
    simp only [Order.advance, Order.move, Store.perform, true_and]
    cases order.admits length seat now <;> exact h
  | writing tx r since =>
    obtain ⟨t, t', reply, hs, hs', hstore⟩ := Alike.update h r (order.newState since)
    simp only [Order.advance, Order.move, Store.perform, hs, hs', true_and]
    rcases reply with e | _
    · exact hstore
    · cases order <;> exact hstore
  | recording tx sale =>
    have hu : sale.userId = order.userId := by
      cases hsound
      rfl
    obtain ⟨t, t', reply, hs, hs', hstore⟩ := Alike.insert h hu
    simp only [Order.advance, Order.move, Store.perform, hs, hs', true_and]
    rcases reply with e | b <;> exact hstore
  | committing tx gain =>
    have hu : ∀ b ∈ (s.tx tx).bookings, b.userId = order.userId := by
      cases hsound with
      | holding hg ha hs =>
        rw [hs]
        exact fun b hb => absurd hb List.not_mem_nil
      | selling hg ha hs =>
        rw [hs]
        intro b hb
        rw [List.mem_singleton.1 hb]
        rfl
    obtain ⟨t, t', reply, hs, hs', hstore⟩ := Alike.commit h hu
    simp only [Order.advance, Order.move, Store.perform, hs, hs', true_and]
    rcases reply with e | _
    · simp only [Engine.tx?_refuse]
      exact hstore
    · exact hstore
  | finished outcome => exact ⟨rfl, h⟩

end Alike

theorem rename_of_empty (hr : s.running = []) (hb : s.bookings = []) : s.rename ρ = s := by
  unfold rename
  rw [hr, hb, List.map_nil, List.map_nil, ← hr, ← hb]

end Store

namespace Traffic

variable {length : Span} {t : Traffic}

def answer? (t : Traffic) (i : Nat) : Option Engine.Outcome :=
  (t.visits i).bind fun v =>
    match v.stage with
    | .finished outcome => some outcome
    | _ => none

theorem answer?_rename (i : Nat) : (t.rename ρ).answer? i = t.answer? i := by
  unfold answer? rename
  rw [Option.bind_map]
  congr 1
  funext v
  obtain ⟨order, stage⟩ := v
  cases stage <;> rfl

theorem ofStore_rename (hs : s.AtRest) (hb : s.bookings = []) (clock : Instant) :
    (ofStore s clock).rename ρ = ofStore s clock :=
  congrArg (Traffic.mk · clock (fun _ => none) 0) (Store.rename_of_empty hs.running hb)

/-- If every user's keys get other names, everybody is told the same, the seats are the same, and so
are the bookings but for the names. What others have booked, and under which keys, makes no
difference to an order: its next step is the same for all stores that are alike to its user. -/
theorem keys_are_private (hs : s.AtRest) (hb : s.bookings = []) (ρ : Renaming) (clock : Instant)
    (events : List Event) :
    let t := (ofStore s clock).run length events
    let t' := (ofStore s clock).run length (events.map (·.rename ρ))
    (∀ i, t'.answer? i = t.answer? i) ∧
    t'.store.seats = t.store.seats ∧
    t'.store.bookings = t.store.bookings.map (·.rename ρ) ∧
    (∀ showId, (t'.store.seatsOfShow showId).map (Hold.display · t'.clock length) =
      (t.store.seatsOfShow showId).map (Hold.display · t.clock length)) ∧
    ∀ i v other, t.visits i = some v → t.store.Alike v.order.userId v.stage.tx? other →
      (v.order.advance length other t.clock v.stage).2 =
          (v.order.advance length t.store t.clock v.stage).2 ∧
        (v.order.advance length t.store t.clock v.stage).1.Alike v.order.userId
          (v.order.advance length t.store t.clock v.stage).2.tx?
          (v.order.advance length other t.clock v.stage).1 := by
  intro t t'
  have ht' : t' = t.rename ρ := by
    rw [← run_rename, ofStore_rename hs hb]
  have ht : t.Sound length := (sound_ofStore hs clock).run events
  rw [ht']
  refine ⟨answer?_rename, rfl, rfl, fun _ => rfl, ?_⟩
  exact fun i v other hv h => h.advance (ht.stage i v hv)

def exchanged : Renaming := fun user =>
  if user = 7 then (Equiv.swap ⟨"k", by decide⟩ ⟨"x", by decide⟩).toEmbedding
  else Function.Embedding.refl Key

def sentAgain : List Event :=
  holdUnderWay ++ [.go 0, .arrive (.buy 5 1 7 (some "k")), .go 1, .go 1, .go 1, .go 1, .go 1, .go 1,
    .go 1, .arrive (.buy 5 1 7 (some "k")), .go 2]

theorem keys_are_private_when_sent_again :
    oneSeat.AtRest ∧ oneSeat.bookings = [] ∧
      ((ofStore oneSeat .epoch).run tenMinutes (sentAgain.map (·.rename exchanged))).answer? 2 =
        some (.done (.booked 1 true)) ∧
      ((ofStore oneSeat .epoch).run tenMinutes (sentAgain.map (·.rename exchanged))).store.bookings =
        [⟨1, 7, 5, 1, some "x"⟩] := by
  have hs : oneSeat.AtRest := ⟨rfl, rfl⟩
  obtain ⟨hanswer, -, hbookings, -⟩ :=
    @keys_are_private oneSeat tenMinutes hs rfl exchanged .epoch sentAgain
  refine ⟨hs, rfl, ?_, ?_⟩
  · rw [hanswer]
    decide +kernel
  · rw [hbookings]
    decide +kernel

end Traffic

end BoxOffice
