import BoxOffice.Proofs.Bustle
import BoxOffice.Proofs.Ownership

set_option autoImplicit false

/-!
# What an order stands on

Beside transactions that are driven by hand, and with seats that are replaced at any time, an order
cannot rely on the seat that it has read. It can rely on less: from the moment the row is granted
until its transaction ends the row is its own and does not vanish, and a booking with its key stays
where it is. That is enough for the store never to contradict it.
-/

namespace BoxOffice

open Engine (TxId Request Order Stage Gain)
open Function (update)

structure BookingError.Tellable (e : BookingError) : Prop where
  not_inconsistent : e.kind ≠ .inconsistent
  not_internal : e.kind ≠ .internal
  not_keyTaken : e ≠ .keyTaken

theorem BookingError.tellable_of_kind {e : BookingError}
    (h : e.kind = .notFound ∨ e.kind = .transient) : e.Tellable := by
  refine ⟨fun hk => ?_, fun hk => ?_, ?_⟩
  · simp [hk] at h
  · simp [hk] at h
  · rintro rfl
    simp [BookingError.kind] at h

namespace Engine

def Gain.bookings : Gain → List Booking
  | hold _ => []
  | sale booking => [booking]

/-- A refusal is tellable, or a booking with the order's key is the reason for it. -/
def Order.Explains (order : Order) (s : Store) (e : BookingError) : Prop :=
  e.Tellable ∨ e = .keyTaken ∧ order.KeyBooked s

structure Keeps (s : Store) (tx : TxId) (r : Int) : Prop where
  holds : s.Holds tx r
  row : s.seats.get? r ≠ none

/-- What the store holds for an order at each stage. The seat that was read may be another by now:
only its number and its row count. -/
inductive Firm (s : Store) (order : Order) : Stage → Prop
  | lookUp {key} (hk : order.key = some key) : Firm s order (.lookUp key)
  | opening : Firm s order .opening
  | fetching {tx} (hb : s.tx tx = .blank tx) : Firm s order (.fetching tx)
  | withdrawing {tx e} (he : e.Tellable) : Firm s order (.withdrawing tx e)
  | deciding {tx seat} (hb : s.tx tx = .blank tx) (hr : Keeps s tx order.seatId)
      (hid : seat.id = order.seatId) : Firm s order (.deciding tx seat)
  | writing {tx now} (hb : s.tx tx = .blank tx) (hr : Keeps s tx order.seatId) :
      Firm s order (.writing tx order.seatId now)
  | recording {tx sale} (hb : (s.tx tx).bookings = []) (hu : sale.userId = order.userId)
      (hk : sale.key = order.key) : Firm s order (.recording tx sale)
  | committing {tx gain} (hb : (s.tx tx).bookings = gain.bookings)
      (hg : ∀ b ∈ gain.bookings, b.userId = order.userId ∧ b.key = order.key) :
      Firm s order (.committing tx gain)
  | undoing {tx e} (he : order.Explains s e) : Firm s order (.undoing tx e)
  | givingUp {tx} : Firm s order (.givingUp tx)
  | lookAgain {key e} (hk : order.key = some key) (he : order.Explains s e) :
      Firm s order (.lookAgain key e)
  | finished {outcome} (ho : ∀ e, outcome = .refused e → e.Tellable) :
      Firm s order (.finished outcome)

variable {length : Span} {s s' : Store} {now : Instant} {order : Order} {stage : Stage}
variable {tx : TxId} {r : Int} {e : BookingError}

theorem Order.Explains.mono (h : order.Explains s e) (hb : s.bookings <+: s'.bookings) :
    order.Explains s' e := h.imp_right fun ⟨he, hk⟩ => ⟨he, hk.mono hb⟩

theorem Firm.spares {a : Option TxId} (h : Firm s order stage) (hs : s.Spares a s')
    (ha : ∀ tx, stage.tx? = some tx → some tx ≠ a ∧ tx < s.nextTx) : Firm s' order stage := by
  have same : ∀ {tx}, some tx ≠ a ∧ tx < s.nextTx → s'.tx tx = s.tx tx :=
    fun ⟨hne, hlt⟩ => hs.tx _ hlt hne
  have keeps : ∀ {tx r}, some tx ≠ a ∧ tx < s.nextTx → Keeps s tx r → Keeps s' tx r :=
    fun ⟨hne, _⟩ hr => ⟨hs.holds _ _ hne hr.holds, hs.rows _ hr.row⟩
  cases h with
  | lookUp hk => exact .lookUp hk
  | opening => exact .opening
  | fetching hb => exact .fetching ((same (ha _ rfl)).trans hb)
  | withdrawing he => exact .withdrawing he
  | deciding hb hr hid =>
    exact .deciding ((same (ha _ rfl)).trans hb) (keeps (ha _ rfl) hr) hid
  | writing hb hr => exact .writing ((same (ha _ rfl)).trans hb) (keeps (ha _ rfl) hr)
  | recording hb hu hk => exact .recording (by rwa [same (ha _ rfl)]) hu hk
  | committing hb hg => exact .committing (by rwa [same (ha _ rfl)]) hg
  | undoing he => exact .undoing (he.mono hs.bookings)
  | givingUp => exact .givingUp
  | lookAgain hk he => exact .lookAgain hk (he.mono hs.bookings)
  | finished ho => exact .finished ho

theorem firm_first : Firm s order order.first := by
  unfold Order.first
  split
  · rename_i hk
    exact .lookUp hk
  · exact .opening

theorem Order.Explains.firm (h : order.Explains s e) : Firm s order (order.refuse e) := by
  have finished : e.Tellable → Firm s order (.finished (.refused e)) :=
    fun he => .finished fun _ hr => Outcome.refused.inj hr ▸ he
  unfold Order.refuse
  cases hk : order.key with
  | some key =>
    simp only
    split
    · exact .lookAgain hk h
    · rename_i hne
      exact finished (h.resolve_right fun ⟨he, _⟩ => hne (Or.inl he))
  | none =>
    refine finished (h.resolve_right fun ⟨_, key, hkey, _⟩ => ?_)
    rw [hk] at hkey
    cases hkey

theorem tellable_of_admits {seat : Seat} (h : order.admits length seat now = .error e) :
    e.Tellable := by
  cases order with
  | hold =>
    rcases admits_hold_error h with ⟨rfl, -⟩ | ⟨rfl, -⟩ <;> constructor <;> simp [BookingError.kind]
  | buy =>
    rcases admits_buy_error h with rfl | rfl | rfl | rfl <;> constructor <;>
      simp [BookingError.kind]

theorem firm_overdue : Firm s order (.finished (.refused .lockTimeout)) :=
  .finished fun _ he => Outcome.refused.inj he ▸ BookingError.tellable_of_kind (.inr rfl)

theorem Firm.fetch (hb : s.tx tx = .blank tx) :
    Firm (order.advance length s now (.fetching tx)).1 order
      (order.advance length s now (.fetching tx)).2 := by
  simp only [Order.advance, Order.move, Store.perform]
  rcases Store.fetch_cases (r := order.seatId) hb with
    ⟨seat, t, hf, ht, hh, hg⟩ | ⟨hf, -⟩ | ⟨hf, -, -⟩
  · rw [hf]
    have hid := SeatTable.id_of_get? hg
    rcases ht with rfl | rfl
    · exact .deciding hb ⟨hh, by simp [hg]⟩ hid
    · refine .deciding ((Store.tx_claim _ _ _ _).trans hb) ⟨hh, ?_⟩ hid
      rw [Store.seats_claim, hg]
      exact Option.some_ne_none seat
  · rw [hf]
    exact .withdrawing (BookingError.tellable_of_kind (.inl rfl))
  · rw [hf]
    exact .fetching ((Store.tx_claim _ _ _ _).trans hb)

theorem update_of_keeps (hb : s.tx tx = .blank tx) (hr : Keeps s tx r) (state : SeatState) :
    ∃ seats, s.update tx r state = (s.setTx ⟨tx, seats, []⟩, .ok ()) := by
  obtain ⟨seat, hseat⟩ := Option.ne_none_iff_exists'.1 hr.row
  exact ⟨_, Store.update_of_holds hb hr.holds hseat state⟩

theorem Firm.write (hb : s.tx tx = .blank tx) (hr : Keeps s tx order.seatId) (since : Instant) :
    Firm (order.advance length s now (.writing tx order.seatId since)).1 order
      (order.advance length s now (.writing tx order.seatId since)).2 := by
  simp only [Order.advance, Order.move, Store.perform]
  obtain ⟨seats, hupdate⟩ := update_of_keeps hb hr (order.newState since)
  rw [hupdate]
  have hblank : ((s.setTx ⟨tx, seats, []⟩).tx tx).bookings = [] := by
    rw [Store.tx_setTx, if_pos rfl]
  cases order with
  | hold r user => exact .committing hblank fun b hb => (List.not_mem_nil hb).elim
  | buy showId r user givenKey => exact .recording hblank rfl rfl

theorem Firm.record {sale : Sale} (hb : (s.tx tx).bookings = []) (hu : sale.userId = order.userId)
    (hk : sale.key = order.key) :
    Firm (order.advance length s now (.recording tx sale)).1 order
      (order.advance length s now (.recording tx sale)).2 := by
  simp only [Order.advance, Order.move, Store.perform, Store.insert, hb, List.nil_append]
  by_cases hf : s.faults.inserts = true
  · rw [if_pos hf]
    exact .undoing (.inl (BookingError.tellable_of_kind (.inr rfl)))
  · rw [if_neg hf]
    split
    · rename_i hkey
      rw [hu, hk] at hkey
      exact .undoing (.inr ⟨rfl, (Store.keyTaken_eq_true_iff _ _ _).1 hkey⟩)
    · refine .committing ?_ fun b hb => ?_
      · rw [Store.tx_setTx, if_pos (Store.id_tx s tx).symm]
        rfl
      · obtain rfl := List.mem_singleton.1 hb
        exact ⟨hu, hk⟩

theorem Firm.commit {gain : Gain} (hb : (s.tx tx).bookings = gain.bookings)
    (hg : ∀ b ∈ gain.bookings, b.userId = order.userId ∧ b.key = order.key) :
    Firm (order.advance length s now (.committing tx gain)).1 order
      (order.advance length s now (.committing tx gain)).2 := by
  simp only [Order.advance, Order.move, Store.perform, Store.commit_eq, hb]
  by_cases hf : s.faults.commits = true
  · rw [if_pos hf]
    exact Order.Explains.firm (.inl (BookingError.tellable_of_kind (.inr rfl)))
  · rw [if_neg hf]
    split
    · rename_i hkey
      obtain ⟨b, hmem, htaken⟩ := List.any_eq_true.1 hkey
      obtain ⟨hu, hk⟩ := hg b hmem
      rw [hu, hk] at htaken
      exact Order.Explains.firm (.inr ⟨rfl, (Store.keyTaken_eq_true_iff _ _ _).1 htaken⟩)
    · exact .finished fun e he => absurd he (gain.outcome_ne_refused length e)

theorem Order.Explains.keyBooked (h : order.Explains s .keyTaken) : order.KeyBooked s := by
  rcases h with h | ⟨-, h⟩
  · exact absurd rfl h.not_keyTaken
  · exact h

theorem Order.KeyBooked.findBooking (h : order.KeyBooked s) :
    ∃ key b, order.key = some key ∧ s.findBooking order.userId key = some b := by
  obtain ⟨key, hkey, b, hmem, hb⟩ := h
  have hfound : s.findBooking order.userId key ≠ none :=
    fun hn => (Store.findBooking_eq_none_iff _ _ _).1 hn b hmem hb
  obtain ⟨b', hb'⟩ := Option.ne_none_iff_exists'.1 hfound
  exact ⟨key, b', hkey, hb'⟩

theorem Firm.look {key : String} (hk : order.key = some key) (he : order.Explains s e) :
    Firm (order.advance length s now (.lookAgain key e)).1 order
      (order.advance length s now (.lookAgain key e)).2 := by
  simp only [Order.advance, Order.move, Store.perform]
  cases hf : s.findBooking order.userId key with
  | some b => exact .finished fun _ h => by cases h
  | none =>
    refine .finished fun e' h => ?_
    obtain rfl := Outcome.refused.inj h
    have hne : e ≠ .keyTaken := by
      rintro rfl
      obtain ⟨key', b, hkey, hb⟩ := he.keyBooked.findBooking
      obtain rfl := Option.some.inj (hk.symm.trans hkey)
      exact absurd (hf.symm.trans hb) (Option.some_ne_none b).symm
    rw [unexplained, if_neg hne]
    exact he.resolve_right fun h => hne h.1

theorem Firm.advance (h : Firm s order stage) :
    Firm (order.advance length s now stage).1 order (order.advance length s now stage).2 := by
  cases h with
  | lookUp hk =>
    rename_i key
    simp only [Order.advance, Order.move, Store.perform]
    cases s.findBooking order.userId key with
    | none => exact .opening
    | some b => exact .finished fun _ h => by cases h
  | opening =>
    -- a transaction begins with nothing staged, whatever was left under its number
    refine .fetching ?_
    change s.begin.1.tx s.nextTx = _
    rw [Store.tx_begin, if_pos rfl]
  | fetching hb => exact .fetch hb
  | withdrawing he => exact Order.Explains.firm (.inl he)
  | deciding hb hr hid =>
    rename_i tx seat
    simp only [Order.advance, Order.move, Store.perform]
    cases ha : order.admits length seat now with
    | ok =>
      simp only [hid]
      exact .writing hb hr
    | error e => exact .undoing (.inl (tellable_of_admits ha))
  | writing hb hr => exact .write hb hr _
  | recording hb hu hk => exact .record hb hu hk
  | committing hb hg => exact .commit hb hg
  | undoing he => exact Order.Explains.firm he
  | givingUp => exact firm_overdue
  | lookAgain hk he => exact .look hk he
  | finished ho => exact .finished ho

theorem Firm.expire (h : Firm s order stage) : Firm s order stage.expire := by
  cases h with
  | opening => exact firm_overdue
  | fetching | withdrawing => exact .givingUp
  | lookUp hk => exact .lookUp hk
  | deciding hb hr hid => exact .deciding hb hr hid
  | writing hb hr => exact .writing hb hr
  | recording hb hu hk => exact .recording hb hu hk
  | committing hb hg => exact .committing hb hg
  | undoing he => exact .undoing he
  | givingUp => exact .givingUp
  | lookAgain hk he => exact .lookAgain hk he
  | finished ho => exact .finished ho

end Engine

namespace Bustle

/-- Every order stands firm, and no transaction is driven by two. -/
structure Firm (t : Bustle) : Prop where
  stage : ∀ i v, t.visits i = some v → Engine.Firm t.store v.order v.stage
  tx_lt : ∀ i v tx, t.visits i = some v → v.stage.tx? = some tx → tx < t.store.nextTx
  tx_inj : ∀ i j v w tx, t.visits i = some v → t.visits j = some w →
    v.stage.tx? = some tx → w.stage.tx? = some tx → i = j
  hand_lt : ∀ tx, t.hands tx ≠ none → tx < t.store.nextTx
  apart : ∀ i v tx, t.visits i = some v → v.stage.tx? = some tx → t.hands tx = none

variable {length : Span} {s : Store} {t : Bustle} {i : Nat} {v : Visit} {tx : TxId}

theorem firm_ofStore (s : Store) (clock : Instant) : (ofStore s clock).Firm where
  stage _ _ h := by cases h
  tx_lt _ _ _ h := by cases h
  tx_inj _ _ _ _ _ h := by cases h
  hand_lt _ h := (h rfl).elim
  apart _ _ _ h := by cases h

theorem Firm.move (h : t.Firm) {a : Option TxId} {w : Option Visit}
    (ha : ∀ b, a = some b → ∃ v, t.visits i = some v ∧ v.stage.tx? = some b)
    (hs : t.store.Spares a s) (hw : ∀ u, w = some u → Engine.Firm s u.order u.stage)
    (htx : ∀ u b, w = some u → u.stage.tx? = some b →
      a = some b ∨ (b = t.store.nextTx ∧ s.nextTx = b + 1)) :
    Firm { t with store := s, visits := update t.visits i w } := by
  have apart : ∀ {j u b}, j ≠ i → t.visits j = some u → u.stage.tx? = some b → some b ≠ a := by
    intro j u b hji hj hb he
    obtain ⟨v, hv, hvb⟩ := ha b he.symm
    exact hji (h.tx_inj j i u v b hj hv hb hvb)
  have fresh : ∀ {j u u' b}, j ≠ i → t.visits j = some u → w = some u' →
      u.stage.tx? = some b → u'.stage.tx? ≠ some b := by
    intro j u u' b hji hj hu' hb hb'
    rcases htx u' b hu' hb' with he | ⟨he, -⟩
    · exact apart hji hj hb he.symm
    · exact Nat.ne_of_lt (h.tx_lt j u b hj hb) he
  refine ⟨?_, ?_, ?_, ?_, ?_⟩
  · intro j u hj
    rcases Traffic.of_update hj with ⟨-, hu⟩ | ⟨hji, hj⟩
    · exact hw u hu
    · exact (h.stage j u hj).spares hs fun b hb => ⟨apart hji hj hb, h.tx_lt j u b hj hb⟩
  · intro j u b hj hb
    rcases Traffic.of_update hj with ⟨-, hu⟩ | ⟨-, hj⟩
    · rcases htx u b hu hb with he | ⟨-, hn⟩
      · obtain ⟨v, hv, hvb⟩ := ha b he
        exact Nat.lt_of_lt_of_le (h.tx_lt i v b hv hvb) hs.nextTx
      · exact hn ▸ Nat.lt_succ_self b
    · exact Nat.lt_of_lt_of_le (h.tx_lt j u b hj hb) hs.nextTx
  · intro j k u u' b hj hk hb hb'
    rcases Traffic.of_update hj with ⟨hji, hu⟩ | ⟨hji, hj⟩
    · rcases Traffic.of_update hk with ⟨hki, -⟩ | ⟨hki, hk⟩
      · exact hji.trans hki.symm
      · exact absurd hb (fresh hki hk hu hb')
    · rcases Traffic.of_update hk with ⟨-, hu⟩ | ⟨-, hk⟩
      · exact absurd hb' (fresh hji hj hu hb)
      · exact h.tx_inj j k u u' b hj hk hb hb'
  · exact fun b hb => Nat.lt_of_lt_of_le (h.hand_lt b hb) hs.nextTx
  · intro j u b hj hb
    rcases Traffic.of_update hj with ⟨-, hu⟩ | ⟨-, hj⟩
    · rcases htx u b hu hb with he | ⟨he, -⟩
      · obtain ⟨v, hv, hvb⟩ := ha b he
        exact h.apart i v b hv hvb
      · by_contra hn
        exact Nat.ne_of_lt (h.hand_lt b hn) he
    · exact h.apart j u b hj hb

theorem Firm.byHand (h : t.Firm) (hs : t.store.Spares (some tx) s) (hlt : tx < s.nextTx)
    (hown : ∀ i v, t.visits i = some v → v.stage.tx? ≠ some tx) (w : Option (Option Int)) :
    Firm { t with store := s, hands := update t.hands tx w } where
  stage j u hj :=
    (h.stage j u hj).spares hs fun b hb =>
      ⟨fun he => hown j u hj (hb.trans he), h.tx_lt j u b hj hb⟩
  tx_lt j u b hj hb := Nat.lt_of_lt_of_le (h.tx_lt j u b hj hb) hs.nextTx
  tx_inj := h.tx_inj
  hand_lt b hb := by
    by_cases he : b = tx
    · rw [he]
      exact hlt
    · change update t.hands tx w b ≠ none at hb
      rw [Function.update_of_ne he] at hb
      exact Nat.lt_of_lt_of_le (h.hand_lt b hb) hs.nextTx
  apart j u b hj hb := by
    have hne : b ≠ tx := by
      rintro rfl
      exact hown j u hj hb
    change update t.hands tx w b = none
    rw [Function.update_of_ne hne]
    exact h.apart j u b hj hb

theorem Firm.aside (h : t.Firm) (hs : t.store.Spares none s) : Firm { t with store := s } where
  stage j u hj :=
    (h.stage j u hj).spares hs fun b hb => ⟨(fun he => by cases he), h.tx_lt j u b hj hb⟩
  tx_lt j u b hj hb := Nat.lt_of_lt_of_le (h.tx_lt j u b hj hb) hs.nextTx
  tx_inj := h.tx_inj
  hand_lt b hb := Nat.lt_of_lt_of_le (h.hand_lt b hb) hs.nextTx
  apart := h.apart

theorem Firm.arrive (h : t.Firm) (order : Order) :
    Firm { t with toTraffic := t.toTraffic.arrive order } := by
  have hfirst : ∀ u, some (Visit.mk order order.first) = some u →
      Engine.Firm t.store u.order u.stage := by
    rintro u ⟨⟩
    exact Engine.firm_first
  have hmove : Firm { t with
      visits := update t.visits t.arrivals (some ⟨order, order.first⟩) } := by
    refine h.move (fun b hb => by cases hb) (.refl none _) hfirst ?_
    rintro u b ⟨⟩ hb
    rw [Traffic.tx?_first] at hb
    cases hb
  exact ⟨hmove.stage, hmove.tx_lt, hmove.tx_inj, hmove.hand_lt, hmove.apart⟩

theorem Firm.go (h : t.Firm) (i : Nat) :
    Firm { t with toTraffic := t.toTraffic.go length i } := by
  unfold Traffic.go
  split
  · exact h
  · rename_i v hv
    refine h.move (fun b hb => ⟨v, hv, hb⟩) (Engine.spares_advance _ _ _ _) ?_ ?_
    · rintro u ⟨⟩
      exact (h.stage i v hv).advance
    · rintro u b ⟨⟩ hb
      rcases Engine.tx?_advance length t.store t.clock v.order v.stage with he | he | ⟨he, hn⟩
      · exact absurd (hb.symm.trans he) (Option.some_ne_none b)
      · exact .inl (he.symm.trans hb)
      · obtain rfl := Option.some.inj (hb.symm.trans he)
        exact .inr ⟨rfl, hn⟩

theorem Firm.expire (h : t.Firm) (i : Nat) :
    Firm { t with toTraffic := t.toTraffic.expire i } := by
  unfold Traffic.expire
  split
  · exact h
  · rename_i v hv
    split
    · refine h.move (fun b hb => ⟨v, hv, hb⟩) (.refl _ _) ?_ ?_
      · rintro u ⟨⟩
        exact (h.stage i v hv).expire
      · rintro u b ⟨⟩ hb
        exact .inl ((Engine.tx?_expire _).symm.trans hb)
    · exact h

theorem Firm.leave (h : t.Firm) (i : Nat) : Firm { t with toTraffic := t.toTraffic.leave i } := by
  unfold Traffic.leave
  split
  · exact h
  · rename_i v hv
    split
    · refine h.move (fun b hb => ⟨v, hv, hb⟩) ?_ (fun u hu => by cases hu)
        (fun u b hu => by cases hu)
      exact (Traffic.changedBy_deserted _ _).spares fun r hr => by rwa [Traffic.seats_deserted]
    · exact h

theorem Firm.begin (h : t.Firm) : t.begin.Firm := by
  have hs : t.store.Spares (some t.store.nextTx) t.store.begin.1 :=
    (t.store.spares_perform t.clock .begin).mono (.inl rfl)
  exact h.byHand hs (Nat.lt_succ_self _)
    (fun i v hv htx => Nat.lt_irrefl _ (h.tx_lt i v _ hv htx)) (some none)

theorem Firm.driven (h : t.Firm) (ht : t.hands tx ≠ none) (hs : t.store.Spares (some tx) s)
    (w : Option (Option Int)) : Firm { t with store := s, hands := update t.hands tx w } :=
  h.byHand hs (Nat.lt_of_lt_of_le (h.hand_lt tx ht) hs.nextTx)
    (fun i v hv htx => ht (h.apart i v tx hv htx)) w

theorem Firm.call (h : t.Firm) (tx : TxId) (c : Tx.Call) : (t.call tx c).Firm := by
  unfold Bustle.call
  split
  · exact h
  · rename_i waits hwaits
    have ht : t.hands tx ≠ none := by simp [hwaits]
    split
    · have hs : t.store.Spares (some tx) (t.store.perform t.clock (c.request tx)).1 := by
        have htx : (c.request tx).tx? = some tx := by cases c <;> rfl
        rw [← htx]
        exact t.store.spares_perform t.clock (c.request tx)
      split <;> rename_i hp <;> rw [hp] at hs <;> exact h.driven ht hs _
    · exact h

theorem Firm.abandon (h : t.Firm) (tx : TxId) : (t.abandon tx).Firm := by
  unfold Bustle.abandon
  split
  · rename_i r hr
    exact h.driven (by simp [hr]) (t.store.beside_unclaim tx r).spares _
  · exact h

theorem Firm.commit (h : t.Firm) (tx : TxId) : (t.commit tx).Firm := by
  unfold Bustle.commit
  split
  · rename_i ht
    exact h.driven (by simp [ht]) (t.store.spares_commit tx) _
  · exact h

theorem Firm.stop (h : t.Firm) (tx : TxId) : (t.stop tx).Firm := by
  unfold Bustle.stop
  split
  · rename_i ht
    exact h.driven (by simp [ht]) (t.store.spares_perform t.clock (.discard tx)) _
  · exact h

theorem Firm.step (h : t.Firm) (e : Event) : (t.step length e).Firm := by
  cases e with
  | order event =>
    cases event with
    | arrive order => exact h.arrive order
    | go i => exact h.go i
    | expire i => exact h.expire i
    | leave i => exact h.leave i
    | clock now => exact ⟨h.stage, h.tx_lt, h.tx_inj, h.hand_lt, h.apart⟩
    | faults faults =>
      exact h.aside ((Store.ChangedBy.faults none t.store faults).spares fun _ hr => hr)
  | hand action =>
    cases action with
    | begin => exact h.begin
    | call tx c => exact h.call tx c
    | abandon tx => exact h.abandon tx
    | commit tx => exact h.commit tx
    | stop tx => exact h.stop tx
  | putSeat seat => exact h.aside (t.store.spares_putSeat seat)

theorem Firm.run (h : t.Firm) (events : List Event) : (t.run length events).Firm := by
  induction events generalizing t with
  | nil => exact h
  | cons e events ih => exact ih (h.step e)

/-- However orders, transactions that are driven by hand and new seats come together, no order is
refused because the store is in disorder. The row that an order writes is its own and takes the new
state, and where a key is in the way, the booking with this key is there to be found. -/
theorem orders_meet_no_disorder (s : Store) (clock : Instant) (events : List Event) :
    let t := (ofStore s clock).run length events
    (∀ i order e, t.visits i = some ⟨order, .finished (.refused e)⟩ →
      e.kind ≠ .inconsistent ∧ e.kind ≠ .internal ∧ e ≠ .keyTaken) ∧
    (∀ i order tx r now, t.visits i = some ⟨order, .writing tx r now⟩ →
      t.store.Holds tx r ∧ t.store.seats.get? r ≠ none ∧
        (t.store.update tx r (order.newState now)).2 = .ok ()) ∧
    ∀ i order stage, t.visits i = some ⟨order, stage⟩ →
      (∃ tx, stage = .undoing tx .keyTaken) ∨ (∃ key, stage = .lookAgain key .keyTaken) →
        ∃ key b, order.key = some key ∧ t.store.findBooking order.userId key = some b := by
  intro t
  have h : t.Firm := (firm_ofStore s clock).run events
  refine ⟨fun i order e hv => ?_, fun i order tx r now hv => ?_, fun i order stage hv hst => ?_⟩
  · cases h.stage i _ hv with
    | finished ho =>
      obtain ⟨hi, hn, hk⟩ := ho e rfl
      exact ⟨hi, hn, hk⟩
  · have hfirm : Engine.Firm t.store order (.writing tx r now) := h.stage i _ hv
    cases hfirm with
    | writing hb hr =>
      obtain ⟨seats, hupdate⟩ := Engine.update_of_keeps hb hr (order.newState now)
      exact ⟨hr.holds, hr.row, by rw [hupdate]⟩
  · have hexplains : order.Explains t.store .keyTaken := by
      rcases hst with ⟨tx, rfl⟩ | ⟨key, rfl⟩
      · cases h.stage i _ hv with
        | undoing he => exact he
      · cases h.stage i _ hv with
        | lookAgain hk he => exact he
    exact hexplains.keyBooked.findBooking

def keyMeanwhile : List Event :=
  [.order (.arrive (.hold 1 7)), .order (.go 0), .order (.go 0), .order (.go 0), .order (.go 0),
    .order (.go 0), .order (.arrive (.buy 5 1 7 (some "k"))), .order (.go 1), .order (.go 1),
    .order (.go 1), .order (.go 1), .order (.go 1), .hand .begin,
    .hand (.call 2 (.insert ⟨7, 5, 1, some "k"⟩)), .hand (.commit 2), .order (.go 1),
    .order (.go 1)]

example :
    ((ofStore (.ofSeats [⟨1, 5, "A1", .available⟩]) .epoch).run Traffic.tenMinutes
      keyMeanwhile).visits 1 = some ⟨.buy 5 1 7 (some "k"), .lookAgain "k" .keyTaken⟩ := by
  decide +kernel

end Bustle

end BoxOffice
