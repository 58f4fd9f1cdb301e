import BoxOffice.Store
import Mathlib.Logic.Function.Basic
import Mathlib.Data.List.Infix

set_option autoImplicit false

/-!
# What a change of the store leaves alone

A store is looked at through `tx`, `Holds`, `seats.get?` and `bookings`. Every change that one
transaction makes is a `ChangedBy` of it: the others keep their staged writes, their rows and the
committed seats of these rows.
-/

namespace BoxOffice

namespace SeatTable

theorem get?_of_mem {t : SeatTable} {seat : Seat} (h : seat ∈ t.rows) :
    t.get? seat.id = some seat := by
  obtain ⟨rows, ha⟩ := t
  change seat ∈ rows at h
  change rows.find? (fun s => s.id = seat.id) = some seat
  induction rows with
  | nil => cases h
  | cons row rows ih =>
    obtain ⟨hrow, hrows⟩ := List.pairwise_cons.1 ha
    rcases List.mem_cons.1 h with rfl | h
    · rw [List.find?_cons_of_pos (by simp)]
    · have hne : row.id ≠ seat.id := Int.ne_of_lt (hrow seat h)
      rw [List.find?_cons_of_neg (by simpa using hne)]
      exact ih hrows h

theorem mem_of_get? {t : SeatTable} {id : Int} {seat : Seat} (h : t.get? id = some seat) :
    seat ∈ t.rows := List.mem_of_find?_eq_some h

theorem mem_rows_iff {t : SeatTable} {seat : Seat} : seat ∈ t.rows ↔ t.get? seat.id = some seat :=
  ⟨get?_of_mem, mem_of_get?⟩

theorem nodup_rows (t : SeatTable) : t.rows.Nodup :=
  t.ascending.imp fun hlt he => Int.ne_of_lt hlt (congrArg Seat.id he)

theorem eq_of_get? {t u : SeatTable} (h : ∀ r, t.get? r = u.get? r) : t = u := by
  have hperm : t.rows.Perm u.rows := by
    refine (List.perm_ext_iff_of_nodup t.nodup_rows u.nodup_rows).2 fun seat => ?_
    rw [mem_rows_iff, mem_rows_iff, h]
  have hrows : t.rows = u.rows :=
    hperm.eq_of_pairwise (fun a b _ _ hab hba => absurd hab (Int.not_lt.2 (Int.le_of_lt hba)))
      t.ascending u.ascending
  obtain ⟨rows, _⟩ := t
  obtain ⟨rows', _⟩ := u
  cases hrows
  rfl

end SeatTable

namespace Store

open Engine (TxId)

variable {s s' : Store} {a b : TxId} {r : Int}

theorem find?_filter_id (ts : List Tx) (a b : TxId) :
    (ts.filter fun t => t.id ≠ a).find? (fun t => t.id = b) =
      if b = a then none else ts.find? fun t => t.id = b := by
  induction ts with
  | nil => simp
  | cons t ts ih =>
    by_cases ha : t.id = a
    · rw [List.filter_cons_of_neg (by simpa using ha), ih]
      by_cases hb : b = a
      · simp [hb]
      · have hne : t.id ≠ b := fun h => hb (h.symm.trans ha)
        simp [hb, hne]
    · rw [List.filter_cons_of_pos (by simpa using ha), List.find?_cons, List.find?_cons, ih]
      by_cases hb : b = a
      · subst hb
        simp [ha]
      · simp [hb]

theorem tx_setTx (s : Store) (t : Tx) (b : TxId) :
    (s.setTx t).tx b = if b = t.id then t else s.tx b := by
  unfold tx setTx
  rw [List.find?_cons, find?_filter_id]
  by_cases h : b = t.id
  · simp [h]
  · have hne : t.id ≠ b := fun e => h e.symm
    simp [h, hne]

theorem tx_finish (s : Store) (a b : TxId) :
    (s.finish a).tx b = if b = a then .blank a else s.tx b := by
  unfold tx finish
  rw [find?_filter_id]
  by_cases h : b = a
  · simp [h]
  · simp [h]

theorem tx_begin (s : Store) (b : TxId) :
    s.begin.1.tx b = if b = s.nextTx then .blank b else s.tx b := by
  unfold tx Store.begin
  rw [List.find?_cons]
  by_cases h : b = s.nextTx
  · simp [h, Tx.blank]
  · have hne : s.nextTx ≠ b := fun e => h e.symm
    simp [h, hne, Tx.blank]

theorem Holds.eq (ha : s.Holds a r) (hb : s.Holds b r) : a = b :=
  Option.some.inj (ha.symm.trans hb)

theorem Holds.mem_claims (h : s.Holds a r) : ⟨r, a⟩ ∈ s.claims := by
  unfold Holds holder at h
  obtain ⟨c, hc, rfl⟩ := Option.map_eq_some_iff.1 h
  have hr : c.seatId = r := by simpa using List.find?_some hc
  rw [← hr]
  exact List.mem_of_find?_eq_some hc

theorem exists_holds_of_mem_claims (h : ⟨r, a⟩ ∈ s.claims) : ∃ b, s.Holds b r := by
  unfold Holds holder
  cases hc : s.claims.find? fun c => c.seatId = r with
  | none =>
    have := List.find?_eq_none.1 hc _ h
    simp at this
  | some c => exact ⟨c.tx, rfl⟩

theorem holder_append_claim {s : Store} (r : Int) (c : Claim) (h : s.holder r ≠ none) :
    ({ s with claims := s.claims ++ [c] } : Store).holder r = s.holder r := by
  unfold holder at h ⊢
  rw [List.find?_append]
  cases hc : s.claims.find? fun c => c.seatId = r with
  | none => simp [hc] at h
  | some d => rfl

theorem Holds.claim (h : s.Holds a r) (b : TxId) (q : Int) : (s.claim b q).Holds a r := by
  unfold Store.claim
  split
  · exact h
  · unfold Holds at h ⊢
    rw [holder_append_claim r _ (by rw [h]; simp)]
    exact h

theorem tx_claim (s : Store) (a b : TxId) (r : Int) : (s.claim a r).tx b = s.tx b := by
  unfold Store.claim
  split <;> rfl

theorem seats_claim (s : Store) (a : TxId) (r : Int) : (s.claim a r).seats = s.seats := by
  unfold Store.claim
  split <;> rfl

theorem bookings_claim (s : Store) (a : TxId) (r : Int) :
    (s.claim a r).bookings = s.bookings := by
  unfold Store.claim
  split <;> rfl

theorem faults_claim (s : Store) (a : TxId) (r : Int) : (s.claim a r).faults = s.faults := by
  unfold Store.claim
  split <;> rfl

theorem nextTx_claim (s : Store) (a : TxId) (r : Int) : (s.claim a r).nextTx = s.nextTx := by
  unfold Store.claim
  split <;> rfl

theorem mem_claims_claim {c : Claim} (h : c ∈ (s.claim a r).claims) :
    c ∈ s.claims ∨ c = ⟨r, a⟩ := by
  unfold Store.claim at h
  split at h
  · exact Or.inl h
  · simpa using h

theorem mem_claims_finish {c : Claim} : c ∈ (s.finish a).claims ↔ c ∈ s.claims ∧ c.tx ≠ a := by
  simp [finish]

theorem Holds.filter {p : Claim → Bool} (h : s.Holds b r) (hp : p ⟨r, b⟩ = true) :
    Holds { s with claims := s.claims.filter p } b r := by
  unfold Holds holder at h ⊢
  obtain ⟨⟨q, c⟩, hc, rfl⟩ := Option.map_eq_some_iff.1 h
  obtain ⟨hr, before, after, hcs, hbefore⟩ := List.find?_eq_some_iff_append.1 hc
  obtain rfl : q = r := by simpa using hr
  refine Option.map_eq_some_iff.2 ⟨⟨q, c⟩, List.find?_eq_some_iff_append.2
    ⟨hr, before.filter p, after.filter p, ?_, ?_⟩, rfl⟩
  · change s.claims.filter p = _
    rw [hcs, List.filter_append, List.filter_cons_of_pos hp]
  · exact fun a ha => hbefore a (List.mem_filter.1 ha).1

theorem Holds.finish_of_ne (h : s.Holds b r) (hne : b ≠ a) : (s.finish a).Holds b r :=
  h.filter (by simpa using hne)

theorem Holds.unclaim (h : s.Holds b r) {q : Int} (hne : (⟨r, b⟩ : Claim) ≠ ⟨q, a⟩) :
    (s.unclaim a q).Holds b r :=
  h.filter (decide_eq_true hne)

/-- What everybody but the transaction `a` can rely on when the store changes. -/
structure ChangedBy (a : Option TxId) (s s' : Store) : Prop where
  tx : ∀ b, b < s.nextTx → some b ≠ a → s'.tx b = s.tx b
  holds : ∀ b r, some b ≠ a → s.Holds b r → s'.Holds b r
  seat : ∀ b r, some b ≠ a → s.Holds b r → s'.seats.get? r = s.seats.get? r
  nextTx : s.nextTx ≤ s'.nextTx
  bookings : s.bookings <+: s'.bookings

theorem ChangedBy.refl (a : Option TxId) (s : Store) : ChangedBy a s s :=
  ⟨fun _ _ _ => rfl, fun _ _ _ h => h, fun _ _ _ _ => rfl, Nat.le_refl _, List.prefix_refl _⟩

theorem ChangedBy.faults (a : Option TxId) (s : Store) (f : Faults) :
    ChangedBy a s { s with faults := f } :=
  ⟨fun _ _ _ => rfl, fun _ _ _ h => h, fun _ _ _ _ => rfl, Nat.le_refl _, List.prefix_refl _⟩

theorem changedBy_begin (s : Store) : ChangedBy none s s.begin.1 where
  tx b hb _ := by
    rw [tx_begin, if_neg (Nat.ne_of_lt hb)]
  holds _ _ _ h := h
  seat _ _ _ _ := rfl
  nextTx := Nat.le_succ _
  bookings := List.prefix_refl _

theorem changedBy_claim (s : Store) (a : TxId) (r : Int) : ChangedBy (some a) s (s.claim a r) where
  tx b _ _ := tx_claim s a b r
  holds b q _ h := h.claim a r
  seat b q _ _ := by rw [seats_claim]
  nextTx := by rw [nextTx_claim]
  bookings := by rw [bookings_claim]

theorem changedBy_setTx (s : Store) (n : Nat) (t : Tx) (ha : t.id = a) :
    ChangedBy (some a) s ({ s with lastBooking := n }.setTx t) where
  tx b _ hb := by
    rw [tx_setTx, if_neg]
    · rfl
    rintro rfl
    exact hb (congrArg some ha)
  holds _ _ _ h := h
  seat _ _ _ _ := rfl
  nextTx := Nat.le_refl _
  bookings := List.prefix_refl _

theorem changedBy_finish (s : Store) (a : TxId) : ChangedBy (some a) s (s.finish a) where
  tx b _ hb := by
    rw [tx_finish, if_neg]
    rintro rfl
    exact hb rfl
  holds b r hb h := h.finish_of_ne fun e => hb (congrArg some e)
  seat _ _ _ _ := rfl
  nextTx := Nat.le_refl _
  bookings := List.prefix_refl _

theorem get?_putAll_of_forall_ne (t : SeatTable) (rows : List Seat) (id : Int)
    (h : ∀ row ∈ rows, row.id ≠ id) : (t.putAll rows).get? id = t.get? id := by
  induction rows generalizing t with
  | nil => rfl
  | cons row rows ih =>
    have hrow := h row List.mem_cons_self
    change ((t.put row).putAll rows).get? id = _
    rw [ih _ fun q hq => h q (List.mem_cons_of_mem _ hq), t.get?_put, if_neg hrow]

def committed (s : Store) (a : TxId) : Store :=
  { s.finish a with
    seats := s.seats.putAll (s.tx a).seats.rows
    bookings := s.bookings ++ (s.tx a).bookings }

theorem commit_eq (s : Store) (a : TxId) :
    s.commit a =
      if s.faults.commits then (s.finish a, .error (.unavailable "commit failed"))
      else if (s.tx a).bookings.any fun b => keyTaken s.bookings b.userId b.key then
        (s.finish a, .error .keyTaken)
      else (s.committed a, .ok ()) := rfl

theorem seats_committed {seat : Seat} {bs : List Booking}
    (h : s.tx a = ⟨a, SeatTable.empty.put seat, bs⟩) :
    (s.committed a).seats = s.seats.put seat := by
  simp only [committed, h]
  rfl

theorem bookings_committed {seats : SeatTable} {bs : List Booking}
    (h : s.tx a = ⟨a, seats, bs⟩) : (s.committed a).bookings = s.bookings ++ bs := by
  simp only [committed, h]

theorem changedBy_committed (h : ∀ row ∈ (s.tx a).seats.rows, s.Holds a row.id) :
    ChangedBy (some a) s (s.committed a) where
  tx := (changedBy_finish s a).tx
  holds := (changedBy_finish s a).holds
  seat b r hb hr := by
    refine get?_putAll_of_forall_ne _ _ _ fun row hrow he => ?_
    have hrow := h row hrow
    rw [he] at hrow
    exact hb (congrArg some (hr.eq hrow))
  nextTx := Nat.le_refl _
  bookings := List.prefix_append _ _

theorem fetch_cases (hb : s.tx a = .blank a) :
    (∃ seat s', s.fetch a r = (s', some (.ok seat)) ∧ (s' = s ∨ s' = s.claim a r) ∧
      s'.Holds a r ∧ s.seats.get? r = some seat) ∨
    (s.fetch a r = (s, some (.error (.notFound "seat"))) ∧ s.seats.get? r = none) ∨
    (s.fetch a r = (s.claim a r, none) ∧ ¬(s.claim a r).Holds a r ∧ s.seats.get? r ≠ none) := by
  have hread : ∀ s' : Store, s'.tx a = .blank a → s'.seats = s.seats →
      s'.readHeld a r = ((s.seats.get? r).elim (.error (.notFound "seat")) .ok) := by
    intro s' ht hs
    unfold readHeld read?
    rw [ht, hs]
    cases s.seats.get? r <;> rfl
  unfold fetch
  by_cases hs : s.Holds a r
  · rw [if_pos hs, hread s hb rfl]
    cases hg : s.seats.get? r with
    | none => exact Or.inr (Or.inl ⟨rfl, rfl⟩)
    | some seat => exact Or.inl ⟨seat, s, rfl, Or.inl rfl, hs, rfl⟩
  · rw [if_neg hs]
    cases hg : s.seats.get? r with
    | none => exact Or.inr (Or.inl ⟨rfl, rfl⟩)
    | some seat =>
      simp only [Option.isNone_some, Bool.false_eq_true, if_false]
      by_cases hc : (s.claim a r).Holds a r
      · rw [if_pos hc, hread _ ((tx_claim s a a r).trans hb) (seats_claim s a r), hg]
        exact Or.inl ⟨seat, s.claim a r, rfl, Or.inr rfl, hc, rfl⟩
      · rw [if_neg hc]
        exact Or.inr (Or.inr ⟨rfl, hc, by simp⟩)

theorem update_of_holds {seat : Seat} (hb : s.tx a = .blank a) (hr : s.Holds a r)
    (hg : s.seats.get? r = some seat) (state : SeatState) :
    s.update a r state = (s.setTx ⟨a, SeatTable.empty.put { seat with state }, []⟩, .ok ()) := by
  have hread : s.read? a r = some seat := by
    unfold read?
    rw [hb, hg]
    rfl
  unfold update
  rw [if_neg (not_not_intro hr), hread, hb]
  rfl

theorem keyTaken_eq_false_iff (bs : List Booking) (user : Int) (key : Option String) :
    keyTaken bs user key = false ↔ ∀ k, key = some k → ∀ b ∈ bs, ¬b.HasKey user k := by
  cases key with
  | none => simp [keyTaken]
  | some k => simp [keyTaken, List.any_eq_false]

theorem keyTaken_eq_true_iff (bs : List Booking) (user : Int) (key : Option String) :
    keyTaken bs user key = true ↔ ∃ k, key = some k ∧ ∃ b ∈ bs, b.HasKey user k := by
  cases key with
  | none => simp [keyTaken]
  | some k => simp [keyTaken, List.any_eq_true]

theorem filter_eq_singleton {α : Type} {bs : List α} {p : α → Bool} {b : α}
    (hp : bs.Pairwise fun a b => ¬(p a = true ∧ p b = true)) (hm : b ∈ bs) (hb : p b = true) :
    bs.filter p = [b] := by
  induction bs with
  | nil => cases hm
  | cons a bs ih =>
    obtain ⟨ha, hbs⟩ := List.pairwise_cons.1 hp
    rcases List.mem_cons.1 hm with rfl | hm
    · rw [List.filter_cons_of_pos hb, List.filter_eq_nil_iff.2]
      exact fun c hc h => ha c hc ⟨hb, h⟩
    · rw [List.filter_cons_of_neg fun h => ha b hm ⟨h, hb⟩]
      exact ih hbs hm

theorem findBooking_eq_none_iff (s : Store) (user : Int) (key : String) :
    s.findBooking user key = none ↔ ∀ b ∈ s.bookings, ¬b.HasKey user key := by
  simp [findBooking, List.find?_eq_none]

theorem findBooking_eq_some {user : Int} {key : String} {b : Booking}
    (h : s.findBooking user key = some b) : b ∈ s.bookings ∧ b.HasKey user key :=
  ⟨List.mem_of_find?_eq_some h, by simpa using List.find?_some h⟩

end Store

end BoxOffice
