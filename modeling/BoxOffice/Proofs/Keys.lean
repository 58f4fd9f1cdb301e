import BoxOffice.Proofs.StoreChanges

set_option autoImplicit false

namespace BoxOffice

open Engine (TxId Request)

def KeysUnique (bs : List Booking) : Prop :=
  bs.Pairwise fun a b => ∀ user key, ¬(a.HasKey user key ∧ b.HasKey user key)

theorem KeysUnique.append {xs ys : List Booking} (hx : KeysUnique xs) (hy : KeysUnique ys)
    (h : ∀ b ∈ ys, Store.keyTaken xs b.userId b.key = false) : KeysUnique (xs ++ ys) := by
  refine List.pairwise_append.2 ⟨hx, hy, fun a ha b hb user key hk => ?_⟩
  obtain ⟨hka, hub, hkb⟩ := hk
  have hn := (Store.keyTaken_eq_false_iff _ _ _).1 (h b hb) key hkb a ha
  rw [hub] at hn
  exact hn hka

theorem KeysUnique.singleton (b : Booking) : KeysUnique [b] := List.pairwise_singleton _ _

theorem KeysUnique.filter {bs : List Booking} (h : KeysUnique bs) {b : Booking} (hm : b ∈ bs)
    {user : Int} {key : String} (hb : b.HasKey user key) :
    bs.filter (fun a => a.HasKey user key) = [b] := by
  refine Store.filter_eq_singleton (h.imp fun h h' => h user key ?_) hm (by simpa using hb)
  exact ⟨of_decide_eq_true h'.1, of_decide_eq_true h'.2⟩

theorem KeysUnique.eq {bs : List Booking} (h : KeysUnique bs) {a b : Booking} (ha : a ∈ bs)
    (hb : b ∈ bs) {user : Int} {key : String} (hka : a.HasKey user key)
    (hkb : b.HasKey user key) : a = b := by
  have he := (h.filter ha hka).symm.trans (h.filter hb hkb)
  exact List.head_eq_of_cons_eq he

namespace Store

/-- The stores that requests of any kind, in any order, lead to. -/
inductive Arises : Store → Prop
  | ofSeats (seats : List Seat) : Arises (.ofSeats seats)
  | perform {s} (h : Arises s) (now : Instant) (request : Request) :
      Arises (s.perform now request).1
  | putSeat {s} (h : Arises s) (seat : Seat) : Arises { s with seats := s.seats.put seat }
  | faults {s} (h : Arises s) (faults : Faults) : Arises { s with faults }
  | unclaim {s} (h : Arises s) (tx : TxId) (r : Int) : Arises (s.unclaim tx r)

structure Keyed (s : Store) : Prop where
  committed : KeysUnique s.bookings
  staged : ∀ tx, KeysUnique (s.tx tx).bookings

variable {s : Store}

theorem Keyed.finish (h : s.Keyed) (tx : TxId) : (s.finish tx).Keyed where
  committed := h.committed
  staged a := by
    rw [tx_finish]
    split
    · exact List.Pairwise.nil
    · exact h.staged a

theorem Keyed.setTx (h : s.Keyed) (n : Nat) {t : Tx} (ht : KeysUnique t.bookings) :
    ({ s with lastBooking := n }.setTx t).Keyed where
  committed := h.committed
  staged a := by
    rw [tx_setTx]
    split
    · exact ht
    · exact h.staged a

theorem Keyed.begin (h : s.Keyed) : s.begin.1.Keyed where
  committed := h.committed
  staged a := by
    rw [tx_begin]
    split
    · exact List.Pairwise.nil
    · exact h.staged a

theorem Keyed.fetch (h : s.Keyed) (tx : TxId) (r : Int) : (s.fetch tx r).1.Keyed := by
  have hc : (s.claim tx r).Keyed :=
    ⟨by rw [bookings_claim]; exact h.committed, fun a => by rw [tx_claim]; exact h.staged a⟩
  unfold Store.fetch
  split
  · exact h
  · split
    · exact h
    · simp only
      split <;> exact hc

theorem Keyed.update (h : s.Keyed) (tx : TxId) (r : Int) (state : SeatState) :
    (s.update tx r state).1.Keyed := by
  unfold Store.update
  split
  · exact h
  · split
    · exact h
    · exact h.setTx s.lastBooking (h.staged tx)

theorem Keyed.insert (h : s.Keyed) (tx : TxId) (sale : Sale) : (s.insert tx sale).1.Keyed := by
  unfold Store.insert
  simp only
  split
  · exact h
  · split
    · exact h
    · rename_i hk
      refine h.setTx (s.lastBooking + 1) ((h.staged tx).append (.singleton _) fun b hb => ?_)
      obtain rfl := List.mem_singleton.1 hb
      refine (keyTaken_eq_false_iff _ _ _).2 fun k hk' a ha => ?_
      rw [Bool.not_eq_true] at hk
      exact (keyTaken_eq_false_iff _ _ _).1 hk k hk' a (List.mem_append_left _ ha)

theorem Keyed.commit (h : s.Keyed) (tx : TxId) : (s.commit tx).1.Keyed := by
  rw [commit_eq]
  split
  · exact h.finish tx
  · split
    · exact h.finish tx
    · rename_i hk
      refine ⟨h.committed.append (h.staged tx) fun b hb => ?_, (h.finish tx).staged⟩
      rw [Bool.not_eq_true, List.any_eq_false] at hk
      simpa using hk b hb

theorem Keyed.perform (h : s.Keyed) (now : Instant) (request : Request) :
    (s.perform now request).1.Keyed := by
  cases request with
  | now => exact h
  | find user key => exact h
  | begin => exact h.begin
  | fetch tx r => exact h.fetch tx r
  | update tx r state => exact h.update tx r state
  | insert tx sale => exact h.insert tx sale
  | commit tx => exact h.commit tx
  | rollback tx => exact h.finish tx
  | discard tx => exact h.finish tx

theorem Arises.keyed (h : s.Arises) : s.Keyed := by
  induction h with
  | ofSeats seats => exact ⟨List.Pairwise.nil, fun _ => List.Pairwise.nil⟩
  | perform _ now request ih => exact ih.perform now request
  | putSeat | faults | unclaim => rename_i ih; exact ⟨ih.committed, ih.staged⟩

end Store

end BoxOffice
