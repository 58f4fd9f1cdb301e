import BoxOffice.Proofs.Drafts

set_option autoImplicit false

namespace BoxOffice

open Engine (TxId)
open Tx (Call Answer Draft)

namespace Store

variable {s s' : Store} {a b : TxId} {r : Int} {d : Draft} {waits : Option Int} {c : Call}

/-- A change by the transaction `a` in which no row comes or goes. -/
structure Beside (a : TxId) (s s' : Store) : Prop where
  changed : ChangedBy (some a) s s'
  claims : ∀ c ∈ s'.claims, c.tx ≠ a → c ∈ s.claims
  rows : ∀ r, s'.seats.get? r = none ↔ s.seats.get? r = none

theorem Beside.refl (a : TxId) (s : Store) : Beside a s s :=
  ⟨.refl _ _, fun _ h _ => h, fun _ => Iff.rfl⟩

theorem beside_begin (s : Store) : Beside s.nextTx s s.begin.1 where
  changed :=
    have h := changedBy_begin s
    ⟨fun b hb _ => h.tx b hb nofun, fun b r _ => h.holds b r nofun, fun b r _ => h.seat b r nofun,
      h.nextTx, h.bookings⟩
  claims _ h _ := h
  rows _ := Iff.rfl

theorem beside_claim (s : Store) (a : TxId) (r : Int) : Beside a s (s.claim a r) where
  changed := changedBy_claim s a r
  claims c hc hne := by
    rcases mem_claims_claim hc with hc | rfl
    · exact hc
    · exact absurd rfl hne
  rows q := by rw [seats_claim]

theorem beside_setTx (s : Store) (n : Nat) (t : Tx) (ha : t.id = a) :
    Beside a s ({ s with lastBooking := n }.setTx t) where
  changed := changedBy_setTx s n t ha
  claims _ h _ := h
  rows _ := Iff.rfl

theorem beside_finish (s : Store) (a : TxId) : Beside a s (s.finish a) where
  changed := changedBy_finish s a
  claims _ hc _ := (mem_claims_finish.1 hc).1
  rows _ := Iff.rfl

theorem beside_unclaim (s : Store) (a : TxId) (r : Int) : Beside a s (s.unclaim a r) where
  changed :=
    { tx := fun _ _ _ => rfl
      holds := fun _ _ hb h => h.unclaim fun he => hb (congrArg (some ∘ Claim.tx) he)
      seat := fun _ _ _ _ => rfl
      nextTx := Nat.le_refl _
      bookings := List.prefix_refl _ }
  claims _ hc _ := (List.mem_filter.1 hc).1
  rows _ := Iff.rfl

theorem get?_putAll_eq_none_iff (t : SeatTable) (rows : List Seat)
    (h : ∀ row ∈ rows, t.get? row.id ≠ none) (r : Int) :
    (t.putAll rows).get? r = none ↔ t.get? r = none := by
  induction rows generalizing t with
  | nil => exact Iff.rfl
  | cons row rows ih =>
    have hput : ∀ q, (t.put row).get? q = none ↔ t.get? q = none := by
      intro q
      rw [SeatTable.get?_put]
      split
      · rename_i hq
        exact ⟨nofun, fun hn => absurd (hq ▸ hn) (h row List.mem_cons_self)⟩
      · exact Iff.rfl
    change ((t.put row).putAll rows).get? r = none ↔ _
    rw [ih (t.put row) fun q hq => mt (hput _).1 (h q (List.mem_cons_of_mem _ hq)), hput]

theorem beside_committed (hheld : ∀ row ∈ (s.tx a).seats.rows, s.Holds a row.id)
    (hrows : ∀ row ∈ (s.tx a).seats.rows, s.seats.get? row.id ≠ none) :
    Beside a s (s.committed a) where
  changed := changedBy_committed hheld
  claims _ hc _ := (mem_claims_finish.1 hc).1
  rows := get?_putAll_eq_none_iff _ _ hrows

theorem id_tx (s : Store) (a : TxId) : (s.tx a).id = a := by
  unfold tx
  cases h : s.running.find? fun t => t.id = a with
  | none => rfl
  | some t => simpa using List.find?_some h

theorem perform_cases (s : Store) (a : TxId) (c : Call) :
    (c.perform s a).1 = s ∨ (∃ r, (c.perform s a).1 = s.claim a r) ∨
      ∃ n t, (c.perform s a).1 = { s with lastBooking := n }.setTx t ∧ t.id = a := by
  cases c with
  | fetch r =>
    simp only [Call.perform, fetch]
    split
    · exact Or.inl rfl
    · split
      · exact Or.inl rfl
      · split <;> exact Or.inr (Or.inl ⟨r, rfl⟩)
  | update r state =>
    simp only [Call.perform, update]
    split
    · exact Or.inl rfl
    · split
      · exact Or.inl rfl
      · exact Or.inr (Or.inr ⟨s.lastBooking, _, rfl, id_tx s a⟩)
  | insert sale =>
    simp only [Call.perform, insert]
    split
    · exact Or.inl rfl
    · split
      · exact Or.inl rfl
      · exact Or.inr (Or.inr ⟨s.lastBooking + 1, _, rfl, id_tx s a⟩)

theorem beside_perform (s : Store) (a : TxId) (c : Call) : Beside a s (c.perform s a).1 := by
  rcases perform_cases s a c with h | ⟨r, h⟩ | ⟨n, t, h, ht⟩
  · rw [h]
    exact .refl a s
  · rw [h]
    exact beside_claim s a r
  · rw [h]
    exact beside_setTx s n t ht

theorem tables_claim (s : Store) (a : TxId) (r : Int) : (s.claim a r).tables = s.tables := by
  unfold tables
  rw [seats_claim, bookings_claim]

theorem tables_perform (s : Store) (a : TxId) (c : Call) :
    (c.perform s a).1.tables = s.tables := by
  rcases perform_cases s a c with h | ⟨r, h⟩ | ⟨n, t, h, -⟩
  · rw [h]
  · rw [h, tables_claim]
  · rw [h]
    rfl

theorem faults_perform (s : Store) (a : TxId) (c : Call) :
    (c.perform s a).1.faults = s.faults := by
  rcases perform_cases s a c with h | ⟨r, h⟩ | ⟨n, t, h, -⟩
  · rw [h]
  · rw [h, faults_claim]
  · rw [h]
    rfl

/-- The store has this draft for the transaction, which may be waiting for another row. -/
structure Drafts (s : Store) (tx : TxId) (waits : Option Int) (d : Draft) : Prop where
  lt : tx < s.nextTx
  seats : (s.tx tx).seats = d.seats
  sales : (s.tx tx).bookings.map Booking.sale = d.sales
  holds : ∀ r ∈ d.held, s.Holds tx r
  apart : ∀ r ∈ waits, r ∉ d.held
  claims : ∀ r, ⟨r, tx⟩ ∈ s.claims → r ∈ d.held ∨ r ∈ waits
  rows : ∀ r, r ∈ d.held ∨ r ∈ waits → s.seats.get? r ≠ none
  staged : ∀ row ∈ d.seats.rows, row.id ∈ d.held

theorem Drafts.beside (hd : s.Drafts b waits d) (hc : Beside a s s') (hne : b ≠ a) :
    s'.Drafts b waits d := by
  have hother : some b ≠ some a := fun he => hne (Option.some.inj he)
  have htx := hc.changed.tx b hd.lt hother
  refine ⟨Nat.lt_of_lt_of_le hd.lt hc.changed.nextTx, ?_, ?_, ?_, hd.apart, ?_, ?_, hd.staged⟩
  · rw [htx]
    exact hd.seats
  · rw [htx]
    exact hd.sales
  · exact fun r hr => hc.changed.holds b r hother (hd.holds r hr)
  · exact fun r hm => hd.claims r (hc.claims _ hm hne)
  · exact fun r hr => mt (hc.rows r).1 (hd.rows r hr)

theorem Drafts.keeps (hd : s.Drafts b waits d) (hc : Beside a s s') (hne : b ≠ a) :
    d.Keeps s.tables s'.tables where
  held r hr := hc.changed.seat b r (fun he => hne (Option.some.inj he)) (hd.holds r hr)
  rows := hc.rows
  sales := List.map_subset _ hc.changed.bookings.subset

theorem Drafts.readHeld (hd : s.Drafts a waits d) (r : Int) :
    s.readHeld a r = d.readHeld s.tables r := by
  unfold Store.readHeld Store.read? Draft.readHeld Draft.read?
  rw [hd.seats]
  rfl

theorem Drafts.granted (hd : s.Drafts a waits d) (hw : ∀ q ∈ waits, q = r)
    (hr : s.Holds a r) (hg : s.seats.get? r ≠ none) :
    s.Drafts a none { d with held := r :: d.held } where
  lt := hd.lt
  seats := hd.seats
  sales := hd.sales
  holds q hq := by
    rcases List.mem_cons.1 hq with rfl | hq
    · exact hr
    · exact hd.holds q hq
  apart := nofun
  claims q hm := by
    rcases hd.claims q hm with hq | hq
    · exact Or.inl (List.mem_cons_of_mem _ hq)
    · exact Or.inl (hw q hq ▸ List.mem_cons_self)
  rows q hq := by
    rcases hq with hq | hq
    · rcases List.mem_cons.1 hq with rfl | hq
      · exact hg
      · exact hd.rows q (Or.inl hq)
    · cases hq
  staged row hm := List.mem_cons_of_mem _ (hd.staged row hm)

theorem Drafts.claim (hd : s.Drafts a waits d) (hw : ∀ q ∈ waits, q = r) (hr : r ∉ d.held)
    (hg : s.seats.get? r ≠ none) : (s.claim a r).Drafts a (some r) d where
  lt := by
    rw [nextTx_claim]
    exact hd.lt
  seats := by
    rw [tx_claim]
    exact hd.seats
  sales := by
    rw [tx_claim]
    exact hd.sales
  holds q hq := (hd.holds q hq).claim a r
  apart q hq := by
    cases hq
    exact hr
  claims q hm := by
    rcases mem_claims_claim hm with hm | hm
    · rcases hd.claims q hm with hq | hq
      · exact Or.inl hq
      · exact Or.inr (congrArg some (hw q hq).symm)
    · exact Or.inr (congrArg (some ∘ Claim.seatId) hm).symm
  rows q hq := by
    rw [seats_claim]
    rcases hq with hq | hq
    · exact hd.rows q (Or.inl hq)
    · cases hq
      exact hg
  staged := hd.staged

theorem Drafts.fetch (hd : s.Drafts a waits d) (hw : ∀ q ∈ waits, q = r) :
    (¬(s.claim a r).Holds a r ∧ (s.fetch a r).2 = none ∧ (s.fetch a r).1.Drafts a (some r) d) ∨
      ((s.fetch a r).2.map Answer.seat = some (d.call s.tables (.fetch r)).2 ∧
        (s.fetch a r).1.Drafts a none (d.call s.tables (.fetch r)).1) := by
  have hcall : s.seats.get? r ≠ none → d.call s.tables (.fetch r) =
      ({ d with held := r :: d.held }, .seat (d.readHeld s.tables r)) :=
    fun hg => if_neg fun h => hg h.2
  unfold Store.fetch
  by_cases hs : s.Holds a r
  · have hg := hd.rows r (hd.claims r hs.mem_claims)
    rw [if_pos hs, hcall hg, hd.readHeld]
    exact Or.inr ⟨rfl, hd.granted hw hs hg⟩
  · have hr : r ∉ d.held := fun hr => hs (hd.holds r hr)
    rw [if_neg hs]
    by_cases hg : s.seats.get? r = none
    · have hnone : waits = none := by
        refine Option.eq_none_iff_forall_not_mem.2 fun q hq => hd.rows q (Or.inr hq) ?_
        rw [hw q hq]
        exact hg
      have hmissing : d.call s.tables (.fetch r) = (d, .seat (.error (.notFound "seat"))) :=
        if_pos ⟨hr, hg⟩
      rw [hg, hmissing]
      exact Or.inr ⟨rfl, hnone ▸ hd⟩
    · have hd' := hd.claim hw hr hg
      have hg' : (s.claim a r).seats.get? r ≠ none := hd'.rows r (Or.inr rfl)
      have hsome : (s.seats.get? r).isNone ≠ true := by simpa using hg
      rw [if_neg hsome, hcall hg]
      simp only
      by_cases hc : (s.claim a r).Holds a r
      · rw [if_pos hc, hd'.readHeld, tables_claim]
        exact Or.inr ⟨rfl, hd'.granted (fun q hq => (Option.some.inj hq).symm) hc hg'⟩
      · rw [if_neg hc]
        exact Or.inl ⟨hc, rfl, hd'⟩

theorem Drafts.stage (hd : s.Drafts a none d) (n : Nat) {t : Tx} (ht : t.id = a)
    (hrows : ∀ row ∈ t.seats.rows, row.id ∈ d.held) :
    ({ s with lastBooking := n }.setTx t).Drafts a none
      ⟨d.held, t.seats, t.bookings.map Booking.sale⟩ where
  lt := hd.lt
  seats := by rw [tx_setTx, if_pos ht.symm]
  sales := by rw [tx_setTx, if_pos ht.symm]
  holds := hd.holds
  apart := nofun
  claims := hd.claims
  rows := hd.rows
  staged := hrows

theorem Drafts.update (hd : s.Drafts a none d) (r : Int) (state : SeatState) :
    .written (s.update a r state).2 = (d.call s.tables (.update r state)).2 ∧
      (s.update a r state).1.Drafts a none (d.call s.tables (.update r state)).1 := by
  unfold Store.update
  by_cases hs : s.Holds a r
  · have hr : r ∈ d.held := (hd.claims r hs.mem_claims).resolve_right nofun
    have hread : s.read? a r = d.read? s.tables r := by
      unfold Store.read? Draft.read?
      rw [hd.seats]
      rfl
    simp only [Draft.call]
    rw [if_neg (not_not_intro hs), if_neg (not_not_intro hr), hread]
    cases hx : d.read? s.tables r with
    | none => exact ⟨rfl, hd⟩
    | some seat =>
      have hid : seat.id = r := by
        rcases Option.or_eq_some_iff.1 hx with h | ⟨-, h⟩
        · exact SeatTable.id_of_get? h
        · exact SeatTable.id_of_get? h
      have hstage := hd.stage s.lastBooking (t := { s.tx a with
        seats := (s.tx a).seats.put { seat with state } }) (id_tx s a) (by
          intro row hm
          rw [hd.seats] at hm
          rcases SeatTable.mem_insertRow hm with rfl | hm
          · exact hid ▸ hr
          · exact hd.staged row hm)
      rw [hd.seats, hd.sales] at hstage
      rw [hd.seats]
      exact ⟨rfl, hstage⟩
  · have hr : r ∉ d.held := fun hr => hs (hd.holds r hr)
    simp only [Draft.call]
    rw [if_pos hs, if_pos hr]
    exact ⟨rfl, hd⟩

theorem Drafts.insert (hd : s.Drafts a none d) (hf : s.faults.inserts = false) (sale : Sale) :
    .staged ((s.insert a sale).2.map Booking.sale) = (d.call s.tables (.insert sale)).2 ∧
      (s.insert a sale).1.Drafts a none (d.call s.tables (.insert sale)).1 := by
  have hkey : keyTaken ((s.tx a).bookings ++ s.bookings) sale.userId sale.key = true ↔
      sale.TakenIn (d.sales ++ s.tables.sales) := by
    rw [keyTaken_iff_takenIn, List.map_append, hd.sales]
    exact Iff.rfl
  simp only [Store.insert, Draft.call, hf, Bool.false_eq_true, if_false]
  by_cases htaken : sale.TakenIn (d.sales ++ s.tables.sales)
  · rw [if_pos (hkey.2 htaken), if_pos htaken]
    exact ⟨rfl, hd⟩
  · rw [if_neg (mt hkey.1 htaken), if_neg htaken]
    have hstage := hd.stage (s.lastBooking + 1) (t := { s.tx a with
      bookings := (s.tx a).bookings ++ [sale.booking (s.lastBooking + 1 : Nat)] }) (id_tx s a) (by
        intro row hm
        rw [hd.seats] at hm
        exact hd.staged row hm)
    rw [List.map_append, hd.seats, hd.sales] at hstage
    exact ⟨rfl, hstage⟩

theorem Drafts.perform (hd : s.Drafts a waits d) (hf : s.faults.inserts = false)
    (hw : ∀ r ∈ waits, c = .fetch r) :
    (∃ r, c = .fetch r ∧ ¬(s.claim a r).Holds a r ∧ (c.perform s a).2 = none ∧
        (c.perform s a).1.Drafts a (some r) d) ∨
      ((c.perform s a).2 = some (d.call s.tables c).2 ∧
        (c.perform s a).1.Drafts a none (d.call s.tables c).1) := by
  have idle : (∀ r, c ≠ .fetch r) → waits = none :=
    fun hc => Option.eq_none_iff_forall_not_mem.2 fun r hr => hc r (hw r hr)
  cases c with
  | fetch r =>
    rcases hd.fetch fun q hq => (Call.fetch.inj (hw q hq)).symm with ⟨hc, hnone, hd'⟩ | h
    · exact Or.inl ⟨r, rfl, hc, by simp only [Call.perform, hnone, Option.map_none], hd'⟩
    · exact Or.inr h
  | update r state =>
    obtain rfl := idle nofun
    obtain ⟨hanswer, hd'⟩ := hd.update r state
    exact Or.inr ⟨congrArg some hanswer, hd'⟩
  | insert sale =>
    obtain rfl := idle nofun
    obtain ⟨hanswer, hd'⟩ := hd.insert hf sale
    exact Or.inr ⟨congrArg some hanswer, hd'⟩

end Store

end BoxOffice
