import BoxOffice.Proofs.DraftedStores

set_option autoImplicit false

/-!
# Transactions are serializable in the order of their commits

An open transaction has a draft to show for its calls, and as long as nothing stands against its
commit, the same calls made now, on the tables as they are, would lead to the same draft. So a
transaction that commits might as well have made all its calls at that moment.
-/

namespace BoxOffice

open Engine (TxId)
open Tx (Call Answer Entry Script Draft)
open Tx.Draft (Recalls)
open Function (update)

/-- The calls of the transactions, one after the other, lead from the first tables to the last. -/
inductive Replays (start : Tables) : List (List Entry) → Tables → Prop
  | nil : Replays start [] start
  | concat {log t d entries} (h : Replays start log t) (hr : Recalls t d entries) (hl : d.Live t) :
      Replays start (log ++ [entries]) (d.apply t)

namespace Store

variable {s : Store} {a : TxId} {waits : Option Int} {d : Draft} {c : Call}

theorem drafts_begin (hc : ∀ c ∈ s.claims, c.tx < s.nextTx) :
    s.begin.1.Drafts s.nextTx none .blank where
  lt := Nat.lt_succ_self _
  seats := by
    rw [tx_begin, if_pos rfl]
    rfl
  sales := by
    rw [tx_begin, if_pos rfl]
    rfl
  holds r hr := by cases hr
  apart r hr := by cases hr
  claims r hm := absurd (hc ⟨r, s.nextTx⟩ hm) (Nat.lt_irrefl _)
  rows r hr := by rcases hr with hr | hr <;> cases hr
  staged row hm := by cases hm

theorem Drafts.abandon {r : Int} (hd : s.Drafts a (some r) d) :
    (s.unclaim a r).Drafts a none d where
  lt := hd.lt
  seats := hd.seats
  sales := hd.sales
  holds q hq := by
    refine (hd.holds q hq).unclaim fun he => hd.apart r rfl ?_
    obtain rfl : q = r := congrArg Claim.seatId he
    exact hq
  apart := nofun
  claims q hm := by
    obtain ⟨hm, hne⟩ := List.mem_filter.1 hm
    rcases hd.claims q hm with hq | hq
    · exact Or.inl hq
    · cases hq
      simp at hne
  rows q hq := hd.rows q (hq.imp_right nofun)
  staged := hd.staged

theorem Drafts.tables_committed (hd : s.Drafts a waits d) :
    (s.committed a).tables = d.apply s.tables := by
  simp only [tables, committed, Draft.apply, hd.seats, ← hd.sales, List.map_append]

theorem Drafts.beside_committed (hd : s.Drafts a waits d) : Beside a s (s.committed a) := by
  refine Store.beside_committed (fun row hm => ?_) fun row hm => ?_
  · rw [hd.seats] at hm
    exact hd.holds _ (hd.staged row hm)
  · rw [hd.seats] at hm
    exact hd.rows _ (Or.inl (hd.staged row hm))

theorem Drafts.commit (hd : s.Drafts a waits d) (hf : s.faults.commits = false) :
    (d.Live s.tables ∧ s.commit a = (s.committed a, .ok ())) ∨
      (¬d.Live s.tables ∧ s.commit a = (s.finish a, .error .keyTaken)) := by
  have hlive : d.Live s.tables ↔
      ((s.tx a).bookings.any fun b => keyTaken s.bookings b.userId b.key) = false := by
    rw [List.any_eq_false, Draft.Live, ← hd.sales, List.forall_mem_map]
    exact forall₂_congr fun b _ => not_congr (keyTaken_iff_takenIn s.bookings b.sale).symm
  rw [commit_eq, hf]
  by_cases hl : d.Live s.tables
  · rw [hlive.1 hl]
    exact Or.inl ⟨hl, rfl⟩
  · rw [eq_true_of_ne_false (mt hlive.2 hl)]
    exact Or.inr ⟨hl, rfl⟩

end Store

namespace History

variable {start : Tables} {h : History} {a : TxId}

/-- The log can be replayed from the first tables to those that are committed now, and so can every
open transaction on top of it, unless it has lost a key. -/
structure Serial (start : Tables) (h : History) : Prop where
  log : Replays start h.log h.store.tables
  scripts : ∀ tx script, h.scripts tx = some script → ∃ d, h.store.Drafts tx script.waits d ∧
    (d.Live h.store.tables → Recalls h.store.tables d script.entries)
  claims : ∀ c ∈ h.store.claims, c.tx < h.store.nextTx
  faults : h.store.faults = ⟨false, false⟩

theorem Serial.change (hs : h.Serial start) {s : Store} {w : Option Script}
    {log : List (List Entry)} (hb : Store.Beside a h.store s) (ha : a < s.nextTx)
    (hf : s.faults = h.store.faults) (hlog : Replays start log s.tables)
    (hw : ∀ script, w = some script → ∃ d, s.Drafts a script.waits d ∧
      (d.Live s.tables → Recalls s.tables d script.entries)) :
    Serial start ⟨s, update h.scripts a w, log⟩ where
  log := hlog
  scripts b script hscript := by
    by_cases hne : b = a
    · subst hne
      change update h.scripts b w b = _ at hscript
      rw [Function.update_self] at hscript
      exact hw script hscript
    · change update h.scripts a w b = _ at hscript
      rw [Function.update_of_ne hne] at hscript
      obtain ⟨d, hd, hr⟩ := hs.scripts b script hscript
      -- What was answered would be answered still, unless the change has taken one of its keys.
      have hk := hd.keeps hb hne
      exact ⟨d, hd.beside hb hne, fun hl => (hr (hl.of_keeps hk)).of_keeps hk hl⟩
  claims c hc := by
    by_cases hca : c.tx = a
    · rw [hca]
      exact ha
    · exact Nat.lt_of_lt_of_le (hs.claims c (hb.claims c hc hca)) hb.changed.nextTx
  faults := hf.trans hs.faults

theorem Serial.begin (hs : h.Serial start) : (h.step .begin).Serial start := by
  refine hs.change (Store.beside_begin _) (Nat.lt_succ_self _) rfl hs.log fun script hw => ?_
  cases hw
  exact ⟨.blank, Store.drafts_begin hs.claims, fun _ => .nil⟩

theorem Serial.call (hs : h.Serial start) (tx : TxId) (c : Call) : (h.call tx c).Serial start := by
  unfold History.call
  split
  · exact hs
  · rename_i script hscript
    split
    · rename_i hallows
      obtain ⟨d, hd, hr⟩ := hs.scripts tx script hscript
      have hb := h.store.beside_perform tx c
      have htables := h.store.tables_perform tx c
      have hfaults := h.store.faults_perform tx c
      have hserved := hd.perform (by rw [hs.faults]) hallows
      generalize c.perform h.store tx = served at hb htables hfaults hserved
      obtain ⟨s, answer⟩ := served
      have hlt := Nat.lt_of_lt_of_le hd.lt hb.changed.nextTx
      have hlog : Replays start h.log s.tables := htables ▸ hs.log
      rcases hserved with ⟨r, rfl, -, hnone, hd'⟩ | ⟨hsome, hd'⟩
      · obtain rfl : answer = none := hnone
        refine hs.change hb hlt hfaults hlog fun script' hw => ?_
        cases hw
        exact ⟨d, hd', fun hl => htables ▸ hr (htables ▸ hl)⟩
      · obtain rfl : answer = some _ := hsome
        refine hs.change hb hlt hfaults hlog fun script' hw => ?_
        cases hw
        refine ⟨_, hd', fun hl => ?_⟩
        rw [htables] at hl ⊢
        exact (hr fun sale hm => hl sale (Draft.sales_subset_call _ _ _ hm)).concat c
    · exact hs

theorem Serial.abandon (hs : h.Serial start) (tx : TxId) : (h.abandon tx).Serial start := by
  unfold History.abandon
  split
  · rename_i entries r hscript
    obtain ⟨d, hd, hr⟩ := hs.scripts tx _ hscript
    refine hs.change (Store.beside_unclaim _ _ _) hd.lt rfl hs.log fun script hw => ?_
    cases hw
    exact ⟨d, hd.abandon, hr⟩
  · exact hs

theorem Serial.commit (hs : h.Serial start) (tx : TxId) : (h.commit tx).Serial start := by
  unfold History.commit
  split
  · rename_i entries hscript
    obtain ⟨d, hd, hr⟩ := hs.scripts tx _ hscript
    rcases hd.commit (by rw [hs.faults]) with ⟨hl, hcommit⟩ | ⟨-, hcommit⟩
    · rw [hcommit]
      refine hs.change hd.beside_committed hd.lt rfl ?_ nofun
      rw [hd.tables_committed]
      exact hs.log.concat (hr hl) hl
    · rw [hcommit]
      exact hs.change (Store.beside_finish _ _) hd.lt rfl hs.log nofun
  · exact hs

theorem Serial.stop (hs : h.Serial start) (tx : TxId) : (h.stop tx).Serial start := by
  unfold History.stop
  split
  · rename_i script hscript
    obtain ⟨d, hd, -⟩ := hs.scripts tx _ hscript
    exact hs.change (Store.beside_finish _ _) hd.lt rfl hs.log nofun
  · exact hs

theorem Serial.step (hs : h.Serial start) (action : Action) : (h.step action).Serial start := by
  cases action with
  | begin => exact hs.begin
  | call tx c => exact hs.call tx c
  | abandon tx => exact hs.abandon tx
  | commit tx => exact hs.commit tx
  | stop tx => exact hs.stop tx

theorem Serial.run (hs : h.Serial start) (actions : List Action) :
    (h.run actions).Serial start := by
  induction actions generalizing h with
  | nil => exact hs
  | cons action actions ih => exact ih (hs.step action)

theorem serial_ofStore {s : Store} (hs : s.AtRest) (hf : s.faults = ⟨false, false⟩) :
    (ofStore s).Serial s.tables where
  log := .nil
  scripts := nofun
  claims c hc := by
    change c ∈ s.claims at hc
    rw [hs.claims] at hc
    cases hc
  faults := hf

end History

namespace Store

variable {s : Store} {a : TxId} {d : Draft} {t : Tables} {entries : List Entry}
variable {log : List (List Entry)} {start : Tables}

structure Only (s : Store) (a : TxId) : Prop where
  running : ∀ x ∈ s.running, x.id = a
  claims : ∀ c ∈ s.claims, c.tx = a

theorem only_begin (hs : s.AtRest) : s.begin.1.Only s.nextTx where
  running x hx := by
    change x ∈ Tx.blank s.nextTx :: s.running at hx
    rw [hs.running] at hx
    rw [List.mem_singleton.1 hx]
    rfl
  claims c hc := by
    change c ∈ s.claims at hc
    rw [hs.claims] at hc
    cases hc

theorem Only.perform (ho : s.Only a) (c : Call) : (c.perform s a).1.Only a := by
  rcases perform_cases s a c with h | ⟨r, h⟩ | ⟨n, x, h, hx⟩
  · rw [h]
    exact ho
  · rw [h]
    refine ⟨?_, fun c hc => ?_⟩
    · unfold Store.claim
      split <;> exact ho.running
    · rcases mem_claims_claim hc with hc | rfl
      · exact ho.claims c hc
      · rfl
  · rw [h]
    refine ⟨fun y hy => ?_, ho.claims⟩
    rcases List.mem_cons.1 hy with rfl | hy
    · exact hx
    · exact ho.running y (List.mem_filter.1 hy).1

theorem Only.atRest_finish (ho : s.Only a) : (s.finish a).AtRest where
  running := List.filter_eq_nil_iff.2 fun x hx => by simp [ho.running x hx]
  claims := List.filter_eq_nil_iff.2 fun c hc => by simp [ho.claims c hc]

theorem performAll_concat (s : Store) (a : TxId) (calls : List Call) (c : Call) :
    s.performAll a (calls ++ [c]) =
      ((c.perform (s.performAll a calls).1 a).1,
        (s.performAll a calls).2 ++ [(c.perform (s.performAll a calls).1 a).2]) := by
  induction calls generalizing s with
  | nil => rfl
  | cons c₀ calls ih =>
    simp only [List.cons_append, performAll]
    rw [ih]

theorem serial_concat (s : Store) (scripts : List (List Call)) (calls : List Call) :
    s.serial (scripts ++ [calls]) =
      (((s.serial scripts).1.alone calls).1,
        (s.serial scripts).2 ++ [((s.serial scripts).1.alone calls).2]) := by
  induction scripts generalizing s with
  | nil => rfl
  | cons calls₀ scripts ih =>
    simp only [List.cons_append, serial]
    rw [ih]

theorem performAll_of_recalls (h : Recalls t d entries) (hd : s.Drafts a none .blank)
    (ho : s.Only a) (hf : s.faults = ⟨false, false⟩) (ht : s.tables = t) :
    let u := s.performAll a (entries.map Entry.call)
    u.2 = entries.map (fun e => some e.answer) ∧ u.1.Drafts a none d ∧ u.1.Only a ∧
      u.1.faults = ⟨false, false⟩ ∧ u.1.tables = t := by
  induction h with
  | nil => exact ⟨rfl, hd, ho, hf, ht⟩
  | concat h c ih =>
    rename_i d entries
    obtain ⟨hanswers, hd', ho', hf', ht'⟩ := ih
    have hperform := performAll_concat s a (entries.map Entry.call) c
    rw [List.map_append, List.map_singleton]
    simp only [hperform]
    generalize (s.performAll a (entries.map Entry.call)).1 = u at hd' ho' hf' ht' ⊢
    rcases hd'.perform (c := c) (by rw [hf']) nofun with ⟨r, -, hwaits, -⟩ | ⟨hanswer, hd''⟩
    · exact absurd (holds_claim_of_alone fun c hc _ => ho'.claims c hc) hwaits
    · rw [ht'] at hanswer hd''
      refine ⟨?_, hd'', ho'.perform c, (faults_perform u a c).trans hf',
        (tables_perform u a c).trans ht'⟩
      rw [hanswers, hanswer, List.map_append, List.map_singleton]

theorem alone_of_recalls (h : Recalls t d entries) (hl : d.Live t) (hs : s.AtRest)
    (hf : s.faults = ⟨false, false⟩) (ht : s.tables = t) :
    let u := s.alone (entries.map Entry.call)
    u.2 = (entries.map (fun e => some e.answer), .ok ()) ∧ u.1.AtRest ∧
      u.1.faults = ⟨false, false⟩ ∧ u.1.tables = d.apply t := by
  have hclaims : ∀ c ∈ s.claims, c.tx < s.nextTx := by
    rw [hs.claims]
    nofun
  obtain ⟨hanswers, hd, ho, hf', ht'⟩ :=
    performAll_of_recalls (s := s.begin.1) h (drafts_begin hclaims) (only_begin hs) hf ht
  have halone : s.alone (entries.map Entry.call) =
      let u := s.begin.1.performAll s.nextTx (entries.map Entry.call)
      ((u.1.commit s.nextTx).1, u.2, (u.1.commit s.nextTx).2) := rfl
  simp only [halone]
  rw [← ht'] at hl
  rcases hd.commit (by rw [hf']) with ⟨-, hcommit⟩ | ⟨hno, -⟩
  · rw [hcommit, hanswers, hd.tables_committed, ht']
    exact ⟨rfl, ⟨ho.atRest_finish.running, ho.atRest_finish.claims⟩, hf', rfl⟩
  · exact absurd hl hno

theorem serial_of_replays (h : Replays start log t) (hs : s.AtRest)
    (hf : s.faults = ⟨false, false⟩) (ht : s.tables = start) :
    let u := s.serial (log.map (List.map Entry.call))
    u.2 = log.map (fun entries => (entries.map (fun e => some e.answer), .ok ())) ∧
      u.1.AtRest ∧ u.1.faults = ⟨false, false⟩ ∧ u.1.tables = t := by
  induction h with
  | nil => exact ⟨rfl, hs, hf, ht⟩
  | concat h hr hl ih =>
    obtain ⟨hresults, hs', hf', ht'⟩ := ih
    obtain ⟨hresult, hs'', hf'', ht''⟩ := alone_of_recalls hr hl hs' hf' ht'
    rw [List.map_append, List.map_singleton, serial_concat]
    refine ⟨?_, hs'', hf'', ht''⟩
    rw [hresults, hresult, List.map_append, List.map_singleton]

end Store

namespace History

/-- Whatever transactions take turns, and however: run once more one after the other, in the order
of their commits, those that were committed get the same answers to all their calls, are all
committed again, and leave the same seats and, but for their numbers, the same bookings. -/
theorem serializable_by_commits {s : Store} (hs : s.AtRest) (hf : s.faults = ⟨false, false⟩)
    (actions : List Action) :
    let h := (ofStore s).run actions
    let serial := s.serial (h.log.map (List.map Entry.call))
    serial.2 = h.log.map (fun entries => (entries.map (fun e => some e.answer), .ok ())) ∧
      serial.1.seats = h.store.seats ∧
      serial.1.bookings.map Booking.sale = h.store.bookings.map Booking.sale := by
  intro h serial
  have hserial : h.Serial s.tables := (serial_ofStore hs hf).run actions
  obtain ⟨hresults, -, -, htables⟩ := Store.serial_of_replays hserial.log hs hf rfl
  exact ⟨hresults, congrArg Tables.seats htables, congrArg Tables.sales htables⟩

/-- Two transactions with one key cross each other over two seats, and a third one waits. -/
def crossing : List Action :=
  [.begin, .begin, .call 0 (.fetch 1), .call 1 (.fetch 2), .call 1 (.insert ⟨7, 5, 2, some "k"⟩),
    .call 0 (.update 1 .sold), .call 0 (.insert ⟨7, 5, 1, some "k"⟩), .call 1 (.fetch 1),
    .begin, .call 2 (.fetch 1), .commit 0, .call 1 (.fetch 1), .commit 1, .call 2 (.fetch 1),
    .call 2 (.insert ⟨7, 5, 1, some "k"⟩), .commit 2]

def pairOfSeats : Store := .ofSeats [⟨1, 5, "A1", .available⟩, ⟨2, 5, "A2", .available⟩]

def crossed : History := (ofStore pairOfSeats).run crossing

theorem serializable_by_commits_crossing :
    pairOfSeats.AtRest ∧ pairOfSeats.faults = ⟨false, false⟩ ∧
      crossed.log.map List.length = [3, 2] ∧
      (pairOfSeats.serial (crossed.log.map (List.map Entry.call))).1.seats =
        crossed.store.seats ∧
      (pairOfSeats.serial (crossed.log.map (List.map Entry.call))).1.bookings.map Booking.sale =
        crossed.store.bookings.map Booking.sale := by
  have hrest : pairOfSeats.AtRest := ⟨rfl, rfl⟩
  have hlog : crossed.log.map List.length = [3, 2] := by decide +kernel
  obtain ⟨-, hseats, hbookings⟩ := serializable_by_commits hrest rfl crossing
  exact ⟨hrest, rfl, hlog, hseats, hbookings⟩

end History

end BoxOffice
