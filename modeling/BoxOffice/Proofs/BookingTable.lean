import BoxOffice.Proofs.Bustle
import BoxOffice.Proofs.Keys

set_option autoImplicit false

namespace BoxOffice

open Engine (TxId Request)

namespace Store

def created? (s : Store) : Option Request → Option Booking
  | some (.insert tx sale) => (s.insert tx sale).2.toOption
  | _ => none

/-- How a store stands to all bookings that have been created. -/
structure Books (s : Store) (created : List Booking) : Prop where
  ascending : created.Pairwise fun a b => a.id < b.id
  bounds : ∀ b ∈ created, 1 ≤ b.id ∧ b.id ≤ s.lastBooking
  committed : s.bookings ⊆ created
  staged : ∀ tx, (s.tx tx).bookings ⊆ created
  keyed : s.Keyed

/-- Bookings have at most been committed or dropped. -/
structure CreatesNone (s s' : Store) : Prop where
  lastBooking : s'.lastBooking = s.lastBooking
  committed : ∀ b ∈ s'.bookings, b ∈ s.bookings ∨ ∃ tx, b ∈ (s.tx tx).bookings
  staged : ∀ tx, (s'.tx tx).bookings ⊆ (s.tx tx).bookings

variable {s s' : Store} {created : List Booking}

theorem CreatesNone.refl (s : Store) : CreatesNone s s :=
  ⟨rfl, fun _ h => Or.inl h, fun _ => List.Subset.refl _⟩

theorem createsNone_begin (s : Store) : CreatesNone s s.begin.1 where
  lastBooking := rfl
  committed _ h := Or.inl h
  staged tx := by
    rw [tx_begin]
    split
    · exact List.nil_subset _
    · exact List.Subset.refl _

theorem createsNone_claim (s : Store) (tx : TxId) (r : Int) : CreatesNone s (s.claim tx r) where
  lastBooking := by
    unfold Store.claim
    split <;> rfl
  committed b h := by
    rw [bookings_claim] at h
    exact Or.inl h
  staged a := by rw [tx_claim]; exact List.Subset.refl _

theorem createsNone_finish (s : Store) (tx : TxId) : CreatesNone s (s.finish tx) where
  lastBooking := rfl
  committed _ h := Or.inl h
  staged a := by
    rw [tx_finish]
    split
    · exact List.nil_subset _
    · exact List.Subset.refl _

theorem createsNone_fetch (s : Store) (tx : TxId) (r : Int) : CreatesNone s (s.fetch tx r).1 := by
  unfold fetch
  split
  · exact .refl s
  · split
    · exact .refl s
    · simp only
      split <;> exact createsNone_claim s tx r

theorem createsNone_update (s : Store) (tx : TxId) (r : Int) (state : SeatState) :
    CreatesNone s (s.update tx r state).1 := by
  unfold update
  split
  · exact .refl s
  · split
    · exact .refl s
    · refine ⟨rfl, fun _ h => Or.inl h, fun a => ?_⟩
      rw [tx_setTx]
      split
      · rename_i ha
        rw [ha, id_tx]
        exact List.Subset.refl _
      · exact List.Subset.refl _

theorem createsNone_commit (s : Store) (tx : TxId) : CreatesNone s (s.commit tx).1 := by
  rw [commit_eq]
  split
  · exact createsNone_finish s tx
  · split
    · exact createsNone_finish s tx
    · refine ⟨rfl, fun b h => ?_, (createsNone_finish s tx).staged⟩
      exact (List.mem_append.1 h).imp_right fun h => ⟨tx, h⟩

theorem createsNone_perform (s : Store) (now : Instant) {request : Request}
    (h : ∀ tx sale, request ≠ .insert tx sale) : CreatesNone s (s.perform now request).1 := by
  cases request with
  | now | find => exact .refl s
  | begin => exact createsNone_begin s
  | fetch tx r => exact createsNone_fetch s tx r
  | update tx r state => exact createsNone_update s tx r state
  | insert tx sale => exact absurd rfl (h tx sale)
  | commit tx => exact createsNone_commit s tx
  | rollback tx | discard tx => exact createsNone_finish s tx

theorem Books.of_createsNone (h : s.Books created) (hn : CreatesNone s s') (hk : s'.Keyed) :
    s'.Books created where
  ascending := h.ascending
  bounds := by
    rw [hn.lastBooking]
    exact h.bounds
  committed b hb := by
    rcases hn.committed b hb with hb | ⟨tx, hb⟩
    · exact h.committed hb
    · exact h.staged tx hb
  staged tx := List.Subset.trans (hn.staged tx) (h.staged tx)
  keyed := hk

theorem Books.insert (h : s.Books created) (tx : TxId) (sale : Sale) :
    (s.insert tx sale).1.Books (created ++ (s.created? (some (.insert tx sale))).toList) := by
  have hkeyed := h.keyed.insert tx sale
  simp only [created?]
  unfold Store.insert at hkeyed ⊢
  simp only at hkeyed ⊢
  split
  · simpa [Except.toOption] using h
  · split
    · simpa [Except.toOption] using h
    · rename_i hf hk
      rw [if_neg hf, if_neg hk] at hkeyed
      have hnumber : (s.lastBooking : Int) < (s.lastBooking + 1 : Nat) := by omega
      refine ⟨?_, ?_, fun b hb => List.mem_append_left _ (h.committed hb), fun a => ?_, hkeyed⟩
      · refine List.pairwise_append.2 ⟨h.ascending, List.pairwise_singleton _ _, ?_⟩
        intro a ha b hb
        obtain rfl := List.mem_singleton.1 hb
        exact Int.lt_of_le_of_lt (h.bounds a ha).2 hnumber
      · intro b hb
        rcases List.mem_append.1 hb with hb | hb
        · obtain ⟨hpos, hle⟩ := h.bounds b hb
          exact ⟨hpos, Int.le_of_lt (Int.lt_of_le_of_lt hle hnumber)⟩
        · obtain rfl := List.mem_singleton.1 hb
          exact ⟨by simp only [Sale.booking]; omega, Int.le_refl _⟩
      · rw [tx_setTx]
        split
        · refine List.append_subset.2 ⟨?_, List.subset_append_right _ _⟩
          exact List.Subset.trans (h.staged tx) (List.subset_append_left _ _)
        · exact List.Subset.trans (h.staged a) (List.subset_append_left _ _)

theorem Books.turn (h : s.Books created) {request : Option Request} (ht : s.Turn request s') :
    s'.Books (created ++ (s.created? request).toList) := by
  cases ht with
  | perform now request =>
    by_cases hi : ∃ tx sale, request = .insert tx sale
    · obtain ⟨tx, sale, rfl⟩ := hi
      exact h.insert tx sale
    · have hi' : ∀ tx sale, request ≠ .insert tx sale := fun tx sale he => hi ⟨tx, sale, he⟩
      have hnone : s.created? (some request) = none := by
        cases request with
        | insert tx sale => exact absurd rfl (hi' tx sale)
        | _ => rfl
      rw [hnone, Option.toList_none, List.append_nil]
      exact h.of_createsNone (createsNone_perform s now hi') (h.keyed.perform now request)
  | idle | faults | putSeat | unclaim =>
    simp only [created?, Option.toList_none, List.append_nil]
    exact ⟨h.ascending, h.bounds, h.committed, h.staged, ⟨h.keyed.committed, h.keyed.staged⟩⟩

theorem books_nil (hs : s.AtRest) (hb : s.bookings = []) : s.Books [] := by
  have hstaged : ∀ tx, (s.tx tx).bookings = [] := fun a => by
    simp [tx, hs.running, Tx.blank]
  refine ⟨List.Pairwise.nil, fun b h => (List.not_mem_nil h).elim, by rw [hb]; simp, ?_, ?_, ?_⟩
  · exact fun tx => by rw [hstaged]; simp
  · rw [hb]
    exact List.Pairwise.nil
  · exact fun tx => by rw [hstaged]; exact List.Pairwise.nil

theorem Keyed.findBooking_eq_some_iff (h : s.Keyed) (user : Int) (key : String) (b : Booking) :
    s.findBooking user key = some b ↔ s.bookings.filter (fun c => c.HasKey user key) = [b] := by
  constructor
  · intro hf
    obtain ⟨hm, hkey⟩ := findBooking_eq_some hf
    exact h.committed.filter hm hkey
  · intro hf
    rw [findBooking, ← List.head?_filter, hf]
    rfl

theorem findBooking_of_grown (hp : s.bookings <+: s'.bookings) {user : Int} {key : String}
    {b : Booking} (h : s.findBooking user key = some b) : s'.findBooking user key = some b := by
  obtain ⟨later, hlater⟩ := hp
  unfold findBooking at h ⊢
  rw [← hlater, List.find?_append, h]
  rfl

end Store

namespace Bustle

variable {length : Span} {t : Bustle}

def created (length : Span) : Bustle → List Event → List Booking
  | _, [] => []
  | t, e :: events =>
    (t.store.created? (t.request? length e)).toList ++ created length (t.step length e) events

theorem books_run {before : List Booking} (h : t.store.Books before) (events : List Event) :
    (t.run length events).store.Books (before ++ t.created length events) := by
  induction events generalizing t before with
  | nil => simpa [created, run] using h
  | cons e events ih =>
    have hturn : t.store.Turn (t.request? length e) (t.step length e).store := t.turn_step e
    simpa [created, run, List.append_assoc] using ih (h.turn hturn)

theorem bookings_prefix_run (t : Bustle) (events : List Event) :
    t.store.bookings <+: (t.run length events).store.bookings := by
  induction events generalizing t with
  | nil => exact List.prefix_refl _
  | cons e events ih => exact (t.turn_step e).prefix_bookings.trans (ih (t.step length e))

/-- The table of bookings in a bustle that starts without any: it only grows at its end, numbers and
keys do not repeat, and what has been found by its key is found ever after. -/
theorem bookings_keep {s : Store} (hs : s.AtRest) (hb : s.bookings = []) (clock : Instant)
    (es fs : List Event) :
    let start := ofStore s clock
    let t := start.run length es
    let t' := t.run length fs
    let bookings := start.created length (es ++ fs)
    t.store.bookings <+: t'.store.bookings ∧
      (bookings.Pairwise fun a b => a.id < b.id) ∧
      (∀ b ∈ bookings, 1 ≤ b.id ∧ b.id ≤ t'.store.lastBooking) ∧
      (t'.store.bookings ⊆ bookings ∧ ∀ tx, (t'.store.tx tx).bookings ⊆ bookings) ∧
      KeysUnique t'.store.bookings ∧
      ∀ user key b,
        (t'.store.findBooking user key = some b ↔
          t'.store.bookings.filter (fun c => c.HasKey user key) = [b]) ∧
        (t.store.findBooking user key = some b → t'.store.findBooking user key = some b) := by
  intro start t t' bookings
  have hbooks : t'.store.Books bookings := by
    have h : (start.run length (es ++ fs)).store.Books ([] ++ bookings) :=
      books_run (Store.books_nil hs hb) (es ++ fs)
    rwa [run_append] at h
  have hgrows : t.store.bookings <+: t'.store.bookings := t.bookings_prefix_run fs
  refine ⟨hgrows, hbooks.ascending, hbooks.bounds, ⟨hbooks.committed, hbooks.staged⟩,
    hbooks.keyed.committed, fun user key b => ⟨hbooks.keyed.findBooking_eq_some_iff user key b, ?_⟩⟩
  exact Store.findBooking_of_grown hgrows

def oneKey : List Event :=
  [.hand .begin, .hand .begin, .hand (.call 0 (.insert ⟨7, 5, 1, some "k"⟩)),
    .hand (.call 1 (.insert ⟨7, 5, 1, some "k"⟩)), .hand (.commit 1)]

def oneKeyAgain : List Event :=
  [.order (.arrive (.buy 5 1 7 (some "k"))), .hand (.commit 0), .order (.go 0)]

def emptyHouse : Store := .ofSeats [⟨1, 5, "A1", .available⟩]

theorem bookings_keep_oneKey :
    emptyHouse.AtRest ∧ emptyHouse.bookings = [] ∧
      (ofStore emptyHouse .epoch).created Traffic.tenMinutes (oneKey ++ oneKeyAgain) =
        [⟨1, 7, 5, 1, some "k"⟩, ⟨2, 7, 5, 1, some "k"⟩] ∧
      (((ofStore emptyHouse .epoch).run Traffic.tenMinutes oneKey).run Traffic.tenMinutes
        oneKeyAgain).store.findBooking 7 "k" = some ⟨2, 7, 5, 1, some "k"⟩ ∧
      (((ofStore emptyHouse .epoch).run Traffic.tenMinutes oneKey).run Traffic.tenMinutes
        oneKeyAgain).store.bookings.filter (fun b => b.HasKey 7 "k") =
          [⟨2, 7, 5, 1, some "k"⟩] := by
  have hs : emptyHouse.AtRest := ⟨rfl, rfl⟩
  obtain ⟨-, -, -, -, -, hfind⟩ :=
    @bookings_keep Traffic.tenMinutes emptyHouse hs rfl .epoch oneKey oneKeyAgain
  obtain ⟨hiff, hstays⟩ := hfind 7 "k" ⟨2, 7, 5, 1, some "k"⟩
  have hfound := hstays (by decide +kernel)
  exact ⟨hs, rfl, by decide +kernel, hfound, hiff.1 hfound⟩

end Bustle

end BoxOffice
