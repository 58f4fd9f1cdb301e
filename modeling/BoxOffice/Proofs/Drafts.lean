import BoxOffice.Proofs.Progress
import BoxOffice.Proofs.Schedule

set_option autoImplicit false

namespace BoxOffice

open Engine (TxId)
open Tx (Call Answer Entry)

/-- Committed data, with the bookings known by their sales. -/
structure Tables where
  seats : SeatTable
  sales : List Sale

def Store.tables (s : Store) : Tables := ⟨s.seats, s.bookings.map Booking.sale⟩

def Sale.TakenIn (sale : Sale) (sales : List Sale) : Prop :=
  sale.key ≠ none ∧ ∃ a ∈ sales, a.userId = sale.userId ∧ a.key = sale.key

instance (sale : Sale) (sales : List Sale) : Decidable (sale.TakenIn sales) :=
  inferInstanceAs (Decidable (_ ∧ _))

theorem Sale.TakenIn.mono {sale : Sale} {xs ys : List Sale} (h : sale.TakenIn xs) (hs : xs ⊆ ys) :
    sale.TakenIn ys := by
  obtain ⟨hk, a, hm, ha⟩ := h
  exact ⟨hk, a, hs hm, ha⟩

theorem Sale.takenIn_append {sale : Sale} {xs ys : List Sale} :
    sale.TakenIn (xs ++ ys) ↔ sale.TakenIn xs ∨ sale.TakenIn ys := by
  constructor
  · rintro ⟨hk, a, hm, ha⟩
    rcases List.mem_append.1 hm with hm | hm
    · exact Or.inl ⟨hk, a, hm, ha⟩
    · exact Or.inr ⟨hk, a, hm, ha⟩
  · rintro (h | h)
    · exact h.mono (List.subset_append_left _ _)
    · exact h.mono (List.subset_append_right _ _)

theorem Store.keyTaken_iff_takenIn (bs : List Booking) (sale : Sale) :
    keyTaken bs sale.userId sale.key = true ↔ sale.TakenIn (bs.map Booking.sale) := by
  rw [keyTaken_eq_true_iff]
  constructor
  · rintro ⟨k, hk, b, hm, hu, hb⟩
    exact ⟨by simp [hk], b.sale, List.mem_map_of_mem hm, hu, hb.trans hk.symm⟩
  · rintro ⟨hk, a, hm, hu, hb⟩
    obtain ⟨b, hbm, rfl⟩ := List.mem_map.1 hm
    obtain ⟨k, hk⟩ := Option.ne_none_iff_exists'.1 hk
    exact ⟨k, hk, b, hbm, hu, hb.trans hk⟩

namespace Tx

structure Draft where
  held : List Int
  seats : SeatTable
  sales : List Sale

namespace Draft

def blank : Draft := ⟨[], .empty, []⟩

def read? (d : Draft) (t : Tables) (r : Int) : Option Seat := (d.seats.get? r).or (t.seats.get? r)

def readHeld (d : Draft) (t : Tables) (r : Int) : Except BookingError Seat :=
  match d.read? t r with
  | some seat => .ok seat
  | none => .error (.notFound "seat")

def call (d : Draft) (t : Tables) : Call → Draft × Answer
  | .fetch r =>
    if r ∉ d.held ∧ t.seats.get? r = none then (d, .seat (.error (.notFound "seat")))
    else ({ d with held := r :: d.held }, .seat (d.readHeld t r))
  | .update r state =>
    if r ∉ d.held then (d, .written (.error (.inconsistent (.rowNotHeld r))))
    else
      match d.read? t r with
      | none => (d, .written (.error (.inconsistent (.noRow r))))
      | some seat => ({ d with seats := d.seats.put { seat with state } }, .written (.ok ()))
  | .insert sale =>
    if sale.TakenIn (d.sales ++ t.sales) then (d, .staged (.error .keyTaken))
    else ({ d with sales := d.sales ++ [sale] }, .staged (.ok sale))

def apply (d : Draft) (t : Tables) : Tables := ⟨t.seats.putAll d.seats.rows, t.sales ++ d.sales⟩

/-- Nothing stands against the commit. -/
def Live (d : Draft) (t : Tables) : Prop := ∀ sale ∈ d.sales, ¬sale.TakenIn t.sales

/-- The calls lead from the blank draft to this one, over tables that stay as they are. -/
inductive Recalls (t : Tables) : Draft → List Entry → Prop
  | nil : Recalls t .blank []
  | concat {d entries} (h : Recalls t d entries) (c : Call) :
      Recalls t (d.call t c).1 (entries ++ [⟨c, (d.call t c).2⟩])

variable {d : Draft} {t t' : Tables} {c : Call} {entries : List Entry}

theorem held_subset_call (d : Draft) (t : Tables) (c : Call) : d.held ⊆ (d.call t c).1.held := by
  cases c with
  | fetch r =>
    simp only [call]
    split
    · exact List.Subset.refl _
    · exact List.subset_cons_self _ _
  | update r state =>
    simp only [call]
    split
    · exact List.Subset.refl _
    · split <;> exact List.Subset.refl _
  | insert sale =>
    simp only [call]
    split <;> exact List.Subset.refl _

theorem sales_subset_call (d : Draft) (t : Tables) (c : Call) :
    d.sales ⊆ (d.call t c).1.sales := by
  cases c with
  | fetch r =>
    simp only [call]
    split <;> exact List.Subset.refl _
  | update r state =>
    simp only [call]
    split
    · exact List.Subset.refl _
    · split <;> exact List.Subset.refl _
  | insert sale =>
    simp only [call]
    split
    · exact List.Subset.refl _
    · exact List.subset_append_left _ _

/-- What others may do to the tables behind a draft's back. -/
structure Keeps (d : Draft) (t t' : Tables) : Prop where
  held : ∀ r ∈ d.held, t'.seats.get? r = t.seats.get? r
  rows : ∀ r, t'.seats.get? r = none ↔ t.seats.get? r = none
  sales : t.sales ⊆ t'.sales

theorem Live.of_keeps (hl : d.Live t') (hk : d.Keeps t t') : d.Live t :=
  fun sale hm htaken => hl sale hm (htaken.mono hk.sales)

theorem read?_of_keeps {r : Int} (hr : t'.seats.get? r = t.seats.get? r) :
    d.read? t' r = d.read? t r := by
  unfold read?
  rw [hr]

theorem call_of_keeps (hk : (d.call t c).1.Keeps t t') (hl : (d.call t c).1.Live t') :
    d.call t' c = d.call t c := by
  cases c with
  | fetch r =>
    simp only [call] at hk ⊢
    rw [if_congr (and_congr_right' (hk.rows r)) rfl rfl]
    split
    · rfl
    · rename_i hr
      rw [if_neg hr] at hk
      unfold readHeld
      rw [read?_of_keeps (hk.held r List.mem_cons_self)]
  | update r state =>
    have hheld : r ∈ d.held → t'.seats.get? r = t.seats.get? r :=
      fun hr => hk.held r (held_subset_call d t _ hr)
    simp only [call]
    split
    · rfl
    · rename_i hr
      rw [read?_of_keeps (hheld (not_not.1 hr))]
  | insert sale =>
    have hsales := hk.sales
    simp only [call] at hl ⊢
    by_cases htaken : sale.TakenIn (d.sales ++ t.sales)
    · rw [if_pos htaken, if_pos]
      exact Sale.takenIn_append.2 ((Sale.takenIn_append.1 htaken).imp_right fun h => h.mono hsales)
    · rw [if_neg htaken] at hl ⊢
      rw [if_neg]
      intro htaken'
      rcases Sale.takenIn_append.1 htaken' with h | h
      · exact htaken (h.mono (List.subset_append_left _ _))
      · exact hl sale (by simp) h

theorem Recalls.of_keeps (h : Recalls t d entries) (hk : d.Keeps t t') (hl : d.Live t') :
    Recalls t' d entries := by
  induction h with
  | nil => exact .nil
  | @concat d entries h c ih =>
    have hk₀ : d.Keeps t t' :=
      ⟨fun r hr => hk.held r (held_subset_call d t c hr), hk.rows, hk.sales⟩
    have hl₀ : d.Live t' := fun sale hm => hl sale (sales_subset_call d t c hm)
    rw [← call_of_keeps hk hl]
    exact (ih hk₀ hl₀).concat c

end Draft

end Tx

end BoxOffice
