import BoxOffice.Office
import BoxOffice.Proofs.CommitAtomicity
import BoxOffice.Proofs.TextOrder

set_option autoImplicit false

namespace BoxOffice

open Engine (TxId Request)

theorem filter_mergeSort {α : Type} {le : α → α → Bool} {p : α → Bool} {l : List α}
    (htrans : ∀ a b c, le a b = true → le b c = true → le a c = true)
    (htotal : ∀ a b, (le a b || le b a) = true)
    (hp : ∀ a ∈ l, ∀ b ∈ l, p a = true → p b = true → le a b = true) :
    (l.mergeSort le).filter p = l.filter p := by
  have hties : (l.filter p).Pairwise fun a b => le a b = true :=
    List.pairwise_of_forall_mem_list fun a ha b hb =>
      hp a (List.mem_of_mem_filter ha) b (List.mem_of_mem_filter hb) (List.of_mem_filter ha)
        (List.of_mem_filter hb)
  have hsub := (List.sublist_mergeSort htrans htotal hties List.filter_sublist).filter p
  rw [List.filter_filter] at hsub
  simp only [Bool.and_self] at hsub
  exact (hsub.eq_of_length ((List.mergeSort_perm l le).filter p).length_eq.symm).symm

namespace SeatTable

theorem filter_id (t : SeatTable) (r : Int) :
    t.rows.filter (fun seat => seat.id = r) = (t.get? r).toList := by
  cases hg : t.get? r with
  | none =>
    refine List.filter_eq_nil_iff.2 fun seat hm hr => ?_
    have hid : seat.id = r := of_decide_eq_true hr
    rw [← hid, get?_of_mem hm] at hg
    cases hg
  | some seat =>
    have hid : seat.id = r := id_of_get? hg
    refine Store.filter_eq_singleton (t.ascending.imp fun hlt h => ?_) (mem_of_get? hg)
      (decide_eq_true hid)
    have ha := of_decide_eq_true h.1
    have hb := of_decide_eq_true h.2
    omega

end SeatTable

namespace Store

def inOrder (a b : Seat) : Bool := !decide (b.name < a.name)

theorem inOrder_iff {a b : Seat} : inOrder a b = true ↔ a.name ≤ b.name := by
  simp only [inOrder, Bool.not_eq_true', decide_eq_false_iff_not, String.not_lt]

theorem inOrder_trans (a b c : Seat) (hab : inOrder a b = true) (hbc : inOrder b c = true) :
    inOrder a c = true :=
  inOrder_iff.2 (String.le_trans (inOrder_iff.1 hab) (inOrder_iff.1 hbc))

theorem inOrder_total (a b : Seat) : (inOrder a b || inOrder b a) = true := by
  rw [Bool.or_eq_true, inOrder_iff, inOrder_iff]
  exact String.le_total _ _

variable {s : Store} {showId r : Int}

theorem mem_seatsOfShow {seat : Seat} :
    seat ∈ s.seatsOfShow showId ↔ s.seats.get? seat.id = some seat ∧ seat.showId = showId := by
  rw [seatsOfShow, (List.mergeSort_perm _ _).mem_iff, List.mem_filter, SeatTable.mem_rows_iff,
    decide_eq_true_eq]

theorem filter_seatsOfShow {p : Seat → Bool}
    (hp : ∀ a ∈ s.seats.rows, ∀ b ∈ s.seats.rows, p a = true → p b = true → a.name = b.name) :
    (s.seatsOfShow showId).filter p =
      (s.seats.rows.filter fun seat => seat.showId = showId).filter p := by
  refine filter_mergeSort inOrder_trans inOrder_total fun a ha b hb hpa hpb => inOrder_iff.2 ?_
  have hname := hp a (List.mem_of_mem_filter ha) b (List.mem_of_mem_filter hb) hpa hpb
  exact hname ▸ String.le_refl a.name

theorem filter_id_seatsOfShow (s : Store) (showId r : Int) :
    (s.seatsOfShow showId).filter (fun seat => seat.id = r) =
      ((s.seats.get? r).filter fun seat => seat.showId = showId).toList := by
  rw [filter_seatsOfShow, List.filter_comm, SeatTable.filter_id, Option.toList_filter]
  intro a ha b hb hpa hpb
  have hid : a.id = b.id := (of_decide_eq_true hpa).trans (of_decide_eq_true hpb).symm
  have hsame := SeatTable.get?_of_mem ha
  rw [hid, SeatTable.get?_of_mem hb] at hsame
  rw [Option.some.inj hsame]

theorem seatsOfShow_ordered (s : Store) (showId : Int) :
    (s.seatsOfShow showId).Pairwise fun a b => a.name < b.name ∨ a.name = b.name ∧ a.id < b.id := by
  refine List.pairwise_iff_forall_sublist.2 fun {a b} hab => ?_
  have hle : a.name ≤ b.name := by
    have hsorted := List.pairwise_mergeSort inOrder_trans inOrder_total
      (s.seats.rows.filter fun seat => seat.showId = showId)
    exact inOrder_iff.1 (List.pairwise_iff_forall_sublist.1 hsorted hab)
  by_cases hge : b.name ≤ a.name
  · have hname : a.name = b.name := String.le_antisymm hle hge
    refine .inr ⟨hname, ?_⟩
    have hsub := hab.filter fun seat => decide (seat.name = b.name)
    rw [filter_seatsOfShow fun c _ d _ hc hd =>
      (of_decide_eq_true hc).trans (of_decide_eq_true hd).symm] at hsub
    simp only [List.filter_cons, hname, decide_true, if_true, List.filter_nil] at hsub
    have hascending := (s.seats.ascending.filter fun seat => decide (seat.showId = showId)).filter
      fun seat => decide (seat.name = b.name)
    exact List.pairwise_iff_forall_sublist.1 hascending hsub
  · exact .inl (String.not_le.1 hge)

end Store

namespace SeatView

/-- The order of a map: by the octets of the name, and by the number where a name repeats. -/
def Precedes (a b : SeatView) : Prop :=
  Octets.ofText a.name < Octets.ofText b.name ∨ a.name = b.name ∧ a.id < b.id

/-- The view is the seat's. It tells of a lock if it shows the seat as locked, and then of the lock
that the seat has. -/
structure Tells (view : SeatView) (seat : Seat) : Prop where
  id : view.id = seat.id
  showId : view.showId = seat.showId
  name : view.name = seat.name
  lock : (view.status = .locked ∧ ∃ since holder, seat.state = .locked since holder ∧
      view.lockedAt = some since ∧ view.userId = some holder) ∨
    (view.status ≠ .locked ∧ view.lockedAt = none ∧ view.userId = none)

end SeatView

theorem Hold.tells_display (seat : Seat) (now : Instant) (length : Span) :
    (Hold.display seat now length).Tells seat := by
  cases hs : seat.state with
  | available =>
    simp only [Hold.display, hs]
    exact ⟨rfl, rfl, rfl, .inr ⟨nofun, rfl, rfl⟩⟩
  | sold =>
    simp only [Hold.display, hs]
    exact ⟨rfl, rfl, rfl, .inr ⟨nofun, rfl, rfl⟩⟩
  | locked since holder =>
    simp only [Hold.display, hs]
    split
    · exact ⟨rfl, rfl, rfl, .inr ⟨nofun, rfl, rfl⟩⟩
    · exact ⟨rfl, rfl, rfl, .inl ⟨rfl, since, holder, hs, rfl, rfl⟩⟩

/-- The views are the map of a show, where `seat?` is what is committed under a number. -/
structure MapsShow (seat? : Int → Option Seat) (showId : Int) (now : Instant) (length : Span)
    (views : List SeatView) : Prop where
  ordered : views.Pairwise SeatView.Precedes
  single : ∀ r, views.filter (fun view => view.id = r) =
    (((seat? r).filter fun seat => seat.showId = showId).map
      fun seat => Hold.display seat now length).toList
  tells : ∀ view ∈ views, ∃ seat,
    seat? view.id = some seat ∧ seat.showId = showId ∧ view.Tells seat

theorem Store.mapsShow (s : Store) (showId : Int) (now : Instant) (length : Span) :
    MapsShow s.seats.get? showId now length
      ((s.seatsOfShow showId).map fun seat => Hold.display seat now length) where
  ordered := by
    refine List.pairwise_map.2 ((s.seatsOfShow_ordered showId).imp fun {a b} h => ?_)
    have ha := Hold.tells_display a now length
    have hb := Hold.tells_display b now length
    unfold SeatView.Precedes
    rw [ha.name, hb.name, ha.id, hb.id, Octets.ofText_lt_iff]
    exact h
  single r := by
    have hid : (fun view : SeatView => decide (view.id = r)) ∘
        (fun seat => Hold.display seat now length) = fun seat => decide (seat.id = r) :=
      funext fun seat => by rw [Function.comp, (Hold.tells_display seat now length).id]
    rw [List.filter_map, hid, s.filter_id_seatsOfShow, Option.toList_map]
  tells view hv := by
    obtain ⟨seat, hm, rfl⟩ := List.mem_map.1 hv
    obtain ⟨hg, hshow⟩ := mem_seatsOfShow.1 hm
    have htells := Hold.tells_display seat now length
    exact ⟨seat, htells.id ▸ hg, hshow, htells⟩

namespace Store

def published? (s : Store) : Request → Option SeatTable
  | .commit tx => (s.commit tx).2.toOption.map fun _ => (s.tx tx).seats
  | _ => none

def afterRequests (s : Store) (requests : List (Instant × Request)) : Store :=
  requests.foldl (fun s request => (s.perform request.1 request.2).1) s

def published (s : Store) : List (Instant × Request) → List SeatTable
  | [] => []
  | (now, request) :: rest =>
    (s.published? request).toList ++ (s.perform now request).1.published rest

theorem seats_fetch (s : Store) (tx : TxId) (r : Int) : (s.fetch tx r).1.seats = s.seats := by
  unfold fetch
  split
  · rfl
  · split
    · rfl
    · simp only
      split <;> exact seats_claim s tx r

theorem seats_update (s : Store) (tx : TxId) (r : Int) (state : SeatState) :
    (s.update tx r state).1.seats = s.seats := by
  unfold update
  split
  · rfl
  · split <;> rfl

theorem seats_insert (s : Store) (tx : TxId) (sale : Sale) :
    (s.insert tx sale).1.seats = s.seats := by
  unfold insert
  simp only
  split
  · rfl
  · split <;> rfl

theorem get?_perform (s : Store) (now : Instant) (request : Request) (r : Int) :
    (s.perform now request).1.seats.get? r =
      (s.published? request).toList.foldl (fun row staged => (staged.get? r).or row)
        (s.seats.get? r) := by
  cases request with
  | now | find | begin | rollback | discard => rfl
  | fetch tx q => exact congrArg (SeatTable.get? · r) (s.seats_fetch tx q)
  | update tx q state => exact congrArg (SeatTable.get? · r) (s.seats_update tx q state)
  | insert tx sale => exact congrArg (SeatTable.get? · r) (s.seats_insert tx sale)
  | commit tx =>
    have hpublished : s.published? (.commit tx) =
        (s.commit tx).2.toOption.map fun _ => (s.tx tx).seats := rfl
    change (s.commit tx).1.seats.get? r = _
    rw [hpublished]
    rcases s.commit_data tx with ⟨hok, hseats, -⟩ | ⟨⟨e, he⟩, hseats, -⟩
    · rw [hseats, hok]
      rfl
    · rw [hseats, he]
      rfl

theorem get?_afterRequests (s : Store) (requests : List (Instant × Request)) (r : Int) :
    (s.afterRequests requests).seats.get? r =
      (s.published requests).foldl (fun row staged => (staged.get? r).or row)
        (s.seats.get? r) := by
  induction requests generalizing s with
  | nil => rfl
  | cons request rest ih =>
    rw [published, List.foldl_append, ← get?_perform]
    exact ih _

end Store

namespace Office

variable {o : Office}

theorem seatMap_eq (hk : o.keeping = .memory) (showId : Int) :
    o.seatMap showId = (o, .ok ((o.store.seatsOfShow showId).map
      fun seat => Hold.display seat o.clock o.rules.holdLength)) := by
  simp only [seatMap, seatsOfShow, hk, Except.map]

/-- The map of a show is at hand at once and leaves the office as it is. It has one view for each
seat of the show that is committed, in order, whatever is going on in open transactions: any office
with the same seats, clock and length of holds has the same map. After any requests it is the map of
what the commits among them have made of the seats, each with all or nothing. -/
theorem seat_map_shows_committed (o : Office) (hk : o.keeping = .memory) (showId : Int) :
    ∃ views, o.seatMap showId = (o, .ok views) ∧
      MapsShow o.store.seats.get? showId o.clock o.rules.holdLength views ∧
      (∀ other : Office, other.keeping = .memory → other.clock = o.clock →
        other.rules.holdLength = o.rules.holdLength →
        (∀ r, other.store.seats.get? r = o.store.seats.get? r) →
        other.seatMap showId = (other, .ok views)) ∧
      ∀ requests, let later : Office := { o with store := o.store.afterRequests requests }
        ∃ views, later.seatMap showId = (later, .ok views) ∧
          MapsShow (fun r => (o.store.published requests).foldl
            (fun row staged => (staged.get? r).or row) (o.store.seats.get? r))
            showId o.clock o.rules.holdLength views := by
  refine ⟨_, seatMap_eq hk showId, o.store.mapsShow showId _ _,
    fun other hother hclock hlength hseats => ?_, fun requests => ?_⟩
  · rw [seatMap_eq hother, hclock, hlength, Store.seatsOfShow, SeatTable.eq_of_get? hseats]
    rfl
  · intro later
    have hmap := later.store.mapsShow showId o.clock o.rules.holdLength
    rw [funext (o.store.get?_afterRequests requests)] at hmap
    exact ⟨_, seatMap_eq (o := later) hk showId, hmap⟩

def Store.midSale : Store where
  seats := .ofList [⟨1, 5, "A2", .locked .epoch 7⟩, ⟨2, 5, "A10", .available⟩, ⟨3, 6, "A1", .sold⟩]
  bookings := []
  lastBooking := 1
  claims := [⟨1, 0⟩, ⟨1, 1⟩]
  running := [⟨0, .ofList [⟨1, 5, "A2", .sold⟩], [⟨1, 7, 5, 1, none⟩]⟩]
  nextTx := 2
  faults := ⟨false, false⟩

theorem seat_map_shows_committed_midSale :
    ∃ o : Office, o.keeping = .memory ∧ o.store = Store.midSale ∧
      ∃ views, o.seatMap 5 = (o, .ok views) ∧ views.Pairwise SeatView.Precedes ∧
        views.filter (fun view => view.id = 1) =
          [⟨1, 5, "A2", .locked, some .epoch, some 7⟩] ∧
        views.filter (fun view => view.id = 2) = [⟨2, 5, "A10", .available, none, none⟩] ∧
        views.filter (fun view => view.id = 3) = [] ∧
        ∃ later, (Office.seatMap { o with store := o.store.afterRequests [(.epoch, .commit 0)] }
            5).2 = .ok later ∧
          later.filter (fun view => view.id = 1) = [⟨1, 5, "A2", .sold, none, none⟩] := by
  let o : Office :=
    { rules := ⟨⟨600000000000, by decide, by decide⟩, 5000,
        ⟨Octets.ofText "secret", ⟨900000000000, by decide, by decide⟩⟩, 30000⟩
      keeping := .memory
      clock := .epoch
      wallClock := .epoch
      elapsed := 0
      store := Store.midSale
      database := .ofLine 5000 ⟨[], [], []⟩
      cache := ⟨none, false, false, 3600, []⟩ }
  obtain ⟨views, hviews, hmap, -, hafter⟩ := seat_map_shows_committed o rfl 5
  obtain ⟨later, hlater, hmap'⟩ := hafter [(.epoch, .commit 0)]
  exact ⟨o, rfl, rfl, views, hviews, hmap.ordered, hmap.single 1, hmap.single 2, hmap.single 3,
    later, congrArg Prod.snd hlater, hmap'.single 1⟩

end Office

end BoxOffice
