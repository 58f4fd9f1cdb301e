import BoxOffice.Proofs.RowQueues

set_option autoImplicit false

namespace BoxOffice

open Engine (TxId)

namespace SeatTable

theorem get?_putAll_of_ascending (t : SeatTable) {rows : List Seat} (h : Ascending rows) (r : Int) :
    (t.putAll rows).get? r = (rows.find? fun row => row.id = r).or (t.get? r) := by
  induction rows generalizing t with
  | nil => rfl
  | cons row rest ih =>
    obtain ⟨hrow, hrest⟩ := List.pairwise_cons.1 h
    change ((t.put row).putAll rest).get? r = _
    rw [ih _ hrest, get?_put]
    by_cases hr : row.id = r
    · have hlater : rest.find? (fun later => later.id = r) = none := by
        refine List.find?_eq_none.2 fun later hm => ?_
        have hlt : row.id < later.id := hrow later hm
        simp only [decide_eq_true_eq]
        omega
      rw [hlater, if_pos hr, List.find?_cons_of_pos (by simpa using hr)]
      rfl
    · rw [if_neg hr, List.find?_cons_of_neg (by simpa using hr)]

theorem get?_putAll_rows (t u : SeatTable) (r : Int) :
    (t.putAll u.rows).get? r = (u.get? r).or (t.get? r) :=
  t.get?_putAll_of_ascending u.ascending r

end SeatTable

namespace Store

variable {s : Store} {tx : TxId}

/-- A staged booking has a key that a committed booking of its user has. -/
def KeyClash (s : Store) (tx : TxId) : Prop :=
  ∃ b ∈ (s.tx tx).bookings, ∃ key, b.key = some key ∧ ∃ c ∈ s.bookings, c.HasKey b.userId key

theorem keyClash_iff :
    s.KeyClash tx ↔
      ((s.tx tx).bookings.any fun b => keyTaken s.bookings b.userId b.key) = true := by
  simp only [KeyClash, List.any_eq_true, keyTaken_eq_true_iff]

theorem queue_finish (s : Store) (tx : TxId) (r : Int) :
    (s.finish tx).queue r = (s.queue r).filter fun a => a ≠ tx := by
  simp only [queue, finish, List.filter_map, List.filter_filter]
  congr 1
  refine List.filter_congr fun c _ => ?_
  exact Bool.and_comm _ _

theorem commit_cases (s : Store) (tx : TxId) :
    (s.faults.commits = true ∧
        s.commit tx = (s.finish tx, .error (.unavailable "commit failed"))) ∨
      (s.faults.commits = false ∧ s.KeyClash tx ∧ s.commit tx = (s.finish tx, .error .keyTaken)) ∨
      (s.faults.commits = false ∧ ¬s.KeyClash tx ∧ s.commit tx = (s.committed tx, .ok ())) := by
  rw [commit_eq, keyClash_iff]
  by_cases hf : s.faults.commits = true
  · exact .inl ⟨hf, if_pos hf⟩
  · have hoff : s.faults.commits = false := by simpa using hf
    right
    rw [if_neg hf]
    by_cases hk : ((s.tx tx).bookings.any fun b => keyTaken s.bookings b.userId b.key) = true
    · exact .inl ⟨hoff, hk, if_pos hk⟩
    · exact .inr ⟨hoff, hk, if_neg hk⟩

theorem commit_data (s : Store) (tx : TxId) :
    ((s.commit tx).2 = .ok () ∧
        (∀ r, (s.commit tx).1.seats.get? r = ((s.tx tx).seats.get? r).or (s.seats.get? r)) ∧
        (s.commit tx).1.bookings = s.bookings ++ (s.tx tx).bookings) ∨
      ((∃ e, (s.commit tx).2 = .error e) ∧
        (s.commit tx).1.seats = s.seats ∧ (s.commit tx).1.bookings = s.bookings) := by
  rcases s.commit_cases tx with ⟨-, hc⟩ | ⟨-, -, hc⟩ | ⟨-, -, hc⟩
  · rw [hc]
    exact .inr ⟨⟨_, rfl⟩, rfl, rfl⟩
  · rw [hc]
    exact .inr ⟨⟨_, rfl⟩, rfl, rfl⟩
  · rw [hc]
    exact .inl ⟨rfl, s.seats.get?_putAll_rows (s.tx tx).seats, rfl⟩

theorem commit_fails_iff (s : Store) (tx : TxId) :
    (s.commit tx).2 = .error (.unavailable "commit failed") ↔ s.faults.commits = true := by
  rcases s.commit_cases tx with ⟨hf, hc⟩ | ⟨hf, -, hc⟩ | ⟨hf, -, hc⟩ <;> simp [hf, hc]

theorem commit_keyTaken_iff (s : Store) (tx : TxId) :
    (s.commit tx).2 = .error .keyTaken ↔ s.faults.commits = false ∧ s.KeyClash tx := by
  rcases s.commit_cases tx with ⟨hf, hc⟩ | ⟨hf, hk, hc⟩ | ⟨hf, hk, hc⟩
  · simp [hf, hc]
  · simp [hf, hc, hk]
  · simp [hf, hc, hk]

theorem commit_ok_iff (s : Store) (tx : TxId) :
    (s.commit tx).2 = .ok () ↔ s.faults.commits = false ∧ ¬s.KeyClash tx := by
  rcases s.commit_cases tx with ⟨hf, hc⟩ | ⟨hf, hk, hc⟩ | ⟨hf, hk, hc⟩
  · simp [hf, hc]
  · simp [hf, hc, hk]
  · simp [hf, hc, hk]

theorem commit_ends (s : Store) (tx : TxId) :
    (s.commit tx).1.running = (s.finish tx).running ∧
      (s.commit tx).1.claims = (s.finish tx).claims := by
  rcases s.commit_cases tx with ⟨-, hc⟩ | ⟨-, -, hc⟩ | ⟨-, -, hc⟩ <;> rw [hc] <;> exact ⟨rfl, rfl⟩

theorem tx_commit (s : Store) (tx other : TxId) :
    (s.commit tx).1.tx other = if other = tx then .blank tx else s.tx other := by
  rw [← tx_finish]
  unfold Store.tx
  rw [(s.commit_ends tx).1]

theorem queue_commit (s : Store) (tx : TxId) (r : Int) :
    (s.commit tx).1.queue r = (s.queue r).filter fun a => a ≠ tx := by
  rw [← queue_finish]
  unfold queue
  rw [(s.commit_ends tx).2]

theorem not_holds_commit (s : Store) (tx : TxId) (r : Int) : ¬(s.commit tx).1.Holds tx r := by
  intro hh
  have hm : tx ∈ (s.commit tx).1.queue r := mem_queue.2 hh.mem_claims
  rw [queue_commit] at hm
  exact of_decide_eq_true (List.mem_filter.1 hm).2 rfl

/-- A commit succeeds and shows all that was staged, or it fails and changes nothing that is
committed. It fails because of the fault, or else because of a key. In any case the transaction has
ended: nothing of it is staged any more, the others have what they had, and its rows are free for
those that stood behind it. -/
theorem commit_is_all_or_nothing (s : Store) (tx : TxId) :
    let s' := (s.commit tx).1
    let reply := (s.commit tx).2
    let staged := s.tx tx
    ((reply = .ok () ∧
          (∀ r, s'.seats.get? r = (staged.seats.get? r).or (s.seats.get? r)) ∧
          s'.bookings = s.bookings ++ staged.bookings) ∨
        ((∃ e, reply = .error e) ∧ s'.seats = s.seats ∧ s'.bookings = s.bookings)) ∧
      (reply = .error (.unavailable "commit failed") ↔ s.faults.commits = true) ∧
      (reply = .error .keyTaken ↔ s.faults.commits = false ∧ s.KeyClash tx) ∧
      (reply = .ok () ↔ s.faults.commits = false ∧ ¬s.KeyClash tx) ∧
      (∀ other, s'.tx other = if other = tx then .blank tx else s.tx other) ∧
      ∀ r, s'.holder r = ((s.queue r).filter fun a => a ≠ tx).head? ∧
        s'.queue r = ((s.queue r).filter fun a => a ≠ tx) ∧ ¬s'.Holds tx r := by
  intro s' reply staged
  refine ⟨s.commit_data tx, s.commit_fails_iff tx, s.commit_keyTaken_iff tx, s.commit_ok_iff tx,
    s.tx_commit tx, fun r => ⟨?_, s.queue_commit tx r, s.not_holds_commit tx r⟩⟩
  rw [holder_eq_head?, s.queue_commit tx r]

/-- The last of two staged bookings has a key that is taken, so the seat is not sold either. -/
example :
    let s : Store :=
      { seats := .ofList [⟨1, 5, "A1", .locked .epoch 7⟩], bookings := [⟨1, 7, 5, 2, some "k"⟩]
        lastBooking := 3, claims := [⟨1, 0⟩, ⟨1, 1⟩], nextTx := 2, faults := ⟨false, false⟩
        running := [⟨0, .ofList [⟨1, 5, "A1", .sold⟩],
          [⟨2, 7, 5, 1, none⟩, ⟨3, 7, 5, 1, some "k"⟩]⟩] }
    (s.commit 0).2 = .error .keyTaken ∧ (s.commit 0).1.seats.rows = s.seats.rows ∧
      (s.commit 0).1.bookings.length = 1 ∧ (s.commit 0).1.holder 1 = some 1 := by
  decide +kernel

end Store

end BoxOffice
