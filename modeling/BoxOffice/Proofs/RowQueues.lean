import BoxOffice.Proofs.Bustle
import Mathlib.Data.List.Nodup

set_option autoImplicit false

/-!
# The queue for a row

The claims on a row stand in the order of their arrival, and the first of them holds it. Whatever an
event asks of the store, claims are taken out wherever they stand, or one that was not there before
joins at the end. So as long as a transaction keeps its place, those before it only become fewer.
-/

namespace BoxOffice

open Engine (TxId Request)

def Engine.Request.ended? : Request → Option TxId
  | commit tx | rollback tx | discard tx => some tx
  | now | find _ _ | begin | fetch _ _ | update _ _ _ | insert _ _ => none

namespace Store

def queue (s : Store) (r : Int) : List TxId := (s.claims.filter fun c => c.seatId = r).map (·.tx)

def ahead (s : Store) (r : Int) (tx : TxId) : List TxId := (s.queue r).takeWhile fun a => a ≠ tx

/-- The transaction stands in the queue, and the row is not its own yet. -/
def Waits (s : Store) (tx : TxId) (r : Int) : Prop := tx ∈ s.queue r ∧ ¬s.Holds tx r

instance (s : Store) (tx : TxId) (r : Int) : Decidable (s.Waits tx r) :=
  inferInstanceAs (Decidable (_ ∧ _))

inductive Requeued : Option Request → List Claim → List Claim → Prop
  | same {request claims} (he : request.bind Request.ended? = none) :
      Requeued request claims claims
  | joined {claims tx r} (hn : ⟨r, tx⟩ ∉ claims) :
      Requeued (some (.fetch tx r)) claims (claims ++ [⟨r, tx⟩])
  | ended {request claims tx} (he : request.ended? = some tx) :
      Requeued (some request) claims (claims.filter fun c => c.tx ≠ tx)
  | gaveUp {claims tx r} : Requeued none claims (claims.filter fun c => c ≠ ⟨r, tx⟩)

variable {s s' : Store} {a b tx : TxId} {r : Int} {request : Option Request}

theorem mem_queue : tx ∈ s.queue r ↔ ⟨r, tx⟩ ∈ s.claims := by
  simp only [queue, List.mem_map, List.mem_filter, decide_eq_true_eq]
  constructor
  · rintro ⟨⟨q, a⟩, ⟨hm, rfl⟩, rfl⟩
    exact hm
  · intro hm
    exact ⟨_, ⟨hm, rfl⟩, rfl⟩

theorem holder_eq_head? (s : Store) (r : Int) : s.holder r = (s.queue r).head? := by
  rw [holder, queue, List.head?_map, List.head?_filter]

theorem holds_iff_ahead : s.Holds tx r ↔ tx ∈ s.queue r ∧ s.ahead r tx = [] := by
  unfold Holds ahead
  rw [holder_eq_head?]
  cases s.queue r with
  | nil => simp
  | cons b rest =>
    by_cases hb : b = tx
    · simp [hb]
    · simp [hb]

theorem Waits.exists_holder (h : s.Waits tx r) : ∃ b, b ≠ tx ∧ s.Holds b r := by
  obtain ⟨b, hb⟩ := exists_holds_of_mem_claims (mem_queue.1 h.1)
  refine ⟨b, ?_, hb⟩
  rintro rfl
  exact h.2 hb

theorem nodup_queue (h : s.claims.Nodup) (r : Int) : (s.queue r).Nodup := by
  refine List.Nodup.map_on ?_ (h.filter _)
  rintro ⟨q, a⟩ ha ⟨q', b⟩ hb rfl
  have hq : q = r := by simpa using (List.mem_filter.1 ha).2
  have hq' : q' = r := by simpa using (List.mem_filter.1 hb).2
  rw [hq, hq']

theorem fetch_of_holds (h : s.Holds tx r) : s.fetch tx r = (s, some (s.readHeld tx r)) := by
  rw [fetch, if_pos h]

theorem holds_of_fetch_ok {seat : Seat} (h : (s.fetch tx r).2 = some (.ok seat)) :
    (s.fetch tx r).1.Holds tx r := by
  unfold fetch at h ⊢
  split
  · assumption
  · split
    · simp_all
    · simp only at h ⊢
      split
      · assumption
      · simp_all

theorem not_holds_of_fetch_none (h : (s.fetch tx r).2 = none) : ¬(s.fetch tx r).1.Holds tx r := by
  unfold fetch at h ⊢
  split
  · simp_all
  · split
    · assumption
    · simp only at h ⊢
      split
      · simp_all
      · assumption

theorem exists_holder_of_fetch_none (h : (s.fetch tx r).2 = none) : ∃ b, b ≠ tx ∧ s.Holds b r := by
  have hn : ¬s.Holds tx r := by
    intro hs
    rw [fetch_of_holds hs] at h
    cases h
  have hclaim : ¬(s.claim tx r).Holds tx r := by
    intro hc
    unfold fetch at h
    rw [if_neg hn] at h
    split at h
    · cases h
    · simp only [if_pos hc] at h
      cases h
  obtain ⟨b, hb⟩ := exists_holds_of_mem_claims (self_mem_claims_claim s tx r)
  have hne : b ≠ tx := by
    rintro rfl
    exact hclaim hb
  rcases mem_claims_claim hb.mem_claims with hm | hm
  · obtain ⟨d, hd⟩ := exists_holds_of_mem_claims hm
    refine ⟨d, ?_, hd⟩
    rintro rfl
    exact hn hd
  · cases hm
    exact absurd rfl hne

theorem requeued_claim (s : Store) (tx : TxId) (r : Int) :
    Requeued (some (.fetch tx r)) s.claims (s.claim tx r).claims := by
  unfold claim
  split
  · exact .same rfl
  · rename_i hn
    exact .joined hn

theorem requeued_perform (s : Store) (now : Instant) (request : Request) :
    Requeued (some request) s.claims (s.perform now request).1.claims := by
  cases request with
  | now | find | begin => exact .same rfl
  | fetch tx r =>
    simp only [perform, fetch]
    split
    · exact .same rfl
    · split
      · exact .same rfl
      · split <;> exact requeued_claim s tx r
  | update tx r state =>
    simp only [perform, update]
    split
    · exact .same rfl
    · split <;> exact .same rfl
  | insert tx sale =>
    simp only [perform, insert]
    split
    · exact .same rfl
    · split <;> exact .same rfl
  | commit tx =>
    simp only [perform, commit_eq]
    split
    · exact .ended rfl
    · split <;> exact .ended rfl
  | rollback tx | discard tx => exact .ended rfl

theorem Turn.requeued (h : s.Turn request s') : Requeued request s.claims s'.claims := by
  cases h with
  | perform now request => exact requeued_perform s now request
  | idle | faults | putSeat => exact .same rfl
  | unclaim => exact .gaveUp

variable {xs ys : List Claim}

theorem Requeued.mem (h : Requeued request xs ys) {c : Claim} (hc : c ∈ ys) :
    (c ∈ xs ∧ request.bind Request.ended? ≠ some c.tx) ∨
      request = some (.fetch c.tx c.seatId) := by
  have stays : c ∈ xs → request.bind Request.ended? = none →
      c ∈ xs ∧ request.bind Request.ended? ≠ some c.tx := by
    intro hm he
    rw [he]
    exact ⟨hm, nofun⟩
  cases h with
  | same he => exact Or.inl (stays hc he)
  | joined hn =>
    rcases List.mem_append.1 hc with hc | hc
    · exact Or.inl (stays hc rfl)
    · obtain rfl := List.mem_singleton.1 hc
      exact Or.inr rfl
  | ended he =>
    obtain ⟨hm, hne⟩ := List.mem_filter.1 hc
    refine Or.inl ⟨hm, fun h => ?_⟩
    rw [Option.bind_some, he] at h
    simp [Option.some.inj h] at hne
  | gaveUp => exact Or.inl (stays (List.mem_filter.1 hc).1 rfl)

theorem Requeued.nodup (h : Requeued request xs ys) (hx : xs.Nodup) : ys.Nodup := by
  cases h with
  | same => exact hx
  | joined hn => exact List.nodup_append.2 ⟨hx, List.nodup_singleton _, by
      intro c hc d hd
      obtain rfl := List.mem_singleton.1 hd
      rintro rfl
      exact hn hc⟩
  | ended | gaveUp => exact hx.filter _

theorem Requeued.eq_filter_append (h : Requeued request xs ys) :
    ∃ p new, ys = xs.filter p ++ new ∧ ∀ c ∈ new, c ∉ xs := by
  cases h with
  | same => exact ⟨fun _ => true, [], by simp, by simp⟩
  | joined hn => exact ⟨fun _ => true, _, by rw [List.filter_true], by simpa using hn⟩
  | ended | gaveUp => exact ⟨_, [], (List.append_nil _).symm, by simp⟩

theorem ahead_filter_append (p : Claim → Bool) (new : List Claim)
    (hm : ⟨r, tx⟩ ∈ xs.filter p) :
    ((((xs.filter p ++ new).filter fun c => c.seatId = r).map (·.tx)).takeWhile
        fun a => a ≠ tx).Sublist
      (((xs.filter fun c => c.seatId = r).map (·.tx)).takeWhile fun a => a ≠ tx) := by
  induction xs with
  | nil => cases hm
  | cons c xs ih =>
    by_cases hp : p c = true
    · rw [List.filter_cons_of_pos hp] at hm ⊢
      by_cases hr : c.seatId = r
      · by_cases htx : c.tx = tx
        · simp [hr, htx]
        · have hne : (⟨r, tx⟩ : Claim) ≠ c := by
            rintro rfl
            exact htx rfl
          have hm := (List.mem_cons.1 hm).resolve_left hne
          simpa [hr, htx] using ih hm
      · have hne : (⟨r, tx⟩ : Claim) ≠ c := by
          rintro rfl
          exact hr rfl
        simpa [hr] using ih ((List.mem_cons.1 hm).resolve_left hne)
    · rw [List.filter_cons_of_neg hp] at hm ⊢
      by_cases hr : c.seatId = r
      · have htx : c.tx ≠ tx := by
          rintro rfl
          subst hr
          exact hp (List.mem_filter.1 hm).2
        rw [List.filter_cons_of_pos (by simpa using hr), List.map_cons,
          List.takeWhile_cons_of_pos (by simpa using htx)]
        exact (ih hm).cons _
      · rw [List.filter_cons_of_neg (by simpa using hr)]
        exact ih hm

theorem Turn.ahead (h : s.Turn request s') (hm : tx ∈ s.queue r) (hm' : tx ∈ s'.queue r) :
    (s'.ahead r tx).Sublist (s.ahead r tx) := by
  obtain ⟨p, new, hclaims, hnew⟩ := h.requeued.eq_filter_append
  have hstays : ⟨r, tx⟩ ∈ s.claims.filter p := by
    rw [mem_queue, hclaims] at hm'
    exact (List.mem_append.1 hm').resolve_right fun hn => hnew _ hn (mem_queue.1 hm)
  unfold Store.ahead queue
  rw [hclaims]
  exact ahead_filter_append p new hstays

theorem Turn.queue_of_joined (h : s.Turn request s') (hn : tx ∉ s.queue r)
    (hm : tx ∈ s'.queue r) : s'.queue r = s.queue r ++ [tx] := by
  have hq := h.requeued
  rw [mem_queue] at hn hm
  generalize hxs : s.claims = xs at hq hn
  generalize hys : s'.claims = ys at hq hm
  cases hq with
  | same => exact absurd hm hn
  | ended | gaveUp => exact absurd (List.mem_filter.1 hm).1 hn
  | joined =>
    have he := List.mem_singleton.1 ((List.mem_append.1 hm).resolve_left hn)
    cases he
    unfold queue
    rw [hxs, hys]
    simp

end Store

namespace Bustle

variable {length : Span} {t : Bustle} {tx : TxId} {r : Int}

theorem ahead_run (events : List Event)
    (h : ∀ es, es <+: events → tx ∈ (t.run length es).store.queue r) :
    ((t.run length events).store.ahead r tx).Sublist (t.store.ahead r tx) := by
  induction events generalizing t with
  | nil => exact List.Sublist.refl _
  | cons e events ih =>
    have hfirst : tx ∈ t.store.queue r := h [] List.nil_prefix
    have hnext : tx ∈ (t.step length e).store.queue r := h [e] (by simp)
    have hrest := ih (t := t.step length e) fun es hes => h (e :: es) (by simpa using hes)
    exact hrest.trans ((t.turn_step e).ahead hfirst hnext)

end Bustle

end BoxOffice
