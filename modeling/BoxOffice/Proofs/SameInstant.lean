import BoxOffice.Proofs.HoldPromise
import BoxOffice.Proofs.Visits
import BoxOffice.Settings

set_option autoImplicit false

namespace BoxOffice

open Engine (Gain Receipt)

namespace Settings

variable {env : Environment} {settings : Settings} {length : Span}

theorem bind_eq_ok {ε α β : Type} {x : Except ε α} {f : α → Except ε β} {b : β}
    (h : x >>= f = .ok b) : ∃ a, x = .ok a ∧ f a = .ok b := by
  cases x with
  | error e => cases h
  | ok a => exact ⟨a, rfl, h⟩

theorem sections_of_read (h : Settings.read env = .ok settings) :
    App.read env = .ok settings.app ∧ Database.read env = .ok settings.database ∧
      Cache.read env = .ok settings.cache ∧ Tokens.read env = .ok settings.tokens ∧
      Booking.read env = .ok settings.booking := by
  obtain ⟨app, happ, h⟩ := bind_eq_ok h
  obtain ⟨database, hdatabase, h⟩ := bind_eq_ok h
  obtain ⟨cache, hcache, h⟩ := bind_eq_ok h
  obtain ⟨tokens, htokens, h⟩ := bind_eq_ok h
  obtain ⟨booking, hbooking, h⟩ := bind_eq_ok h
  cases h
  exact ⟨happ, hdatabase, hcache, htokens, hbooking⟩

theorem holdSeconds_of_read (h : Settings.read env = .ok settings) :
    number env .signed64 "SEAT_LOCK_DURATION_SECS" 600 = .ok settings.booking.holdSeconds := by
  obtain ⟨-, -, -, -, hbooking⟩ := sections_of_read h
  obtain ⟨seconds, hseconds, hbooking⟩ := bind_eq_ok hbooking
  obtain ⟨wait, -, hbooking⟩ := bind_eq_ok hbooking
  rw [← Except.ok.inj hbooking]
  exact hseconds

theorem holdSeconds_nonneg (h : Settings.read env = .ok settings)
    (hn : ∀ text n, text? env "SEAT_LOCK_DURATION_SECS" = some text →
      Decimal.integer? .signed64 text = some n → 0 ≤ n) : 0 ≤ settings.booking.holdSeconds := by
  have hnumber := holdSeconds_of_read h
  unfold number at hnumber
  split at hnumber
  · rw [← Except.ok.inj hnumber]
    decide
  · rename_i text htext
    split at hnumber
    · rename_i n hint
      rw [← Except.ok.inj hnumber]
      exact hn text n htext hint
    · cases hnumber

theorem nanos_of_holdLength? {booking : Settings.Booking} (h : booking.holdLength? = some length) :
    length.nanos = booking.holdSeconds * 1000000000 :=
  Span.ofNanos?_eq_some_iff.1 h

def plain (holdSeconds : Option String) : Environment := fun name =>
  if name = "SEAT_LOCK_DURATION_SECS" then holdSeconds.map Octets.ofText
  else if name = "DATABASE_URL" ∨ name = "REDIS_URL" ∨ name = "JWT_SECRET" then
    some (Octets.ofText name)
  else none

theorem text?_eq_some {name text : String} (h : env name = some (Octets.ofText text)) :
    text? env name = some text := by
  rw [text?, h]
  exact Octets.toText?_ofText text

theorem text?_plain (holdSeconds : Option String) :
    text? (plain holdSeconds) "SEAT_LOCK_DURATION_SECS" = holdSeconds := by
  cases holdSeconds with
  | none => rfl
  | some text => exact Octets.toText?_ofText text

theorem read_plain {holdSeconds : Option String} {n : Int}
    (hn : number (plain holdSeconds) .signed64 "SEAT_LOCK_DURATION_SECS" 600 = .ok n) :
    ∃ settings, Settings.read (plain holdSeconds) = .ok settings ∧
      settings.booking.holdSeconds = n := by
  have hd : text? (plain holdSeconds) "DATABASE_URL" = some "DATABASE_URL" :=
    text?_eq_some rfl
  have hc : text? (plain holdSeconds) "REDIS_URL" = some "REDIS_URL" :=
    text?_eq_some rfl
  have ht : text? (plain holdSeconds) "JWT_SECRET" = some "JWT_SECRET" :=
    text?_eq_some rfl
  refine ⟨⟨⟨"0.0.0.0", 8000, "development", "seat_booking=debug,tower_http=debug", "pretty", 30⟩,
    ⟨"DATABASE_URL", 20, 5, 5000⟩, ⟨"REDIS_URL", 3600⟩, ⟨"JWT_SECRET", 15⟩, ⟨n, 5000⟩⟩, ?_, rfl⟩
  simp only [Settings.read, Booking.read, hn, Database.read, required, hd, Cache.read, hc,
    Tokens.read, ht]
  rfl

end Settings

namespace Traffic

variable {length : Span} {s : Store} {t t' : Traffic} {e : Event} {i j : Nat} {r user : Int}
variable {now ends : Instant} {receipt : Receipt}

theorem eq_clock_of_reading? (h : t.reading? r e = some now) : now = t.clock := by
  unfold reading? at h
  split at h
  · split at h
    · split at h
      · exact (Option.some.inj h).symm
      · cases h
    · cases h
  · cases h

structure Frozen (now : Instant) (t : Traffic) : Prop where
  clock : t.clock = now
  reads : ∀ i v, t.visits i = some v → v.stage.Reads now

theorem Frozen.step (hf : t.Frozen now) (h : Happens length t e t')
    (he : ∀ now', e = .clock now' → now' = now) : t'.Frozen now := by
  refine ⟨?_, fun i v hv => ?_⟩
  · cases h with
    | clock now' => exact he now' rfl
    | _ => exact hf.clock
  · rcases h.visit_before hv with hv | ⟨-, -, hs⟩ | ⟨stage, s', -, hv, -, ha⟩ |
      ⟨stage, -, hv, -, hs⟩
    · exact hf.reads i v hv
    · rw [hs]
      exact Engine.reads_first _
    · rw [hf.clock] at ha
      exact ha.reads (hf.reads i _ hv)
    · rw [hs]
      exact Engine.reads_expire (hf.reads i _ hv)

def Granted (t : Traffic) (r : Int) (i : Nat) : Prop :=
  ∃ user receipt, t.visits i = some ⟨.hold r user, .finished (.done receipt)⟩

/-- Nobody has been granted the hold, or one visit has and its hold has counted ever since. -/
inductive Claimed (length : Span) (r : Int) (now : Instant) (t : Traffic) : Prop
  | free (hn : ∀ i, ¬t.Granted r i)
  | held {start : Traffic} {showId user : Int} {ends : Instant} {i : Nat}
      (he : Hold.expiresAt? now length = some ends) (hh : Honoured start r showId user now t)
      (hi : ∀ j, start.Granted r j → j = i)

theorem outcome_eq_done {since : Instant} (h : (Gain.hold since).outcome length = .done receipt) :
    ∃ ends, Hold.expiresAt? since length = some ends ∧ receipt = .held ends := by
  cases he : Hold.expiresAt? since length with
  | none => simp [Gain.outcome, he] at h
  | some ends => exact ⟨ends, rfl, by simpa [Gain.outcome, he] using h.symm⟩

theorem claimed_of_granted (ht : t.Sound length) (hf : t.Frozen now) (h : Happens length t e t')
    (hn : ∀ i, ¬t.Granted r i) (hi : t'.Granted r i) : Claimed length r now t' := by
  obtain ⟨user, receipt, hi⟩ := hi
  have hnew : ∀ {j other receipt},
      t.visits j ≠ some ⟨.hold r other, .finished (.done receipt)⟩ :=
    fun hj => hn _ ⟨_, _, hj⟩
  cases ht.effect h with
  | none hs hb hv =>
    rcases hv i _ _ hi rfl with hi | ⟨x, hx⟩ | ⟨key, b, hk, -⟩
    · exact absurd hi hnew
    · cases hx
    · cases hk
  | sale hj hg ha hbk hk hs hb hv =>
    have hvi := hi
    rw [hv] at hvi
    rcases of_update hvi with ⟨-, hvi⟩ | ⟨-, hvi⟩
    · cases hvi
    · exact absurd hvi hnew
  | hold hj hg ha hs hb hv =>
    rename_i j q other tx since seat
    have hvi := hi
    rw [hv] at hvi
    rcases of_update hvi with ⟨hij, hw⟩ | ⟨-, hvi⟩
    · injection hw with hw
      injection hw with horder hstage
      injection horder with hq hu
      injection hstage with hout
      subst q other hij
      obtain ⟨ends, he, rfl⟩ := outcome_eq_done hout
      obtain rfl : since = now := hf.reads i _ hj
      obtain ⟨seat', since', he', hget, hl, hh⟩ := ht.honoured h hnew hi
      -- The hold that counts from now on is the one that has just been written.
      rw [hs, get?_put_of_grips hg, if_pos rfl] at hget
      obtain rfl := Option.some.inj hget
      cases hl
      refine .held (i := i) he hh ?_
      rintro k ⟨other, receipt, hk⟩
      by_contra hki
      rw [hv, Function.update_of_ne hki] at hk
      exact hnew hk
    · exact absurd hvi hnew

theorem Claimed.step (hc : Claimed length r now t) (hl : 0 ≤ length.nanos) (ht : t.Sound length)
    (hf : t.Frozen now) (h : Happens length t e t') : Claimed length r now t' := by
  cases hc with
  | free hn =>
    by_cases hi : ∃ i, t'.Granted r i
    · obtain ⟨i, hi⟩ := hi
      exact claimed_of_granted ht hf h hn hi
    · exact .free fun i hg => hi ⟨i, hg⟩
  | held he hh hi =>
    refine .held he (hh.step ht (fun now' hr => ?_) h) hi
    rw [eq_clock_of_reading? hr, hf.clock]
    exact Hold.not_isExpired_self hl

/-- Whatever the settings are, as long as they do not make holds shorter than nothing: of all the
orders that are served while the clock stands still, one at most is granted the hold of a seat. -/
theorem one_holder_at_one_instant {env : Environment} {settings : Settings}
    (hread : Settings.read env = .ok settings)
    (hlength : settings.booking.holdLength? = some length)
    (hneg : ∀ text n, Settings.text? env "SEAT_LOCK_DURATION_SECS" = some text →
      Decimal.integer? .signed64 text = some n → 0 ≤ n)
    (hs : s.AtRest) (now : Instant) (events : List Event)
    (hclock : ∀ now', .clock now' ∈ events → now' = now) (r : Int) :
    let t := (ofStore s now).run length events
    ∀ i j user user' receipt receipt',
      t.visits i = some ⟨.hold r user, .finished (.done receipt)⟩ →
      t.visits j = some ⟨.hold r user', .finished (.done receipt')⟩ → i = j := by
  intro t i j user user' receipt receipt' hi hj
  have hl : 0 ≤ length.nanos := by
    have := Settings.holdSeconds_nonneg hread hneg
    have := Settings.nanos_of_holdLength? hlength
    omega
  have hstill : Along length (fun _ e => ∀ now', e = .clock now' → now' = now) (ofStore s now)
      events :=
    along_of_forall fun e hm now' he => hclock now' (he ▸ hm)
  have hend : t.Frozen now ∧ Claimed length r now t := by
    refine (sound_ofStore hs now).run_along (P := fun t => t.Frozen now ∧ Claimed length r now t)
      ⟨⟨rfl, fun _ _ hv => nomatch hv⟩, .free ?_⟩ hstill fun ht he hp => ?_
    · rintro i ⟨user, receipt, hi⟩
      cases hi
    · exact ⟨hp.1.step (happens ht _) he, hp.2.step hl ht hp.1 (happens ht _)⟩
  cases hend.2 with
  | free hn => exact absurd ⟨user, receipt, hi⟩ (hn i)
  | held he hh hfirst =>
    have hi' := hfirst i ⟨user, receipt, hh.held i user receipt hi⟩
    have hj' := hfirst j ⟨user', receipt', hh.held j user' receipt' hj⟩
    exact hi'.trans hj'.symm

def twoHolds : List Event :=
  [.arrive (.hold 1 7), .go 0, .go 0, .go 0, .go 0, .go 0,
    .arrive (.hold 1 8), .go 1, .go 1, .go 1, .go 1, .go 1]

theorem one_holder_at_one_instant_default :
    ∃ settings, Settings.read (Settings.plain none) = .ok settings ∧
      settings.booking.holdLength? = some tenMinutes ∧ oneSeat.AtRest ∧
      ((ofStore oneSeat .epoch).run tenMinutes twoHolds).visits 0 =
        some ⟨.hold 1 7, .finished (.done (.held promised))⟩ ∧
      ∀ user receipt, ((ofStore oneSeat .epoch).run tenMinutes twoHolds).visits 1 ≠
        some ⟨.hold 1 user, .finished (.done receipt)⟩ := by
  have hnumber : Settings.number (Settings.plain none) .signed64 "SEAT_LOCK_DURATION_SECS" 600 =
      .ok 600 := rfl
  obtain ⟨settings, hread, hseconds⟩ := Settings.read_plain hnumber
  have hlength : settings.booking.holdLength? = some tenMinutes := by
    rw [Settings.Booking.holdLength?, hseconds]
    rfl
  have hfirst : ((ofStore oneSeat .epoch).run tenMinutes twoHolds).visits 0 =
      some ⟨.hold 1 7, .finished (.done (.held promised))⟩ := by
    decide +kernel
  refine ⟨settings, hread, hlength, ⟨rfl, rfl⟩, hfirst, fun user receipt hsecond => ?_⟩
  have h := one_holder_at_one_instant hread hlength
    (fun text n ht _ => by rw [Settings.text?_plain] at ht; cases ht) ⟨rfl, rfl⟩ .epoch twoHolds
    (by simp [twoHolds]) 1 0 1 7 user _ _ hfirst hsecond
  cases h

/-- A hold that lasts for a second less than nothing is over at once. -/
theorem two_holders_at_one_instant :
    ∃ settings length, Settings.read (Settings.plain (some "-1")) = .ok settings ∧
      settings.booking.holdLength? = some length ∧ oneSeat.AtRest ∧
      (∀ now, .clock now ∉ twoHolds) ∧
      (∃ receipt, ((ofStore oneSeat .epoch).run length twoHolds).visits 0 =
        some ⟨.hold 1 7, .finished (.done receipt)⟩) ∧
      ∃ receipt, ((ofStore oneSeat .epoch).run length twoHolds).visits 1 =
        some ⟨.hold 1 8, .finished (.done receipt)⟩ := by
  have hnumber : Settings.number (Settings.plain (some "-1")) .signed64
      "SEAT_LOCK_DURATION_SECS" 600 = .ok (-1) := by
    rw [Settings.number, Settings.text?_plain]
    rfl
  obtain ⟨settings, hread, hseconds⟩ := Settings.read_plain hnumber
  let length : Span := ⟨-1000000000, by decide, by decide⟩
  let ends : Instant := ⟨-1000000000, false, by decide, by decide⟩
  have hlength : settings.booking.holdLength? = some length := by
    rw [Settings.Booking.holdLength?, hseconds]
    rfl
  refine ⟨settings, length, hread, hlength, ⟨rfl, rfl⟩, by simp [twoHolds], ⟨.held ends, ?_⟩,
    ⟨.held ends, ?_⟩⟩
  · decide +kernel
  · decide +kernel

end Traffic

end BoxOffice
