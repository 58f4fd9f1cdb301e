import BoxOffice.Office.Opening
import BoxOffice.Proofs.SameInstant

set_option autoImplicit false

namespace BoxOffice

namespace Span

def longestSeconds : Int := 9223372036854775

def longestMinutes : Int := 153722867280912

theorem exists_ofNanos?_iff {n : Int} :
    (∃ d, ofNanos? n = some d) ↔ -longestNanos ≤ n ∧ n ≤ longestNanos := by
  simp only [ofNanos?_eq_some_iff]
  constructor
  · rintro ⟨d, rfl⟩
    exact ⟨d.neg_longest_le, d.le_longest⟩
  · rintro ⟨hl, hr⟩
    exact ⟨⟨n, hl, hr⟩, rfl⟩

theorem exists_ofSeconds?_iff {n : Int} :
    (∃ d, ofSeconds? n = some d) ↔ -longestSeconds ≤ n ∧ n ≤ longestSeconds := by
  unfold ofSeconds?
  rw [exists_ofNanos?_iff, longestNanos, longestSeconds]
  omega

theorem exists_ofMinutes?_iff {n : Int} :
    (∃ d, ofMinutes? n = some d) ↔ -longestMinutes ≤ n ∧ n ≤ longestMinutes := by
  unfold ofMinutes?
  rw [exists_ofSeconds?_iff, longestSeconds, longestMinutes]
  omega

end Span

namespace Settings

variable {env : Environment} {settings : Settings}

theorem minutes_of_read (h : Settings.read env = .ok settings) :
    number env .signed64 "JWT_EXPIRES_IN_MINUTES" 15 = .ok settings.tokens.minutes := by
  obtain ⟨-, -, -, htokens, -⟩ := sections_of_read h
  obtain ⟨secret, -, htokens⟩ := bind_eq_ok htokens
  obtain ⟨minutes, hminutes, htokens⟩ := bind_eq_ok htokens
  rw [← Except.ok.inj htokens]
  exact hminutes

/-- The number that the variable is set to, if it is set to one, lies within the bound. -/
def Within (env : Environment) (name : String) (bound : Int) : Prop :=
  ∀ text n, text? env name = some text → Decimal.integer? .signed64 text = some n →
    -bound ≤ n ∧ n ≤ bound

theorem within_of_text {name text : String} {bound n : Int} (ht : text? env name = some text)
    (hn : Decimal.integer? .signed64 text = some n) (h : -bound ≤ n ∧ n ≤ bound) :
    Within env name bound := by
  intro text' n' ht' hn'
  obtain rfl := Option.some.inj (ht.symm.trans ht')
  obtain rfl := Option.some.inj (hn.symm.trans hn')
  exact h

theorem within_iff {name : String} {default bound n : Int}
    (h : number env .signed64 name default = .ok n) (hd : -bound ≤ default ∧ default ≤ bound) :
    Within env name bound ↔ -bound ≤ n ∧ n ≤ bound := by
  unfold number at h
  split at h
  · next hunset =>
    cases h
    exact ⟨fun _ => hd, fun _ text m ht _ => by rw [hunset] at ht; cases ht⟩
  · next text htext =>
    split at h
    · next m hm =>
      cases h
      constructor
      · exact fun hw => hw text n htext hm
      · exact within_of_text htext hm
    · cases h

theorem holdLength?_iff (h : Settings.read env = .ok settings) :
    (∃ length, settings.booking.holdLength? = some length) ↔
      Within env "SEAT_LOCK_DURATION_SECS" Span.longestSeconds := by
  rw [within_iff (holdSeconds_of_read h) (by decide)]
  exact Span.exists_ofSeconds?_iff

theorem lifetime?_iff (h : Settings.read env = .ok settings) :
    (∃ lifetime, settings.tokens.lifetime? = some lifetime) ↔
      Within env "JWT_EXPIRES_IN_MINUTES" Span.longestMinutes := by
  rw [within_iff (minutes_of_read h) (by decide)]
  exact Span.exists_ofMinutes?_iff

theorem ofSettings?_iff (h : Settings.read env = .ok settings) :
    (∃ keys, Token.Keys.ofSettings? settings.tokens = some keys) ↔
      Within env "JWT_EXPIRES_IN_MINUTES" Span.longestMinutes := by
  rw [← lifetime?_iff h]
  unfold Token.Keys.ofSettings?
  cases settings.tokens.lifetime? <;> simp

end Settings

namespace Office

variable {p : Plan} {line : Database.Line} {cache : Catalog.Cache}

theorem exists_rules?_iff : (∃ rules, p.rules? = some rules) ↔
    (∃ length, p.booking.holdLength? = some length) ∧
      ∃ lifetime, p.tokens.lifetime? = some lifetime := by
  unfold Plan.rules?
  cases p.booking.holdLength? with
  | none => simp
  | some length => cases p.tokens.lifetime? <;> simp

theorem exists_office?_iff :
    (∃ o, p.office? line cache = some o) ↔ ∃ rules, p.rules? = some rules := by
  unfold Plan.office?
  cases p.rules? <;> simp

theorem openWith_reachable_iff :
    (∃ o, openWith .reachable p line cache = .ok o) ↔ ∃ o, p.office? line cache = some o := by
  unfold openWith
  cases p.office? line cache <;> simp

theorem openWith_eq_noSpan_iff :
    openWith .reachable p line cache = .error .noSpan ↔ ¬∃ o, p.office? line cache = some o := by
  unfold openWith
  cases p.office? line cache <;> simp

/-- Whatever the settings accept, holds have a length if and only if a number of seconds that is set
for it is a span, tokens have keys if and only if the same goes for the minutes of their lifetime,
and an office opens if and only if both do. It fails for want of a span otherwise. -/
theorem opens_iff_spans {env : Environment} {settings : Settings}
    (hread : Settings.read env = .ok settings) (hbooking : p.booking = settings.booking)
    (htokens : p.tokens = settings.tokens) (line : Database.Line) (cache : Catalog.Cache) :
    let holds := Settings.Within env "SEAT_LOCK_DURATION_SECS" Span.longestSeconds
    let tokens := Settings.Within env "JWT_EXPIRES_IN_MINUTES" Span.longestMinutes
    ((∃ length, settings.booking.holdLength? = some length) ↔ holds) ∧
      ((∃ keys, Token.Keys.ofSettings? settings.tokens = some keys) ↔ tokens) ∧
      ((∃ o, p.office? line cache = some o) ↔ holds ∧ tokens) ∧
      ((∃ o, openWith .reachable p line cache = .ok o) ↔ holds ∧ tokens) ∧
      (openWith .reachable p line cache = .error .noSpan ↔ ¬(holds ∧ tokens)) := by
  intro holds tokens
  have hoffice : (∃ o, p.office? line cache = some o) ↔ holds ∧ tokens := by
    rw [exists_office?_iff, exists_rules?_iff, hbooking, htokens, Settings.holdLength?_iff hread,
      Settings.lifetime?_iff hread]
  refine ⟨Settings.holdLength?_iff hread, Settings.ofSettings?_iff hread, hoffice, ?_, ?_⟩
  · rw [openWith_reachable_iff, hoffice]
  · rw [openWith_eq_noSpan_iff, hoffice]

def Plan.bare (settings : Settings) : Plan where
  booking := settings.booking
  tokens := settings.tokens
  requestLimitSeconds := settings.app.handlerTimeoutSeconds.toNat
  lockTimeoutMillis := settings.database.lockTimeoutMillis
  keeping := .memory
  seats := []
  clock := .epoch
  wallClock := .epoch

def longestSpans : Environment := fun name =>
  if name = "JWT_EXPIRES_IN_MINUTES" then some (Octets.ofText "153722867280912")
  else Settings.plain (some "9223372036854775") name

theorem opens_iff_spans_longest :
    ∃ settings o, Settings.read longestSpans = .ok settings ∧
      settings.booking.holdSeconds = Span.longestSeconds ∧
      settings.tokens.minutes = Span.longestMinutes ∧
      openWith .reachable (.bare settings) ⟨[], [], []⟩ ⟨none, false, false, 3600, []⟩ = .ok o := by
  have hseconds : Settings.text? longestSpans "SEAT_LOCK_DURATION_SECS" =
      some "9223372036854775" := by
    decide +kernel
  have hminutes : Settings.text? longestSpans "JWT_EXPIRES_IN_MINUTES" =
      some "153722867280912" := by
    decide +kernel
  have hread : ∃ settings, Settings.read longestSpans = .ok settings ∧
      settings.booking.holdSeconds = Span.longestSeconds ∧
      settings.tokens.minutes = Span.longestMinutes := by
    refine ⟨⟨⟨"0.0.0.0", 8000, "development", "seat_booking=debug,tower_http=debug", "pretty", 30⟩,
      ⟨"DATABASE_URL", 20, 5, 5000⟩, ⟨"REDIS_URL", 3600⟩, ⟨"JWT_SECRET", 153722867280912⟩,
      ⟨9223372036854775, 5000⟩⟩, by decide +kernel, rfl, rfl⟩
  obtain ⟨settings, hread, hholds, htokens⟩ := hread
  obtain ⟨-, -, -, hopen, -⟩ := opens_iff_spans (p := .bare settings) hread rfl rfl
    ⟨[], [], []⟩ ⟨none, false, false, 3600, []⟩
  obtain ⟨o, ho⟩ := hopen.2
    ⟨Settings.within_of_text hseconds (n := 9223372036854775) (by decide +kernel) (by decide),
      Settings.within_of_text hminutes (n := 153722867280912) (by decide +kernel) (by decide)⟩
  exact ⟨settings, o, hread, hholds, htokens, ho⟩

/-- The longest time that the settings accept for a hold is no span, and no office opens with it. -/
theorem longest_number_opens_nothing :
    ∃ settings, Settings.read (Settings.plain (some "9223372036854775807")) = .ok settings ∧
      settings.booking.holdLength? = none ∧
      openWith .reachable (.bare settings) ⟨[], [], []⟩ ⟨none, false, false, 3600, []⟩ =
        .error .noSpan := by
  have hnumber : Settings.number (Settings.plain (some "9223372036854775807")) .signed64
      "SEAT_LOCK_DURATION_SECS" 600 = .ok 9223372036854775807 := by
    rw [Settings.number, Settings.text?_plain]
    rfl
  obtain ⟨settings, hread, hseconds⟩ := Settings.read_plain hnumber
  have hlength : settings.booking.holdLength? = none := by
    rw [Settings.Booking.holdLength?, hseconds]
    rfl
  refine ⟨settings, hread, hlength, openWith_eq_noSpan_iff.2 ?_⟩
  rw [exists_office?_iff, exists_rules?_iff]
  rintro ⟨⟨length, h⟩, -⟩
  cases hlength.symm.trans h

end Office

end BoxOffice
