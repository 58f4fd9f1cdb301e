import BoxOffice.Proofs.DecimalTexts
import BoxOffice.Proofs.JsonRecords
import BoxOffice.Proofs.SameInstant

set_option autoImplicit false

namespace BoxOffice

theorem bind_eq_error_iff {ε α β : Type} {x : Except ε α} {f : α → Except ε β} {e : ε} :
    x >>= f = .error e ↔ x = .error e ∨ ∃ a, x = .ok a ∧ f a = .error e := by
  cases x with
  | error e' =>
    constructor
    · exact fun h => .inl (congrArg _ (Except.error.inj h))
    · rintro (h | ⟨_, h, -⟩)
      · exact congrArg _ (Except.error.inj h)
      · cases h
  | ok a =>
    constructor
    · exact fun h => .inr ⟨a, rfl, h⟩
    · rintro (h | ⟨_, h, hf⟩)
      · cases h
      · cases h
        exact hf

theorem except_ext {ε α : Type} {x y : Except ε α} (hok : ∀ a, x = .ok a ↔ y = .ok a)
    (herror : ∀ e, x = .error e ↔ y = .error e) : x = y := by
  cases x with
  | error e => exact ((herror e).1 rfl).symm
  | ok a => exact ((hok a).1 rfl).symm

namespace Settings

def Says (env : Environment) (name text : String) : Prop := env name = some (Octets.ofText text)

/-- The variable is not set, or not to a text. -/
def Silent (env : Environment) (name : String) : Prop := ∀ text, ¬Says env name text

def SaysAlike (env env' : Environment) (name : String) : Prop :=
  ∀ text, Says env name text ↔ Says env' name text

def Writes (b : Decimal.Bounds) (text : String) (n : Int) : Prop :=
  Decimal.Denotes b.signed text.toList n ∧ b.Holds n

/-- A variable, and the place of `σ` that it fills. -/
inductive Entry (σ : Type) where
  | required (name : String) (get : σ → String)
  | number (name : String) (b : Decimal.Bounds) (default : Int) (get : σ → Int)
  | plain (name default : String) (get : σ → String)

namespace Entry

variable {σ τ : Type}

def name : Entry σ → String
  | required name _ | number name _ _ _ | plain name _ _ => name

def Accepts (env : Environment) : Entry σ → Prop
  | required name _ => ∃ text, Says env name text
  | number name b _ _ => (∃ text n, Says env name text ∧ Writes b text n) ∨ Silent env name
  | plain _ _ _ => True

def Fills (env : Environment) (s : σ) : Entry σ → Prop
  | required name get => Says env name (get s)
  | number name b default get =>
    (∃ text, Says env name text ∧ Writes b text (get s)) ∨ Silent env name ∧ get s = default
  | plain name default get => Says env name (get s) ∨ Silent env name ∧ get s = default

def Faults (env : Environment) (e : Error) : Entry σ → Prop
  | required name _ => Silent env name ∧ e = .missing name
  | number name b _ _ =>
    ∃ text, Says env name text ∧ (¬∃ n, Writes b text n) ∧ e = .invalid name text
  | plain _ _ _ => False

def within (part : τ → σ) : Entry σ → Entry τ
  | required name get => required name (get ∘ part)
  | number name b default get => number name b default (get ∘ part)
  | plain name default get => plain name default (get ∘ part)

end Entry

variable {env env' : Environment} {name text default : String} {b : Decimal.Bounds} {n d : Int}
variable {e : Error}

theorem text?_eq_some_iff : text? env name = some text ↔ Says env name text := by
  simp only [text?, Says, Option.bind_eq_some_iff, Octets.toText?_eq_some_iff]
  constructor
  · rintro ⟨octets, h, rfl⟩
    exact h
  · exact fun h => ⟨_, h, rfl⟩

theorem Says.eq {text' : String} (h : Says env name text) (h' : Says env name text') :
    text = text' :=
  Option.some.inj ((text?_eq_some_iff.2 h).symm.trans (text?_eq_some_iff.2 h'))

theorem text?_eq_none_iff : text? env name = none ↔ Silent env name := by
  simp only [Silent, ← text?_eq_some_iff, Option.eq_none_iff_forall_ne_some, ne_eq]

theorem saysAlike_of_text? (h : text? env name = text? env' name) : SaysAlike env env' name :=
  fun text => by rw [← text?_eq_some_iff, ← text?_eq_some_iff, h]

theorem writes_iff : Decimal.integer? b text = some n ↔ Writes b text n := Decimal.integer?_iff

theorem required_eq_ok_iff : required env name = .ok text ↔ Says env name text := by
  rw [← text?_eq_some_iff, required]
  cases text? env name <;> simp

theorem required_eq_error_iff :
    required env name = .error e ↔ Silent env name ∧ e = .missing name := by
  rw [← text?_eq_none_iff, required]
  cases text? env name <;> simp [eq_comm]

theorem textOr_eq_iff : textOr env name default = text ↔
    Says env name text ∨ Silent env name ∧ text = default := by
  rw [← text?_eq_some_iff, ← text?_eq_none_iff, textOr]
  cases text? env name <;> simp [eq_comm]

theorem number_eq_ok_iff : number env b name d = .ok n ↔
    (∃ text, Says env name text ∧ Writes b text n) ∨ Silent env name ∧ n = d := by
  simp only [← text?_eq_some_iff, ← text?_eq_none_iff, ← writes_iff, number]
  cases htext : text? env name with
  | none => simp [eq_comm]
  | some text => cases hn : Decimal.integer? b text <;> simp [hn]

theorem number_eq_error_iff : number env b name d = .error e ↔
    ∃ text, Says env name text ∧ (¬∃ n, Writes b text n) ∧ e = .invalid name text := by
  simp only [← text?_eq_some_iff, ← writes_iff, number]
  cases htext : text? env name with
  | none => simp
  | some text => cases hn : Decimal.integer? b text <;> simp [hn, eq_comm]

namespace Entry

variable {σ τ : Type} {x : Entry σ} {part : τ → σ} {s : σ} {t : τ}

theorem accepts_within : (x.within part).Accepts env ↔ x.Accepts env := by
  cases x <;> rfl

theorem fills_within : (x.within part).Fills env t ↔ x.Fills env (part t) := by
  cases x <;> rfl

theorem faults_within : (x.within part).Faults env e ↔ x.Faults env e := by
  cases x <;> rfl

theorem silent_congr (h : SaysAlike env env' name) : Silent env name ↔ Silent env' name :=
  forall_congr' fun text => not_congr (h text)

theorem fills_congr (h : SaysAlike env env' x.name) : x.Fills env s ↔ x.Fills env' s := by
  cases x with
  | required name get => exact h _
  | number name b default get =>
    exact or_congr (exists_congr fun text => and_congr_left' (h text))
      (and_congr_left' (silent_congr h))
  | plain name default get => exact or_congr (h _) (and_congr_left' (silent_congr h))

theorem accepts_iff : x.Accepts env ↔ ∀ e, ¬x.Faults env e := by
  cases x with
  | required name get =>
    constructor
    · rintro ⟨text, htext⟩ e ⟨hsilent, -⟩
      exact hsilent text htext
    · intro h
      by_contra hnone
      exact h _ ⟨fun text htext => hnone ⟨text, htext⟩, rfl⟩
  | number name b default get =>
    constructor
    · rintro (⟨text, n, htext, hn⟩ | hsilent) e ⟨text', htext', hnone, -⟩
      · obtain rfl := htext.eq htext'
        exact hnone ⟨n, hn⟩
      · exact hsilent text' htext'
    · intro h
      by_contra hnot
      obtain ⟨hnone, hsilent⟩ := not_or.1 hnot
      refine hsilent fun text htext => h _ ⟨text, htext, ?_, rfl⟩
      exact fun ⟨n, hn⟩ => hnone ⟨text, n, htext, hn⟩
  | plain name default get => exact ⟨fun _ _ => id, fun _ => trivial⟩

theorem faults_congr (h : SaysAlike env env' x.name) : x.Faults env e ↔ x.Faults env' e := by
  cases x with
  | required name get => exact and_congr_left' (silent_congr h)
  | number name b default get => exact exists_congr fun text => and_congr_left' (h text)
  | plain name default get => exact Iff.rfl

theorem accepts_congr (h : SaysAlike env env' x.name) : x.Accepts env ↔ x.Accepts env' := by
  simp only [accepts_iff, faults_congr h]

end Entry

/-- The error of the first variable that is at fault. -/
def FirstFault {σ : Type} (env : Environment) (entries : List (Entry σ)) (e : Error) : Prop :=
  ∃ before x after, entries = before ++ x :: after ∧ (∀ y ∈ before, y.Accepts env) ∧
    x.Faults env e

variable {σ τ : Type} {entries more : List (Entry σ)} {x : Entry σ}

theorem firstFault_nil : ¬FirstFault env ([] : List (Entry σ)) e := by
  rintro ⟨before, x, after, h, -⟩
  cases before <;> cases h

theorem firstFault_cons_iff : FirstFault env (x :: entries) e ↔
    x.Faults env e ∨ x.Accepts env ∧ FirstFault env entries e := by
  constructor
  · rintro ⟨_ | ⟨y, before⟩, z, after, h, hbefore, hfault⟩
    · cases h
      exact .inl hfault
    · cases h
      obtain ⟨hy, hbefore⟩ := List.forall_mem_cons.1 hbefore
      exact .inr ⟨hy, before, z, after, rfl, hbefore, hfault⟩
  · rintro (hfault | ⟨hx, before, z, after, rfl, hbefore, hfault⟩)
    · exact ⟨[], x, entries, rfl, nofun, hfault⟩
    · exact ⟨x :: before, z, after, rfl, List.forall_mem_cons.2 ⟨hx, hbefore⟩, hfault⟩

theorem forall_accepts_iff : (∀ x ∈ entries, x.Accepts env) ↔ ∀ e, ¬FirstFault env entries e := by
  induction entries with
  | nil => simp [firstFault_nil]
  | cons y entries ih =>
    simp only [List.forall_mem_cons, ih, firstFault_cons_iff, not_or, not_and, forall_and,
      ← Entry.accepts_iff]
    exact and_congr_right fun hy => ⟨fun h e _ => h e, fun h e => h e hy⟩

theorem firstFault_append_iff : FirstFault env (entries ++ more) e ↔
    FirstFault env entries e ∨ (∀ y ∈ entries, y.Accepts env) ∧ FirstFault env more e := by
  induction entries with
  | nil => simp [firstFault_nil]
  | cons y entries ih =>
    rw [List.cons_append, firstFault_cons_iff, ih, firstFault_cons_iff, List.forall_mem_cons]
    tauto

theorem firstFault_within {part : τ → σ} :
    FirstFault env (entries.map (.within part)) e ↔ FirstFault env entries e := by
  induction entries with
  | nil => simp [firstFault_nil]
  | cons y entries ih =>
    rw [List.map_cons, firstFault_cons_iff, ih, firstFault_cons_iff, Entry.faults_within,
      Entry.accepts_within]

theorem firstFault_congr (h : ∀ x ∈ entries, SaysAlike env env' x.name) :
    FirstFault env entries e ↔ FirstFault env' entries e := by
  induction entries with
  | nil => simp [firstFault_nil]
  | cons y entries ih =>
    obtain ⟨hy, hrest⟩ := List.forall_mem_cons.1 h
    rw [firstFault_cons_iff, firstFault_cons_iff, ih hrest, Entry.faults_congr hy,
      Entry.accepts_congr hy]

def Blames {α : Type} (env : Environment) (m : Except Error α) (entries : List (Entry σ)) : Prop :=
  ∀ e, m = .error e ↔ FirstFault env entries e

namespace Blames

variable {α β : Type} {m : Except Error α} {f : α → Except Error β} {a : α}

theorem done : Blames env (.ok a) ([] : List (Entry σ)) := fun _ =>
  ⟨nofun, fun h => absurd h firstFault_nil⟩

theorem exists_ok_iff (h : Blames env m entries) :
    (∃ a, m = .ok a) ↔ ∀ x ∈ entries, x.Accepts env := by
  simp only [forall_accepts_iff, ← h _]
  cases m with
  | ok a => exact ⟨fun _ _ => nofun, fun _ => ⟨a, rfl⟩⟩
  | error e => exact ⟨fun ⟨_, h⟩ => (nomatch h), fun h => absurd rfl (h e)⟩

theorem bind (h : Blames env m entries) (hf : ∀ a, Blames env (f a) more) :
    Blames env (m >>= f) (entries ++ more) := fun e => by
  rw [bind_eq_error_iff, firstFault_append_iff, h e, ← h.exists_ok_iff]
  simp only [hf _ e, exists_and_right]

theorem within (h : Blames env m entries) (part : τ → σ) :
    Blames env m (entries.map (.within part)) := fun e =>
  (h e).trans firstFault_within.symm

theorem required (get : σ → String) :
    Blames env (Settings.required env name) [.required name get] := fun e => by
  rw [required_eq_error_iff, firstFault_cons_iff]
  simp only [firstFault_nil, and_false, or_false, Entry.Faults]

theorem number (get : σ → Int) :
    Blames env (Settings.number env b name d) [.number name b d get] := fun e => by
  rw [number_eq_error_iff, firstFault_cons_iff]
  simp only [firstFault_nil, and_false, or_false, Entry.Faults]

end Blames

def App.guarded : List (Entry App) :=
  [.number "PORT" .word16 8000 (·.port),
    .number "HANDLER_TIMEOUT_SECS" .word64 30 (·.handlerTimeoutSeconds)]

def App.unguarded : List (Entry App) :=
  [.plain "HOST" "0.0.0.0" (·.host), .plain "ENVIRONMENT" "development" (·.environment),
    .plain "RUST_LOG" "seat_booking=debug,tower_http=debug" (·.logFilter),
    .plain "LOG_FORMAT" "pretty" (·.logFormat)]

def Database.guarded : List (Entry Database) :=
  [.required "DATABASE_URL" (·.url), .number "DB_POOL_SIZE" .word32 20 (·.poolSize),
    .number "DB_ACQUIRE_TIMEOUT_SECS" .word64 5 (·.acquireTimeoutSeconds),
    .number "DB_LOCK_TIMEOUT_MS" .word64 5000 (·.lockTimeoutMillis)]

def Cache.guarded : List (Entry Cache) :=
  [.required "REDIS_URL" (·.url), .number "CATALOG_CACHE_TTL_SECS" .word64 3600 (·.catalogSeconds)]

def Tokens.guarded : List (Entry Tokens) :=
  [.required "JWT_SECRET" (·.secret), .number "JWT_EXPIRES_IN_MINUTES" .signed64 15 (·.minutes)]

def Booking.guarded : List (Entry Booking) :=
  [.number "SEAT_LOCK_DURATION_SECS" .signed64 600 (·.holdSeconds),
    .number "SEAT_LOCK_WAIT_TIMEOUT_MS" .word64 5000 (·.lockWaitMillis)]

/-- The variables that can be at fault, in the order in which they are read. -/
def guarded : List (Entry Settings) :=
  App.guarded.map (.within Settings.app) ++ (Database.guarded.map (.within Settings.database) ++
    (Cache.guarded.map (.within Settings.cache) ++ (Tokens.guarded.map (.within Settings.tokens) ++
      Booking.guarded.map (.within Settings.booking))))

example : guarded.map Entry.name =
    ["PORT", "HANDLER_TIMEOUT_SECS", "DATABASE_URL", "DB_POOL_SIZE", "DB_ACQUIRE_TIMEOUT_SECS",
      "DB_LOCK_TIMEOUT_MS", "REDIS_URL", "CATALOG_CACHE_TTL_SECS", "JWT_SECRET",
      "JWT_EXPIRES_IN_MINUTES", "SEAT_LOCK_DURATION_SECS", "SEAT_LOCK_WAIT_TIMEOUT_MS"] := rfl

def unguarded : List (Entry Settings) := App.unguarded.map (.within Settings.app)

variable {settings : Settings}

theorem App.read_eq_ok_iff {app : App} : App.read env = .ok app ↔
    (∀ x ∈ App.guarded, x.Fills env app) ∧ ∀ x ∈ App.unguarded, x.Fills env app := by
  simp only [App.read, bind_eq_ok_iff, number_eq_ok_iff, App.guarded, App.unguarded,
    List.forall_mem_cons, Entry.Fills, ← textOr_eq_iff]
  constructor
  · rintro ⟨port, hport, seconds, hseconds, h⟩
    cases h
    simp [hport, hseconds]
  · rintro ⟨⟨hport, hseconds, -⟩, hhost, henvironment, hfilter, hformat, -⟩
    refine ⟨_, hport, _, hseconds, ?_⟩
    rw [hhost, henvironment, hfilter, hformat]

theorem Database.read_eq_ok_iff {database : Database} : Database.read env = .ok database ↔
    ∀ x ∈ Database.guarded, x.Fills env database := by
  simp only [Database.read, bind_eq_ok_iff, number_eq_ok_iff, required_eq_ok_iff, Database.guarded,
    List.forall_mem_cons, Entry.Fills]
  constructor
  · rintro ⟨url, hurl, size, hsize, acquire, hacquire, lock, hlock, h⟩
    cases h
    simp [hurl, hsize, hacquire, hlock]
  · rintro ⟨hurl, hsize, hacquire, hlock, -⟩
    exact ⟨_, hurl, _, hsize, _, hacquire, _, hlock, rfl⟩

theorem Cache.read_eq_ok_iff {cache : Cache} : Cache.read env = .ok cache ↔
    ∀ x ∈ Cache.guarded, x.Fills env cache := by
  simp only [Cache.read, bind_eq_ok_iff, number_eq_ok_iff, required_eq_ok_iff, Cache.guarded,
    List.forall_mem_cons, Entry.Fills]
  constructor
  · rintro ⟨url, hurl, seconds, hseconds, h⟩
    cases h
    simp [hurl, hseconds]
  · rintro ⟨hurl, hseconds, -⟩
    exact ⟨_, hurl, _, hseconds, rfl⟩

theorem Tokens.read_eq_ok_iff {tokens : Tokens} : Tokens.read env = .ok tokens ↔
    ∀ x ∈ Tokens.guarded, x.Fills env tokens := by
  simp only [Tokens.read, bind_eq_ok_iff, number_eq_ok_iff, required_eq_ok_iff, Tokens.guarded,
    List.forall_mem_cons, Entry.Fills]
  constructor
  · rintro ⟨secret, hsecret, minutes, hminutes, h⟩
    cases h
    simp [hsecret, hminutes]
  · rintro ⟨hsecret, hminutes, -⟩
    exact ⟨_, hsecret, _, hminutes, rfl⟩

theorem Booking.read_eq_ok_iff {booking : Booking} : Booking.read env = .ok booking ↔
    ∀ x ∈ Booking.guarded, x.Fills env booking := by
  simp only [Booking.read, bind_eq_ok_iff, number_eq_ok_iff, Booking.guarded,
    List.forall_mem_cons, Entry.Fills]
  constructor
  · rintro ⟨seconds, hseconds, wait, hwait, h⟩
    cases h
    simp [hseconds, hwait]
  · rintro ⟨hseconds, hwait, -⟩
    exact ⟨_, hseconds, _, hwait, rfl⟩

theorem sections_iff : Settings.read env = .ok settings ↔
    App.read env = .ok settings.app ∧ Database.read env = .ok settings.database ∧
      Cache.read env = .ok settings.cache ∧ Tokens.read env = .ok settings.tokens ∧
      Booking.read env = .ok settings.booking := by
  refine ⟨sections_of_read, fun ⟨happ, hdatabase, hcache, htokens, hbooking⟩ => ?_⟩
  simp only [Settings.read, happ, hdatabase, hcache, htokens, hbooking]
  rfl

theorem read_eq_ok_iff : Settings.read env = .ok settings ↔
    (∀ x ∈ guarded, x.Fills env settings) ∧ ∀ x ∈ unguarded, x.Fills env settings := by
  simp only [sections_iff, App.read_eq_ok_iff, Database.read_eq_ok_iff, Cache.read_eq_ok_iff,
    Tokens.read_eq_ok_iff, Booking.read_eq_ok_iff, guarded, unguarded, List.forall_mem_append,
    List.forall_mem_map, Entry.fills_within]
  tauto

theorem App.blames : Blames env (App.read env) App.guarded :=
  (Blames.number _).bind fun _ => (Blames.number _).bind fun _ => .done

theorem Database.blames : Blames env (Database.read env) Database.guarded :=
  (Blames.required _).bind fun _ => (Blames.number _).bind fun _ => (Blames.number _).bind fun _ =>
    (Blames.number _).bind fun _ => .done

theorem Cache.blames : Blames env (Cache.read env) Cache.guarded :=
  (Blames.required _).bind fun _ => (Blames.number _).bind fun _ => .done

theorem Tokens.blames : Blames env (Tokens.read env) Tokens.guarded :=
  (Blames.required _).bind fun _ => (Blames.number _).bind fun _ => .done

theorem Booking.blames : Blames env (Booking.read env) Booking.guarded :=
  (Blames.number _).bind fun _ => (Blames.number _).bind fun _ => .done

theorem blames : Blames env (Settings.read env) guarded :=
  (App.blames.within _).bind fun _ => (Database.blames.within _).bind fun _ =>
    (Cache.blames.within _).bind fun _ => (Tokens.blames.within _).bind fun _ =>
      (Booking.blames.within _).bind fun _ => .done

theorem read_congr (hguarded : ∀ x ∈ guarded, SaysAlike env env' x.name)
    (hunguarded : ∀ x ∈ unguarded, SaysAlike env env' x.name) :
    Settings.read env = Settings.read env' := by
  refine except_ext (fun settings => ?_) fun e => ?_
  · rw [read_eq_ok_iff, read_eq_ok_iff]
    exact and_congr (forall₂_congr fun x hx => Entry.fills_congr (hguarded x hx))
      (forall₂_congr fun x hx => Entry.fills_congr (hunguarded x hx))
  · rw [blames e, blames e, firstFault_congr hguarded]

/-- An environment is accepted exactly if none of the variables that can be at fault is. What is
read is then what the variables say, or the defaults; otherwise the error is that of the first
variable at fault. No other variable has a say, and those that cannot be at fault have none in the
error. -/
theorem accepted_or_first_fault (env : Environment) :
    ((∃ settings, Settings.read env = .ok settings) ↔ ∀ x ∈ guarded, x.Accepts env) ∧
      (∀ settings, Settings.read env = .ok settings ↔
        (∀ x ∈ guarded, x.Fills env settings) ∧ ∀ x ∈ unguarded, x.Fills env settings) ∧
      (∀ e, Settings.read env = .error e ↔ FirstFault env guarded e) ∧
      ∀ env', (∀ x ∈ guarded, SaysAlike env env' x.name) →
        (∀ e, Settings.read env = .error e ↔ Settings.read env' = .error e) ∧
          ((∀ x ∈ unguarded, SaysAlike env env' x.name) →
            Settings.read env = Settings.read env') := by
  refine ⟨blames.exists_ok_iff, fun settings => read_eq_ok_iff, blames, fun env' h => ⟨?_, ?_⟩⟩
  · intro e
    rw [blames e, blames e, firstFault_congr h]
  · exact read_congr h

/-- A sign alone is no number, whatever else is set. -/
theorem accepted_or_first_fault_lone_sign :
    let env := plain (some "-")
    let env' : Environment := fun name =>
      if name = "HOST" ∨ name = "PORTS" then some [255] else env name
    FirstFault env guarded (.invalid "SEAT_LOCK_DURATION_SECS" "-") ∧
      Settings.read env' = .error (.invalid "SEAT_LOCK_DURATION_SECS" "-") ∧
      Settings.read env = Settings.read env' := by
  intro env env'
  have hunset : ∀ name ∈ ["PORT", "HANDLER_TIMEOUT_SECS", "DB_POOL_SIZE",
      "DB_ACQUIRE_TIMEOUT_SECS", "DB_LOCK_TIMEOUT_MS", "CATALOG_CACHE_TTL_SECS",
      "JWT_EXPIRES_IN_MINUTES"], text? env name = none := by
    decide +kernel
  have hsilent := fun name hm => text?_eq_none_iff.1 (hunset name hm)
  have hset : ∀ name ∈ ["DATABASE_URL", "REDIS_URL", "JWT_SECRET"], ∃ text, Says env name text := by
    intro name hm
    refine ⟨name, ?_⟩
    rcases List.mem_cons.1 hm with rfl | hm
    · rfl
    · rcases List.mem_pair.1 hm with rfl | rfl <;> rfl
  have hbefore : ∀ y ∈ guarded.take 10, y.Accepts env := by
    simp [guarded, App.guarded, Database.guarded, Cache.guarded, Tokens.guarded, Entry.within,
      Entry.Accepts, hsilent, hset]
  have hsign : ¬∃ n, Writes .signed64 "-" n := by
    rintro ⟨n, hn⟩
    have hnone : Decimal.integer? .signed64 "-" = none := by decide +kernel
    cases hnone.symm.trans (writes_iff.2 hn)
  have hfault : FirstFault env guarded (.invalid "SEAT_LOCK_DURATION_SECS" "-") :=
    ⟨guarded.take 10, .number "SEAT_LOCK_DURATION_SECS" .signed64 600 (·.booking.holdSeconds),
      guarded.drop 11, rfl, hbefore, "-", rfl, hsign, rfl⟩
  have htext : ∀ name ∈ (guarded ++ unguarded).map Entry.name,
      text? env name = text? env' name := by
    decide +kernel
  have hsays : ∀ x ∈ guarded ++ unguarded, SaysAlike env env' x.name := fun x hx =>
    saysAlike_of_text? (htext x.name (List.mem_map_of_mem hx))
  obtain ⟨hguarded, hunguarded⟩ := List.forall_mem_append.1 hsays
  obtain ⟨-, -, hfirst, halike⟩ := accepted_or_first_fault env
  obtain ⟨herror, hall⟩ := halike env' hguarded
  exact ⟨hfault, (herror _).1 ((hfirst _).2 hfault), hall hunguarded⟩

end Settings

end BoxOffice
