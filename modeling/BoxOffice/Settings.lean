import BoxOffice.Text.Decimal
import BoxOffice.Text.Octets
import BoxOffice.Time.Instant

set_option autoImplicit false

/-!
# Settings

The settings are read from the variables of an environment, in a fixed order, and the first
variable that is missing or does not parse is the error. A variable that is no text counts as
unset; unset variables have their default where there is one.
-/

namespace BoxOffice

abbrev Environment := String → Option Octets

namespace Settings

structure App where
  host : String
  port : Int
  environment : String
  logFilter : String
  logFormat : String
  handlerTimeoutSeconds : Int
deriving DecidableEq

structure Database where
  url : String
  poolSize : Int
  acquireTimeoutSeconds : Int
  lockTimeoutMillis : Int
deriving DecidableEq

structure Cache where
  url : String
  catalogSeconds : Int
deriving DecidableEq

structure Tokens where
  secret : String
  minutes : Int
deriving DecidableEq

structure Booking where
  holdSeconds : Int
  lockWaitMillis : Int
deriving DecidableEq

/-- How long a hold counts, if that is a span at all. -/
def Booking.holdLength? (b : Booking) : Option Span := Span.ofSeconds? b.holdSeconds

def Tokens.lifetime? (t : Tokens) : Option Span := Span.ofMinutes? t.minutes

inductive Error where
  | missing (name : String)
  | invalid (name value : String)
deriving DecidableEq

def Error.message : Error → String
  | missing name => name ++ " must be set"
  | invalid name value => name ++ " has an invalid value: " ++ value

variable (env : Environment)

def text? (name : String) : Option String := (env name).bind Octets.toText?

def required (name : String) : Except Error String :=
  match text? env name with
  | some value => .ok value
  | none => .error (.missing name)

def textOr (name default : String) : String := (text? env name).getD default

def number (b : Decimal.Bounds) (name : String) (default : Int) : Except Error Int :=
  match text? env name with
  | none => .ok default
  | some value =>
    match Decimal.integer? b value with
    | some n => .ok n
    | none => .error (.invalid name value)

end Settings

structure Settings where
  app : Settings.App
  database : Settings.Database
  cache : Settings.Cache
  tokens : Settings.Tokens
  booking : Settings.Booking
deriving DecidableEq

namespace Settings

variable (env : Environment)

def App.read : Except Error App := do
  let port ← number env .word16 "PORT" 8000
  let handlerTimeoutSeconds ← number env .word64 "HANDLER_TIMEOUT_SECS" 30
  .ok
    { host := textOr env "HOST" "0.0.0.0"
      port
      environment := textOr env "ENVIRONMENT" "development"
      logFilter := textOr env "RUST_LOG" "seat_booking=debug,tower_http=debug"
      logFormat := textOr env "LOG_FORMAT" "pretty"
      handlerTimeoutSeconds }

def Database.read : Except Error Database := do
  let url ← required env "DATABASE_URL"
  let poolSize ← number env .word32 "DB_POOL_SIZE" 20
  let acquireTimeoutSeconds ← number env .word64 "DB_ACQUIRE_TIMEOUT_SECS" 5
  let lockTimeoutMillis ← number env .word64 "DB_LOCK_TIMEOUT_MS" 5000
  .ok { url, poolSize, acquireTimeoutSeconds, lockTimeoutMillis }

def Cache.read : Except Error Cache := do
  let url ← required env "REDIS_URL"
  let catalogSeconds ← number env .word64 "CATALOG_CACHE_TTL_SECS" 3600
  .ok { url, catalogSeconds }

def Tokens.read : Except Error Tokens := do
  let secret ← required env "JWT_SECRET"
  let minutes ← number env .signed64 "JWT_EXPIRES_IN_MINUTES" 15
  .ok { secret, minutes }

def Booking.read : Except Error Booking := do
  let holdSeconds ← number env .signed64 "SEAT_LOCK_DURATION_SECS" 600
  let lockWaitMillis ← number env .word64 "SEAT_LOCK_WAIT_TIMEOUT_MS" 5000
  .ok { holdSeconds, lockWaitMillis }

def read : Except Error Settings := do
  let app ← App.read env
  let database ← Database.read env
  let cache ← Cache.read env
  let tokens ← Tokens.read env
  let booking ← Booking.read env
  .ok { app, database, cache, tokens, booking }

end Settings

end BoxOffice
