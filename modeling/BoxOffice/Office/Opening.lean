import BoxOffice.Database.Schema
import BoxOffice.Office

set_option autoImplicit false

/-!
# Opening an office

An office without services keeps its seats in memory and needs nothing but its rules. One with
services needs the network first: without it there is no database to talk to. Only then are the
rules read from the settings, and a hold length or a token lifetime that is no span opens no office.

A server brings the tables of its database up to date before it opens. Whatever happens to the
cache, it then asks for the movies once, so that they are at hand.
-/

namespace BoxOffice

open Database (Line)

inductive Network where
  | reachable
  | unreachable
deriving DecidableEq

namespace Office

structure Plan where
  booking : Settings.Booking
  tokens : Settings.Tokens
  requestLimitSeconds : Nat
  lockTimeoutMillis : Int
  keeping : Keeping
  seats : List Seat
  clock : Instant
  wallClock : Instant

inductive Closed where
  | cutOff (cause : StorageError)
  /-- The tables are not up to date; the statements are those that were said. -/
  | outdated (said : List Database.Statement)
  /-- A length of time in the rules is no span. -/
  | noSpan

def noRoute : StorageError := .io "Network is unreachable (os error 101)"

def Plan.rules? (p : Plan) : Option Rules := do
  let holdLength ← p.booking.holdLength?
  let lifetime ← p.tokens.lifetime?
  some
    { holdLength
      lockWait := p.booking.lockWaitMillis.toNat
      keys := ⟨Octets.ofText p.tokens.secret, lifetime⟩
      requestLimit := p.requestLimitSeconds * 1000 }

def Plan.office? (p : Plan) (line : Line) (cache : Catalog.Cache) : Option Office :=
  p.rules?.map fun rules =>
    { rules
      keeping := p.keeping
      clock := p.clock
      wallClock := p.wallClock
      elapsed := 0
      store := .ofSeats p.seats
      database := .ofLine p.lockTimeoutMillis line
      cache }

def openWith (network : Network) (p : Plan) (line : Line) (cache : Catalog.Cache) :
    Except Closed Office :=
  match network with
  | .unreachable => .error (.cutOff noRoute)
  | .reachable => (p.office? line cache).elim (.error .noSpan) .ok

def warmUp (o : Office) : Office :=
  let (cache, line, _) := Catalog.movies o.cache o.database.line
  { o with cache, database := { o.database with line } }

def openServer (network : Network) (p : Plan) (line : Line) (cache : Catalog.Cache) :
    Except Closed Office :=
  match network with
  | .unreachable => .error (.cutOff noRoute)
  | .reachable =>
    let (line, current) := Database.Schema.update line
    if current then (p.office? line cache).elim (.error .noSpan) fun o => .ok o.warmUp
    else .error (.outdated line.said)

end Office

end BoxOffice
