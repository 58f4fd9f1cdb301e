import BoxOffice.Database.Line

set_option autoImplicit false

namespace BoxOffice.Database.Schema

def lines : List String :=
  ["CREATE TABLE IF NOT EXISTS movies (",
    "id BIGSERIAL PRIMARY KEY,",
    "title VARCHAR(500) NOT NULL,",
    "description TEXT,",
    "duration_mins INTEGER NOT NULL DEFAULT 0,",
    "content_rating VARCHAR(50),",
    "created_at TIMESTAMPTZ NOT NULL DEFAULT NOW(),",
    "updated_at TIMESTAMPTZ NOT NULL DEFAULT NOW()",
    ");",
    "CREATE TABLE IF NOT EXISTS theatres (",
    "id BIGSERIAL PRIMARY KEY,",
    "name VARCHAR(255) NOT NULL,",
    "location VARCHAR(255),",
    "created_at TIMESTAMPTZ NOT NULL DEFAULT NOW(),",
    "updated_at TIMESTAMPTZ NOT NULL DEFAULT NOW()",
    ");",
    "CREATE TABLE IF NOT EXISTS shows (",
    "id BIGSERIAL PRIMARY KEY,",
    "movie_id BIGINT NOT NULL REFERENCES movies(id),",
    "theatre_id BIGINT NOT NULL REFERENCES theatres(id),",
    "start_time TIMESTAMPTZ NOT NULL,",
    "created_at TIMESTAMPTZ NOT NULL DEFAULT NOW(),",
    "updated_at TIMESTAMPTZ NOT NULL DEFAULT NOW()",
    ");",
    "CREATE INDEX IF NOT EXISTS idx_shows_movie_id ON shows(movie_id);",
    "CREATE TABLE IF NOT EXISTS users (",
    "id BIGSERIAL PRIMARY KEY,",
    "email VARCHAR(255) NOT NULL UNIQUE,",
    "password_hash VARCHAR(255) NOT NULL,",
    "name VARCHAR(255) NOT NULL DEFAULT '',",
    "created_at TIMESTAMPTZ NOT NULL DEFAULT NOW(),",
    "updated_at TIMESTAMPTZ NOT NULL DEFAULT NOW()",
    ");",
    "CREATE TABLE IF NOT EXISTS show_seats (",
    "id BIGSERIAL PRIMARY KEY,",
    "show_id BIGINT NOT NULL REFERENCES shows(id),",
    "seat_name VARCHAR(10) NOT NULL,",
    "status VARCHAR(50) NOT NULL DEFAULT 'AVAILABLE'",
    "CHECK (status IN ('AVAILABLE', 'LOCKED', 'SOLD')),",
    "locked_at TIMESTAMPTZ,",
    "user_id BIGINT REFERENCES users(id),",
    "created_at TIMESTAMPTZ NOT NULL DEFAULT NOW(),",
    "updated_at TIMESTAMPTZ NOT NULL DEFAULT NOW(),",
    "-- lock columns are populated exactly when the seat is held",
    "CONSTRAINT show_seats_lock_columns CHECK (",
    "(status = 'LOCKED' AND locked_at IS NOT NULL AND user_id IS NOT NULL)",
    "OR (status <> 'LOCKED' AND locked_at IS NULL AND user_id IS NULL)",
    "),",
    "UNIQUE (show_id, seat_name)",
    ");",
    "CREATE INDEX IF NOT EXISTS idx_show_seats_show_id ON show_seats(show_id);",
    "CREATE TABLE IF NOT EXISTS bookings (",
    "id BIGSERIAL PRIMARY KEY,",
    "user_id BIGINT NOT NULL REFERENCES users(id),",
    "show_id BIGINT NOT NULL REFERENCES shows(id),",
    "seat_id BIGINT NOT NULL REFERENCES show_seats(id),",
    "idempotency_key VARCHAR(255),",
    "created_at TIMESTAMPTZ NOT NULL DEFAULT NOW(),",
    "updated_at TIMESTAMPTZ NOT NULL DEFAULT NOW(),",
    "CONSTRAINT bookings_seat_id_key UNIQUE (seat_id)",
    ");",
    "CREATE INDEX IF NOT EXISTS idx_bookings_user_id ON bookings(user_id);",
    "CREATE UNIQUE INDEX IF NOT EXISTS bookings_user_idempotency_key",
    "ON bookings(user_id, idempotency_key)",
    "WHERE idempotency_key IS NOT NULL;"]

def script : Statement := ⟨" ".intercalate lines, []⟩

def before : List Statement :=
  ["SELECT current_database()",
    "SELECT pg_advisory_lock($1)",
    "CREATE TABLE IF NOT EXISTS _",
    "SELECT version FROM",
    "SELECT version, checksum FROM",
    "BEGIN"].map fun text => ⟨text, []⟩

def after : List Statement :=
  ["INSERT INTO _",
    "COMMIT",
    "UPDATE _",
    "SELECT current_database()",
    "SELECT pg_advisory_unlock($1)"].map fun text => ⟨text, []⟩

def takes (l : Line) (statements : List Statement) : Bool :=
  statements.all fun s => !l.refusals.any fun r => Line.startsWith s.text r.1

/-- Brings the tables up to date, and tells whether that worked. On record is the script alone; it
uses up no reply. -/
def update (l : Line) : Line × Bool :=
  if takes l before then
    ({ l with said := l.said ++ [script] }, takes l (script :: after))
  else (l, false)

end BoxOffice.Database.Schema
