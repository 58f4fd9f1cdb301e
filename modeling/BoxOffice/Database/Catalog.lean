import BoxOffice.Catalog.Movie
import BoxOffice.Catalog.Show
import BoxOffice.Database.Column
import BoxOffice.User

set_option autoImplicit false

namespace BoxOffice.Database

def moviesByTitle : Statement :=
  ⟨"SELECT id, title, description, duration_mins, content_rating FROM movies ORDER BY title", []⟩

def movieOfId (id : Int) : Statement :=
  ⟨"SELECT id, title, description, duration_mins, content_rating FROM movies WHERE id = $1",
    [.int id]⟩

def showsOfMovie (movieId : Int) : Statement :=
  ⟨"SELECT s.id, s.movie_id, s.theatre_id, t.name AS theatre_name, "
    ++ "t.location AS theatre_location, s.start_time FROM shows s "
    ++ "JOIN theatres t ON t.id = s.theatre_id WHERE s.movie_id = $1 ORDER BY s.start_time",
    [.int movieId]⟩

def userOfEmail (email : String) : Statement :=
  ⟨"SELECT id, email, password_hash, name, created_at FROM users WHERE email = $1",
    [.text email]⟩

def movie (row : Row) : Except StorageError Movie := do
  let id ← Column.int "id" row
  let title ← Column.text "title" row
  let description ← Column.optional Column.text "description" row
  let minutes ← Column.int "duration_mins" row
  let rating ← Column.optional Column.text "content_rating" row
  .ok { id, title, description, minutes, rating }

def screening (row : Row) : Except StorageError Show := do
  let id ← Column.int "id" row
  let movieId ← Column.int "movie_id" row
  let theatreId ← Column.int "theatre_id" row
  let theatreName ← Column.text "theatre_name" row
  let theatreLocation ← Column.optional Column.text "theatre_location" row
  let startTime ← Column.time "start_time" row
  .ok { id, movieId, theatreId, theatreName, theatreLocation, startTime }

def user (row : Row) : Except StorageError User := do
  let id ← Column.int "id" row
  let email ← Column.text "email" row
  let passwordHash ← Column.text "password_hash" row
  let name ← Column.text "name" row
  let createdAt ← Column.time "created_at" row
  .ok { id, email, passwordHash, name, createdAt }

namespace Line

def movies (l : Line) : Line × Except StorageError (List Movie) :=
  let (l, answer) := l.say moviesByTitle
  (l, answer.bind (readAll movie))

def movie? (l : Line) (id : Int) : Line × Except StorageError (Option Movie) :=
  let (l, answer) := l.say (movieOfId id)
  (l, answer.bind (readFirst movie))

def shows (l : Line) (movieId : Int) : Line × Except StorageError (List Show) :=
  let (l, answer) := l.say (showsOfMovie movieId)
  (l, answer.bind (readAll screening))

def user? (l : Line) (email : String) : Line × Except StorageError (Option User) :=
  let (l, answer) := l.say (userOfEmail email)
  (l, answer.bind (readFirst user))

end Line

end BoxOffice.Database
