import BoxOffice.Catalog.Movie
import BoxOffice.Database.Catalog

set_option autoImplicit false

/-!
# The cached catalog

The list of movies is read from a cache when the cache holds one, and from the database otherwise;
what the database gives is then put into the cache. The cache may fail or hold anything at all: that
costs a query and never changes the answer.
-/

namespace BoxOffice.Catalog

inductive CacheCommand where
  | get (key : String)
  | set (key : String) (seconds : Int) (value : String)
deriving DecidableEq

structure Cache where
  /-- What is kept under the one key of this library. -/
  movies : Option Octets
  getFails : Bool
  setFails : Bool
  seconds : Int
  /-- What has been said, the first command first. -/
  said : List CacheCommand

namespace Cache

def key : String := "catalog:movies"

def get (c : Cache) : Cache × Option (List Movie) :=
  ({ c with said := c.said ++ [.get key] },
    if c.getFails then none
    else do
      let octets ← c.movies
      let text ← octets.toText?
      (Movie.ofCached text).toOption)

def set (c : Cache) (movies : List Movie) : Cache :=
  let text := (Movie.listJson movies).write
  { c with
    said := c.said ++ [.set key c.seconds text]
    movies := if c.setFails then c.movies else some (Octets.ofText text) }

end Cache

def movies (c : Cache) (l : Database.Line) :
    Cache × Database.Line × Except StorageError (List Movie) :=
  let (c, cached) := c.get
  match cached with
  | some movies => (c, l, .ok movies)
  | none =>
    let (l, fetched) := l.movies
    match fetched with
    | .ok movies => (c.set movies, l, .ok movies)
    | .error e => (c, l, .error e)

end BoxOffice.Catalog
