import BoxOffice.Json.Reader
import BoxOffice.Json.Value

set_option autoImplicit false

namespace BoxOffice

structure Movie where
  id : Int
  title : String
  description : Option String
  minutes : Int
  rating : Option String
deriving DecidableEq

namespace Movie

def json (m : Movie) : Json :=
  .object [("id", .int m.id), ("title", .text m.title),
    ("description", .optional .text m.description), ("duration_mins", .int m.minutes),
    ("rating", .optional .text m.rating)]

def listJson (movies : List Movie) : Json := .array (movies.map json)

open Json

structure Draft where
  id : Option Int
  title : Option String
  description : Option (Option String)
  minutes : Option Int
  rating : Option (Option String)

namespace Draft

def blank : Draft := ⟨none, none, none, none, none⟩

def fields : List (Reader.Field Draft) :=
  [⟨"id", (·.id.isSome), fun d v => do
      let n ← Reader.int .signed64 v
      .ok { d with id := some n }⟩,
    ⟨"title", (·.title.isSome), fun d v => do
      let s ← Reader.text v
      .ok { d with title := some s }⟩,
    ⟨"description", (·.description.isSome), fun d v => do
      let s ← Reader.optional Reader.text v
      .ok { d with description := some s }⟩,
    ⟨"duration_mins", (·.minutes.isSome), fun d v => do
      let n ← Reader.int .signed32 v
      .ok { d with minutes := some n }⟩,
    ⟨"rating", (·.rating.isSome), fun d v => do
      let s ← Reader.optional Reader.text v
      .ok { d with rating := some s }⟩]

def movie (d : Draft) : Except ReadError Movie := do
  let id ← Reader.required d.id
  let title ← Reader.required d.title
  let minutes ← Reader.required d.minutes
  .ok ⟨id, title, d.description.join, minutes, d.rating.join⟩

end Draft

def reader : Reader Movie := fun v => do
  let d ← Reader.fields Draft.fields .blank v
  d.movie

def ofCached (text : String) : Except ReadError (List Movie) :=
  Reader.ofText (Reader.list reader) text

end Movie

end BoxOffice
