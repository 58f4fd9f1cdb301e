import BoxOffice.Catalog.Cache
import BoxOffice.Proofs.IssuedTokens

set_option autoImplicit false

namespace BoxOffice

open Json (Reader)

theorem toOption_eq_some_iff {ε α : Type} {x : Except ε α} {a : α} :
    x.toOption = some a ↔ x = .ok a :=
  ⟨eq_ok_of_toOption, fun h => congrArg Except.toOption h⟩

namespace Json

theorem documents_map {α : Type} (write : α → Json) (values : List α) :
    documents (values.map write) = values.map fun a => (write a).document := by
  induction values with
  | nil => rfl
  | cons a rest ih => rw [List.map_cons, documents, ih, List.map_cons]

namespace Reader

variable {α : Type} {read : Reader α} {write : α → Json} {values : List α}

theorem text_document (s : String) : text (Json.text s).document = .ok s := rfl

theorem optional_document (hread : ∀ a, read (write a).document = .ok a)
    (hnull : ∀ a, (write a).document ≠ .null) (value : Option α) :
    optional read (Json.optional write value).document = .ok value := by
  cases value with
  | none => rfl
  | some a =>
    unfold optional Json.optional
    split
    · next heq => exact absurd heq (hnull a)
    · rw [hread]
      rfl

theorem items_map {document : α → Document} (h : ∀ a ∈ values, read (document a) = .ok a) :
    items read (values.map document) = .ok values := by
  induction values with
  | nil => rfl
  | cons a rest ih =>
    obtain ⟨ha, hrest⟩ := List.forall_mem_cons.1 h
    rw [List.map_cons, items, ha, ih hrest]
    rfl

theorem list_document (h : ∀ a ∈ values, read (write a).document = .ok a) :
    list read (Json.array (values.map write)).document = .ok values := by
  rw [document, documents_map, list, items_map h]
  rfl

end Reader

end Json

namespace Movie

/-- The numbers are as long as a field of theirs may be. -/
structure Fit (m : Movie) : Prop where
  id : Decimal.Bounds.signed64.Holds m.id
  minutes : Decimal.Bounds.signed32.Holds m.minutes

def members (m : Movie) : List (Option String × Json.Document) :=
  [(some "id", (Json.int m.id).document), (some "title", (Json.text m.title).document),
    (some "description", (Json.optional .text m.description).document),
    (some "duration_mins", (Json.int m.minutes).document),
    (some "rating", (Json.optional .text m.rating).document)]

def draft (m : Movie) : Draft :=
  ⟨some m.id, some m.title, some m.description, some m.minutes, some m.rating⟩

variable {m : Movie} {movies : List Movie}

theorem document_json (m : Movie) : m.json.document = .object m.members true := rfl

theorem document_listJson (movies : List Movie) :
    (listJson movies).document = .array (movies.map fun m => .object m.members true) true := by
  rw [listJson, Json.document, Json.documents_map]
  rfl

theorem movie_draft (m : Movie) : m.draft.movie = .ok m := rfl

theorem members_members (h : m.Fit) :
    Reader.members Draft.fields .blank m.members = .ok m.draft := by
  have hid := Reader.int_document h.id
  have hminutes := Reader.int_document h.minutes
  have hdescription := Reader.optional_document Reader.text_document nofun m.description
  have hrating := Reader.optional_document Reader.text_document nofun m.rating
  simp [members, draft, Reader.members, Draft.fields, Draft.blank, hid, Reader.text_document,
    hdescription, hminutes, hrating, bind, Except.bind]

theorem reader_json (h : m.Fit) : reader m.json.document = .ok m := by
  rw [reader, document_json, Reader.fields, members_members h]
  exact movie_draft m

theorem ofCached_write (h : ∀ m ∈ movies, m.Fit) :
    ofCached (listJson movies).write = .ok movies :=
  (Reader.ofOctets_write _ _).trans (Reader.list_document fun m hm => reader_json (h m hm))

end Movie

namespace Catalog

namespace Cache

variable {c : Cache} {found : List Movie}

/-- The cache answers, and what it holds is a text that reads as these movies. -/
def Gives (c : Cache) (movies : List Movie) : Prop :=
  c.getFails = false ∧
    ∃ text, c.movies = some (Octets.ofText text) ∧ Movie.ofCached text = .ok movies

theorem get_eq_some_iff : c.get.2 = some found ↔ c.Gives found := by
  unfold get Gives
  cases c.getFails with
  | true => simp
  | false =>
    simp only [Bool.false_eq_true, if_false, true_and, Option.bind_eq_some_iff, bind,
      Octets.toText?_eq_some_iff, toOption_eq_some_iff]
    constructor
    · rintro ⟨_, hmovies, text, rfl, hread⟩
      exact ⟨text, hmovies, hread⟩
    · rintro ⟨text, hmovies, hread⟩
      exact ⟨_, hmovies, text, rfl, hread⟩

theorem get_eq_none_iff : c.get.2 = none ↔ ¬∃ found, c.Gives found := by
  simp only [← get_eq_some_iff, Option.eq_none_iff_forall_ne_some, ne_eq, not_exists]

theorem Gives.eq {found' : List Movie} (h : c.Gives found) (h' : c.Gives found') :
    found = found' :=
  Option.some.inj ((get_eq_some_iff.2 h).symm.trans (get_eq_some_iff.2 h'))

theorem gives_set (h : ∀ m ∈ found, m.Fit) (hget : c.getFails = false)
    (hset : c.setFails = false) : (c.set found).Gives found := by
  refine ⟨hget, (Movie.listJson found).write, ?_, Movie.ofCached_write h⟩
  simp only [set, hset, Bool.false_eq_true, if_false]

theorem gives_set_of_fails {found' : List Movie} (hset : c.setFails = true) :
    (c.set found).Gives found' ↔ c.Gives found' := by
  simp only [Gives, set, hset, if_true]

end Cache

variable {c : Cache} {l : Database.Line} {found : List Movie} {e : StorageError}

theorem said_movies (l : Database.Line) :
    l.movies.1.said = l.said ++ [Database.moviesByTitle] := by
  unfold Database.Line.movies Database.Line.say
  dsimp only
  split
  · rfl
  · split
    · rfl
    · split <;> rfl

theorem said_movies_ne (l : Database.Line) : l.movies.1.said ≠ l.said := by
  simp [said_movies]

theorem movies_snd (c : Cache) (l : Database.Line) :
    (movies c l).2 = c.get.2.elim l.movies fun found => (l, .ok found) := by
  unfold movies
  obtain ⟨asked, _ | found⟩ := c.get
  · obtain ⟨l', e | found⟩ := l.movies <;> rfl
  · rfl

theorem said_eq_iff : (movies c l).2.1.said = l.said ↔ ∃ found, c.Gives found := by
  rw [movies_snd]
  constructor
  · intro h
    by_contra hnone
    rw [Cache.get_eq_none_iff.2 hnone] at h
    exact said_movies_ne l h
  · rintro ⟨found, hfound⟩
    rw [Cache.get_eq_some_iff.2 hfound]
    rfl

theorem movies_of_gives (h : c.Gives found) : movies c l = (c.get.1, l, .ok found) := by
  rw [movies]
  simp only [Cache.get_eq_some_iff.2 h]

theorem movies_of_ok (h : ¬∃ found, c.Gives found) (hl : l.movies.2 = .ok found) :
    movies c l = (c.get.1.set found, l.movies.1, .ok found) := by
  rw [movies]
  simp only [Cache.get_eq_none_iff.2 h]
  rw [hl]

theorem movies_of_error (h : ¬∃ found, c.Gives found) (hl : l.movies.2 = .error e) :
    movies c l = (c.get.1, l.movies.1, .error e) := by
  rw [movies]
  simp only [Cache.get_eq_none_iff.2 h]
  rw [hl]

/-- Whatever the movies are called and whichever of their fields are missing, the cached text is a
list of records with one member for each field, it reads as the movies that it was written for, and
so a later request is answered with them. -/
theorem cached_list_comes_back {list : List Movie} (h : ∀ m ∈ list, m.Fit) :
    Json.Document.ofOctets (Octets.ofText (Movie.listJson list).write) =
        (.array (list.map fun m => .object m.members true) true, true) ∧
      Movie.ofCached (Movie.listJson list).write = .ok list ∧
      ∀ (c : Cache) (l : Database.Line), c.getFails = false → c.setFails = false →
        (movies (c.set list) l).2 = (l, .ok list) := by
  refine ⟨?_, Movie.ofCached_write h, fun c l hget hset => ?_⟩
  · rw [Json.Document.ofOctets_write, Movie.document_listJson]
  · rw [movies_of_gives (Cache.gives_set h hget hset)]

/-- The least and the greatest numbers, a title that has to be escaped in every way, and fields that
are missing or empty. -/
theorem cached_list_comes_back_escaped :
    let list : List Movie :=
      [⟨-9223372036854775808, "\"\\/\n\x01\x7fé😀", none, 2147483647, some ""⟩,
        ⟨9223372036854775807, "", some "null", -2147483648, none⟩]
    Movie.ofCached (Movie.listJson list).write = .ok list := by
  intro list
  have hfit : ∀ m ∈ list, m.Fit := by
    intro m hm
    simp only [list, List.mem_cons, List.not_mem_nil, or_false] at hm
    obtain rfl | rfl := hm
    · exact ⟨by decide, by decide⟩
    · exact ⟨by decide, by decide⟩
  exact (cached_list_comes_back hfit).2.1

/-- One of many requests for the movies: whether what the cache held has expired by then, whether
the cache fails to take anything, and the database as it is then. -/
structure Request where
  expired : Bool
  setFails : Bool
  line : Database.Line

def Request.Fit (r : Request) : Prop := ∀ found, r.line.movies.2 = .ok found → ∀ m ∈ found, m.Fit

def Request.cache (r : Request) (c : Cache) : Cache :=
  { c with movies := if r.expired then none else c.movies, setFails := r.setFails }

structure Exchange where
  fetched : Option (Except StorageError (List Movie))
  answer : Except StorageError (List Movie)
deriving DecidableEq

def Request.serve (r : Request) (c : Cache) : Cache × Exchange :=
  let (c, l, answer) := movies (r.cache c) r.line
  (c, ⟨if l.said = r.line.said then none else some r.line.movies.2, answer⟩)

def serveAll (c : Cache) : List Request → List Exchange
  | [] => []
  | r :: rest => (r.serve c).2 :: serveAll (r.serve c).1 rest

def latest (past : List Exchange) : Option (List Movie) :=
  past.reverse.findSome? fun x => x.fetched.bind Except.toOption

variable {r : Request} {x : Exchange} {past : List Exchange}

theorem latest_concat (past : List Exchange) (x : Exchange) :
    latest (past ++ [x]) = (x.fetched.bind Except.toOption).or (latest past) := by
  unfold latest
  rw [List.reverse_append, List.reverse_singleton, List.singleton_append, List.findSome?_cons]
  cases x.fetched.bind Except.toOption <;> rfl

theorem serve_of_gives (h : (r.cache c).Gives found) :
    r.serve c = ((r.cache c).get.1, ⟨none, .ok found⟩) := by
  simp only [Request.serve, movies_of_gives h, if_true]

theorem serve_of_ok (h : ¬∃ found, (r.cache c).Gives found) (hl : r.line.movies.2 = .ok found) :
    r.serve c = ((r.cache c).get.1.set found, ⟨some (.ok found), .ok found⟩) := by
  simp only [Request.serve, movies_of_ok h hl, if_neg (said_movies_ne r.line), hl]

theorem serve_of_error (h : ¬∃ found, (r.cache c).Gives found)
    (hl : r.line.movies.2 = .error e) :
    r.serve c = ((r.cache c).get.1, ⟨some (.error e), .error e⟩) := by
  simp only [Request.serve, movies_of_error h hl, if_neg (said_movies_ne r.line), hl]

/-- The cache answers, and what it gives is what the database gave last. -/
structure Current (c : Cache) (past : List Exchange) : Prop where
  answers : c.getFails = false
  gives : ∀ found, c.Gives found → latest past = some found

theorem Current.cache (h : Current c past) (r : Request) : Current (r.cache c) past := by
  refine ⟨h.answers, fun found hgives => ?_⟩
  obtain ⟨hget, text, hmovies, hread⟩ := hgives
  cases hexpired : r.expired with
  | true => simp [Request.cache, hexpired] at hmovies
  | false =>
    have hkept : c.movies = some (Octets.ofText text) := by
      simpa [Request.cache, hexpired] using hmovies
    exact h.gives found ⟨hget, text, hkept, hread⟩

theorem Current.serve (h : Current c past) (hfit : r.Fit) :
    Current (r.serve c).1 (past ++ [(r.serve c).2]) ∧
      ∀ found, (r.serve c).2.answer = .ok found →
        latest (past ++ [(r.serve c).2]) = some found := by
  have hcache := h.cache r
  by_cases hgives : ∃ found, (r.cache c).Gives found
  · obtain ⟨found, hfound⟩ := hgives
    rw [serve_of_gives hfound, latest_concat]
    refine ⟨⟨hcache.answers, fun found' hfound' => ?_⟩, fun found' hanswer => ?_⟩
    · rw [latest_concat]
      exact hcache.gives found' hfound'
    · cases hanswer
      exact hcache.gives found hfound
  · cases hl : r.line.movies.2 with
    | ok found =>
      rw [serve_of_ok hgives hl, latest_concat]
      refine ⟨⟨hcache.answers, fun found' hfound' => ?_⟩, fun found' hanswer => ?_⟩
      · rw [latest_concat]
        -- A cache that fails to take the list still gives nothing at all.
        cases hset : (r.cache c).setFails with
        | true => exact absurd ⟨found', (Cache.gives_set_of_fails hset).1 hfound'⟩ hgives
        | false =>
          obtain rfl := hfound'.eq (Cache.gives_set (hfit found hl) hcache.answers hset)
          rfl
      · cases hanswer
        rfl
    | error e =>
      rw [serve_of_error hgives hl]
      exact ⟨⟨hcache.answers, fun found' hfound' => absurd ⟨found', hfound'⟩ hgives⟩,
        fun _ hanswer => nomatch hanswer⟩

theorem Current.serveAll {requests : List Request} (h : Current c past)
    (hfit : ∀ r ∈ requests, r.Fit) {before after : List Exchange}
    (hserve : serveAll c requests = before ++ x :: after) (hx : x.answer = .ok found) :
    latest (past ++ (before ++ [x])) = some found := by
  induction requests generalizing c past before with
  | nil => cases before <;> cases hserve
  | cons r rest ih =>
    obtain ⟨hfirst, hrest⟩ := List.forall_mem_cons.1 hfit
    obtain ⟨hnext, hanswer⟩ := h.serve hfirst
    cases before with
    | nil =>
      cases hserve
      exact hanswer found hx
    | cons y before =>
      obtain ⟨rfl, htail⟩ := List.cons.inj hserve
      have hlatest := ih hnext hrest htail
      rwa [List.append_assoc] at hlatest

/-- Whatever the cache holds and however it fails, the answer is the list that it gives, without a
question to the database, or else what the database answers; only a list that the database gave is
put into the cache, and whether that fails makes no difference. As long as the cache answers, and
unless it gives a list from the first, every list that is answered is the one that the database gave
last. -/
theorem cache_never_changes_answer (c : Cache) :
    (∀ l,
      (∀ found, c.Gives found →
        movies c l = ({ c with said := c.said ++ [.get Cache.key] }, l, .ok found)) ∧
      ((movies c l).2.1.said = l.said ↔ ∃ found, c.Gives found) ∧
      ((¬∃ found, c.Gives found) →
        (movies c l).2 = l.movies ∧
        (∀ e, l.movies.2 = .error e →
          (movies c l).1 = { c with said := c.said ++ [.get Cache.key] }) ∧
        ∀ found, l.movies.2 = .ok found →
          (movies c l).1 = Cache.set { c with said := c.said ++ [.get Cache.key] } found) ∧
      ∀ fails, (movies { c with setFails := fails } l).2 = (movies c l).2) ∧
    (c.getFails = false → (¬∃ found, c.Gives found) →
      ∀ requests : List Request, (∀ r ∈ requests, r.Fit) →
        ∀ before x after found, serveAll c requests = before ++ x :: after →
          x.answer = .ok found → latest (before ++ [x]) = some found) := by
  refine ⟨fun l => ⟨fun found h => movies_of_gives h, said_eq_iff, fun h => ⟨?_, ?_, ?_⟩,
    fun fails => ?_⟩, ?_⟩
  · rw [movies_snd, Cache.get_eq_none_iff.2 h]
    rfl
  · intro e he
    rw [movies_of_error h he]
    rfl
  · intro found hfound
    rw [movies_of_ok h hfound]
    rfl
  · rw [movies_snd, movies_snd]
    rfl
  · intro hget hnone requests hfit before x after found hserve hx
    have hcurrent : Current c [] := ⟨hget, fun found h => absurd ⟨found, h⟩ hnone⟩
    exact hcurrent.serveAll hfit hserve hx

/-- The first list is lost to the cache, which holds no list at all; the second stays in it when the
database is gone. -/
theorem cache_never_changes_answer_replaced :
    let row (id : Int) : Database.Row := [("id", .int id), ("title", .text "\"M\""),
      ("description", .null), ("duration_mins", .int 117), ("content_rating", .text "")]
    let movie (id : Int) : Movie := ⟨id, "\"M\"", none, 117, some ""⟩
    let requests : List Request := [⟨false, true, ⟨[.rows [row 1]], [], []⟩⟩,
      ⟨false, false, ⟨[.rows [row 2]], [], []⟩⟩, ⟨false, true, ⟨[.silence], [], []⟩⟩]
    let past : List Exchange := [⟨some (.ok [movie 1]), .ok [movie 1]⟩,
      ⟨some (.ok [movie 2]), .ok [movie 2]⟩]
    serveAll ⟨some [123, 255], false, false, 3600, []⟩ requests =
        past ++ ⟨none, .ok [movie 2]⟩ :: [] ∧
      latest (past ++ [⟨none, .ok [movie 2]⟩]) = some [movie 2] := by
  intro row movie requests past
  have hserve : serveAll ⟨some [123, 255], false, false, 3600, []⟩ requests =
      past ++ ⟨none, .ok [movie 2]⟩ :: [] := by
    decide +kernel
  have hnone : ¬∃ found, Cache.Gives ⟨some [123, 255], false, false, 3600, []⟩ found :=
    Cache.get_eq_none_iff.1 (by decide +kernel)
  have hmovie : ∀ id, Decimal.Bounds.signed64.Holds id → (movie id).Fit := fun _ hid =>
    ⟨hid, (by decide : Decimal.Bounds.signed32.Holds 117)⟩
  have hfit : ∀ r ∈ requests, r.Fit := by
    intro r hr found hfound m hm
    simp only [requests, List.mem_cons, List.not_mem_nil, or_false] at hr
    obtain rfl | rfl | rfl := hr
    · cases hfound
      obtain rfl := List.mem_singleton.1 hm
      exact hmovie 1 (by decide)
    · cases hfound
      obtain rfl := List.mem_singleton.1 hm
      exact hmovie 2 (by decide)
    · cases hfound
  exact ⟨hserve, (cache_never_changes_answer _).2 rfl hnone requests hfit past _ [] _ hserve rfl⟩

end Catalog

end BoxOffice
