import BoxOffice.Proofs.CachedCatalog
import BoxOffice.Proofs.Discipline
import BoxOffice.Proofs.ServerFailures

set_option autoImplicit false

namespace BoxOffice

open Http (Response)
open Engine (Order Stage Outcome Course Deed firstError?)

namespace StorageError

/-- What may pass: no connection, a broken one, or one of four state codes. -/
inductive Passing : StorageError → Prop
  | poolTimedOut : Passing .poolTimedOut
  | poolClosed : Passing .poolClosed
  | io (message : String) : Passing (.io message)
  | database (message : String) {code : String} (constraint : Option String)
      (hcode : code ∈ ["55P03", "40001", "40P01", "57014"]) :
      Passing (.database message (some code) false constraint)

variable {e : StorageError}

theorem isPassing_iff : e.isPassing = true ↔ e.Passing := by
  constructor
  · intro h
    cases e with
    | poolTimedOut => exact .poolTimedOut
    | poolClosed => exact .poolClosed
    | io message => exact .io message
    | database message code unique constraint =>
      obtain ⟨hunique, hcode⟩ := Bool.and_eq_true_iff.1 h
      cases unique with
      | true => cases hunique
      | false =>
        cases code with
        | none => cases hcode
        | some code => exact .database message constraint (List.contains_iff_mem.1 hcode)
    | _ => cases h
  · rintro (_ | _ | message | ⟨message, constraint, hcode⟩)
    · rfl
    · rfl
    · rfl
    · exact List.contains_iff_mem.2 hcode

theorem status_ofStorage_of_passing (h : e.Passing) :
    (ApiError.booking (.ofStorage e)).status = 503 := by
  have hrow : e ≠ .rowNotFound := by rintro rfl; cases h
  rw [status_ofStorage, if_neg hrow, if_pos (isPassing_iff.2 h)]

theorem kind_ofStorage_iff : (BookingError.ofStorage e).kind = .transient ↔ e.Passing := by
  have hretriable := (ApiError.status_booking (.ofStorage e)).1
  rw [BookingError.isRetriable, decide_eq_true_eq] at hretriable
  rw [← hretriable, status_ofStorage, ← isPassing_iff]
  constructor
  · intro h
    by_contra hpassing
    rw [if_neg hpassing] at h
    split at h <;> cases h
  · exact fun h => (status_ofStorage e).symm.trans (status_ofStorage_of_passing (isPassing_iff.1 h))

end StorageError

namespace Engine

variable {length : Span} {order : Order} {stage : Stage} {deeds : List Deed} {outcome : Outcome}
variable {error : BookingError}

theorem refuse_of_transient (order : Order) (h : error.kind = .transient) :
    order.refuse error = .finished (.refused error) := by
  have hother : ¬(error = .keyTaken ∨ error = .notLocked) := by rintro (rfl | rfl) <;> cases h
  unfold Order.refuse
  split
  · rw [if_neg hother]
  · rfl

/-- Whatever is replied from here on, the order is refused for the time being. -/
inductive Stage.PutOff : Stage → Prop
  | withdrawing {tx : TxId} {error : BookingError} (h : error.kind = .transient) :
      PutOff (.withdrawing tx error)
  | undoing {tx : TxId} {error : BookingError} (h : error.kind = .transient) :
      PutOff (.undoing tx error)
  | givingUp {tx : TxId} : PutOff (.givingUp tx)
  | finished {error : BookingError} (h : error.kind = .transient) :
      PutOff (.finished (.refused error))

theorem Stage.PutOff.refuse (h : error.kind = .transient) : (order.refuse error).PutOff := by
  rw [refuse_of_transient order h]
  exact .finished h

theorem Stage.PutOff.refused (h : stage.PutOff)
    (hcourse : Course length order stage deeds (.answered outcome)) :
    ∃ error, outcome = .refused error ∧ error.kind = .transient := by
  generalize hending : Ending.answered outcome = ending at hcourse
  induction hcourse with
  | answered hm =>
    cases hending
    cases h with
    | finished herror =>
      cases hm
      exact ⟨_, rfl, herror⟩
    | _ => cases hm
  | replied hm reply _ ih =>
    refine ih ?_ hending
    cases h with
    | withdrawing herror | undoing herror =>
      cases hm
      exact .refuse herror
    | givingUp =>
      cases hm
      exact .finished rfl
    | finished => cases hm
  | expired hm hw _ ih =>
    refine ih ?_ hending
    cases h with
    | withdrawing => exact .givingUp
    | _ => cases hw
  | abandoned => cases hending

def Stage.IsSmooth : Stage → Bool
  | withdrawing _ _ | undoing _ _ | givingUp _ | lookAgain _ _ => false
  | _ => true

theorem isSmooth_first (order : Order) : order.first.IsSmooth = true := by
  unfold Order.first
  split <;> rfl

theorem Stage.putOff_or_isSmooth {request : Request} {next : request.Reply → Stage}
    (hsmooth : stage.IsSmooth = true) (hm : order.move length stage = .ask request next)
    (reply : request.Reply) (h : error.kind = .transient)
    (herror : firstError? (.made request reply ::
      (order.judgement length stage request reply ++ deeds)) = some error) :
    (next reply).PutOff ∨ (next reply).IsSmooth = true ∧ firstError? deeds = some error := by
  rw [firstError?_cons, firstError?_append] at herror
  cases stage with
  | finished => cases hm
  | withdrawing | undoing | givingUp | lookAgain => cases hsmooth
  | deciding tx seat =>
    cases hm
    change (none.or ((firstError? [.judged (order.admits length seat reply)]).or
      (firstError? deeds))) = some error at herror
    cases hadmits : order.admits length seat reply with
    | ok _ =>
      rw [hadmits] at herror
      simp only [hadmits]
      exact .inr ⟨rfl, herror⟩
    | error e =>
      rw [hadmits] at herror
      simp only [hadmits]
      cases herror
      exact .inl (.undoing h)
  | lookUp key =>
    cases hm
    cases reply with
    | ok found =>
      refine .inr ⟨?_, herror⟩
      cases found <;> rfl
    | error e =>
      cases herror
      exact .inl (.finished h)
  | opening =>
    cases hm
    cases reply with
    | ok tx => exact .inr ⟨rfl, herror⟩
    | error e =>
      cases herror
      exact .inl (.refuse h)
  | fetching tx =>
    cases hm
    cases reply with
    | ok seat => exact .inr ⟨rfl, herror⟩
    | error e =>
      cases herror
      exact .inl (.withdrawing h)
  | writing tx seatId now =>
    cases hm
    cases reply with
    | ok _ =>
      refine .inr ⟨?_, herror⟩
      cases order <;> rfl
    | error e =>
      cases herror
      exact .inl (.undoing h)
  | recording tx sale =>
    cases hm
    cases reply with
    | ok booking => exact .inr ⟨rfl, herror⟩
    | error e =>
      cases herror
      exact .inl (.undoing h)
  | committing tx gain =>
    cases hm
    cases reply with
    | ok _ => exact .inr ⟨rfl, herror⟩
    | error e =>
      cases herror
      exact .inl (.refuse h)

/-- If the first thing that fails may pass, that is what the order is refused for, unless the wait
for the row has been up before. -/
theorem refused_of_firstError (hsmooth : stage.IsSmooth = true)
    (hcourse : Course length order stage deeds (.answered outcome)) (h : error.kind = .transient)
    (herror : firstError? deeds = some error) :
    ∃ error, outcome = .refused error ∧ error.kind = .transient := by
  generalize hending : Ending.answered outcome = ending at hcourse
  induction hcourse with
  | answered hm => cases herror
  | replied hm reply hrest ih =>
    rcases Stage.putOff_or_isSmooth hsmooth hm reply h herror with hput | ⟨hnext, herror⟩
    · exact hput.refused (hending ▸ hrest)
    · exact ih hnext herror hending
  | @expired stage request next deeds ending hm hw hrest ih =>
    have hput : stage.expire.PutOff := by
      cases stage with
      | opening => exact .finished rfl
      | fetching tx => exact .givingUp
      | withdrawing => cases hsmooth
      | _ => cases hw
    exact hput.refused (hending ▸ hrest)
  | abandoned => cases hending

end Engine

theorem Database.Line.say_of_replies {l : Line} {s : Statement} {reply : Reply} {rest : List Reply}
    (hrefusals : l.refusals = []) (hsteers : steering.any (startsWith s.text) = false)
    (hreplies : l.replies = reply :: rest) : (l.say s).2 = reply.answer := by
  unfold say
  dsimp only
  rw [hrefusals, hsteers, hreplies]
  rfl

namespace Office

open Database (readAll seatRow)

variable {o : Office} {e : StorageError} {action : Api.Action}

inductive CatalogFails (o : Office) (e : StorageError) : Api.Action → Prop
  | login {email password : String} (h : (o.database.line.user? email).2 = .error e) :
      CatalogFails o e (.login email password)
  | movies (hcache : o.cache.get.2 = none) (h : o.database.line.movies.2 = .error e) :
      CatalogFails o e .movies
  | movie {movieId : Int} (h : (o.database.line.movie? movieId).2 = .error e) :
      CatalogFails o e (.shows movieId)
  | screenings {movieId : Int} {line : Database.Line} {movie : Movie}
      (hmovie : o.database.line.movie? movieId = (line, .ok (some movie)))
      (h : (line.shows movieId).2 = .error e) : CatalogFails o e (.shows movieId)

def SeatMapFails (o : Office) (e : StorageError) (showId : Int) : Prop :=
  o.keeping = .database ∧
    (o.database.line.say (Database.seatsOfShow showId)).2.bind (readAll seatRow) = .error e

theorem CatalogFails.act (h : CatalogFails o e action) :
    (o.act action).2 = .answered (.response (ApiError.database e).response) := by
  cases h with
  | @login email password h =>
    simp only [Office.act, Api.Login.run, h]
    rfl
  | movies hcache h =>
    have hmovies : (Catalog.movies o.cache o.database.line).2.2 = .error e := by
      rw [Catalog.movies_snd, hcache]
      exact h
    simp only [Office.act, hmovies]
    rfl
  | @movie movieId h =>
    have hshows : (Office.shows o.database.line movieId).2 = .error (.database e) := by
      have hpair : o.database.line.movie? movieId = (_, .error e) := Prod.ext rfl h
      unfold Office.shows
      rw [hpair]
    simp only [Office.act, hshows]
    rfl
  | @screenings movieId line movie hmovie h =>
    have hshows : (Office.shows o.database.line movieId).2 = .error (.database e) := by
      have hpair : line.shows movieId = (_, .error e) := Prod.ext rfl h
      unfold Office.shows
      rw [hmovie]
      dsimp only
      rw [hpair]
    simp only [Office.act, hshows]
    rfl

theorem SeatMapFails.act {showId : Int} (h : SeatMapFails o e showId) :
    (o.act (.seats showId)).2 =
      .answered (.response (ApiError.booking (.ofStorage e)).response) := by
  obtain ⟨hkeeping, hquery⟩ := h
  have hlisting : (o.database.listing showId).2 = .error (.ofStorage e) := by
    unfold Database.listing Database.say
    dsimp only
    rw [hquery]
    rfl
  have hmap : (o.seatMap showId).2 = .error (.ofStorage e) := by
    simp only [seatMap, seatsOfShow, hkeeping, hlisting]
    rfl
  simp only [Office.act, hmap]
  rfl

end Office

/-- A failure that an engine calls transient is answered as one wherever it comes from a query for
seats or bookings: as an error of an engine, on the seat map, and as the first thing that fails in
an order, whatever is replied to it afterwards. Where a user or the catalog was asked for, the very
same failure is answered like any other. -/
theorem passing_failures_by_route {e : StorageError}
    (h : (BookingError.ofStorage e).kind = .transient) :
    e.Passing ∧
      ((ApiError.booking (.ofStorage e)).response = Api.tryAgain ∧
        (∀ (o : Office) (showId : Int), o.SeatMapFails e showId →
          (o.act (.seats showId)).2 = .answered (.response Api.tryAgain)) ∧
        ∀ length order deeds outcome,
          Course length order order.first deeds (.answered outcome) →
            firstError? deeds = some (.ofStorage e) → Api.outcomeResponse outcome = Api.tryAgain) ∧
      (ApiError.database e).response = Api.failed ∧
      ∀ (o : Office) (action : Api.Action), o.CatalogFails e action →
        (o.act action).2 = .answered (.response Api.failed) := by
  have hpassing := StorageError.kind_ofStorage_iff.1 h
  have hbooking : (ApiError.booking (.ofStorage e)).response = Api.tryAgain :=
    ApiError.response_of_unavailable (StorageError.status_ofStorage_of_passing hpassing)
  have hdatabase : (ApiError.database e).response = Api.failed := ApiError.response_of_failed rfl
  refine ⟨hpassing, ⟨hbooking, fun o showId hfails => ?_,
    fun length order deeds outcome hcourse herror => ?_⟩, hdatabase, fun o action hfails => ?_⟩
  · rw [hfails.act, hbooking]
  · obtain ⟨error, rfl, htransient⟩ :=
      Engine.refused_of_firstError (Engine.isSmooth_first order) hcourse h herror
    exact ApiError.response_of_unavailable ((ApiError.status_booking error).1.2
      (decide_eq_true htransient))
  · rw [hfails.act, hdatabase]

/-- A database that cannot serialize a query, asked for the movies and for the seats of a show. -/
theorem passing_failures_by_route_serialization :
    let failure : Database.Failure := ⟨"could not serialize access", "40001", none⟩
    let plan : Office.Plan := { Office.Plan.oneSeat 600 with keeping := .database }
    (BookingError.ofStorage failure.error).kind = .transient ∧
      ∃ o, plan.office? ⟨[.failure failure], [], []⟩ ⟨none, false, false, 3600, []⟩ = some o ∧
        (o.act .movies).2 = .answered (.response Api.failed) ∧
        (o.act (.seats 1)).2 = .answered (.response Api.tryAgain) := by
  intro failure plan
  have hkind : (BookingError.ofStorage failure.error).kind = .transient := rfl
  obtain ⟨-, ⟨-, hseats, -⟩, -, hcatalog⟩ := passing_failures_by_route hkind
  let line : Database.Line := ⟨[.failure failure], [], []⟩
  obtain ⟨o, hoffice⟩ : ∃ o, plan.office? line ⟨none, false, false, 3600, []⟩ = some o := ⟨_, rfl⟩
  have hline : o.database.line = line := by cases hoffice; rfl
  have hcache : o.cache.get.2 = none := by cases hoffice; rfl
  have hkeeping : o.keeping = .database := by cases hoffice; rfl
  have hmovies : line.movies.2 = .error failure.error :=
    congrArg (·.bind (Database.readAll Database.movie))
      (line.say_of_replies (s := Database.moviesByTitle) rfl (by decide +kernel) rfl)
  have hmap : (line.say (Database.seatsOfShow 1)).2.bind (Database.readAll Database.seatRow) =
      .error failure.error :=
    congrArg (·.bind (Database.readAll Database.seatRow))
      (line.say_of_replies (s := Database.seatsOfShow 1) rfl (by decide +kernel) rfl)
  rw [← hline] at hmovies hmap
  exact ⟨hkind, o, hoffice, hcatalog o _ (.movies hcache hmovies), hseats o 1 ⟨hkeeping, hmap⟩⟩

/-- Nobody who asks for the catalog is told to try again when the database has no connection to
give. -/
theorem catalog_is_never_put_off :
    (BookingError.ofStorage .poolTimedOut).kind = .transient ∧
      (ApiError.booking (.ofStorage .poolTimedOut)).response.status = 503 ∧
      (ApiError.database .poolTimedOut).response.status = 500 ∧
      ¬∀ e : StorageError, (BookingError.ofStorage e).kind = .transient →
        (ApiError.booking (.ofStorage e)).response = Api.tryAgain ∧
          (ApiError.database e).response = Api.tryAgain := by
  refine ⟨rfl, rfl, rfl, fun h => ?_⟩
  have hstatus : 500 = 503 := congrArg Response.status (h .poolTimedOut rfl).2
  exact absurd hstatus (by decide)

end BoxOffice
