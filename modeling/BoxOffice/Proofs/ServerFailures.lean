import BoxOffice.Proofs.GuardedRequests
import BoxOffice.Proofs.JsonTexts

set_option autoImplicit false

/-!
# What a client learns when the server fails

A client reads about its own mistakes and about conflicts in full. For a failure of the server there
is one response with each status, whatever the storage said and wherever a handler broke off, and a
request that took too long is answered without any text. So a client learns whether another try may
help, and nothing else.
-/

namespace BoxOffice

open Http (Response)
open Json (Document)

def Http.Body.octets : Http.Body → Octets
  | .text plain => Octets.ofText plain
  | .json value => Octets.ofText value.write

/-- How the handling of a request goes wrong: it fails and says why, or it breaks off with a detail
that is a text or something else. -/
inductive Mishap where
  | failure (e : ApiError)
  | breakdown (detail : Option String)

namespace Mishap

def error : Mishap → ApiError
  | failure e => e
  | breakdown detail => .brokenOff detail

def response (m : Mishap) : Response := m.error.response

end Mishap

namespace Api

def tryAgain : Response :=
  ⟨503, .json (.object [("message", .text "Service temporarily unavailable, please retry"),
    ("statusCode", .int 503), ("success", .bool false)])⟩

def failed : Response :=
  ⟨500, .json (.object [("message", .text "Internal server error"), ("statusCode", .int 500),
    ("success", .bool false)])⟩

end Api

namespace ApiError

variable {e e' : ApiError}

theorem status_booking (cause : BookingError) :
    ((booking cause).status = 503 ↔ cause.isRetriable = true) ∧
      ((booking cause).status = 404 ↔ cause.kind = .notFound) ∧
      ((booking cause).status = 409 ↔ cause.kind = .conflict) := by
  cases hkind : cause.kind <;> simp [status, BookingError.isRetriable, hkind]

theorem status_of_server (h : 500 ≤ e.status) : e.status = 500 ∨ e.status = 503 := by
  cases e with
  | badRequest message => exact absurd h (by decide : ¬500 ≤ 400)
  | unauthorized message => exact absurd h (by decide : ¬500 ≤ 401)
  | booking cause =>
    cases hkind : cause.kind <;> simp [status, hkind] at h ⊢
  | database cause => exact .inl rfl
  | internal reason => exact .inl rfl

theorem response_of_unavailable (h : e.status = 503) : e.response = Api.tryAgain := by
  simp only [response, body, shown, h, if_true]
  rfl

theorem response_of_failed (h : e.status = 500) : e.response = Api.failed := by
  simp only [response, body, shown, h]
  rfl

theorem response_eq_of_status_eq (h : 500 ≤ e.status) (heq : e.status = e'.status) :
    e.response = e'.response := by
  rcases status_of_server h with hfailed | hunavailable
  · rw [response_of_failed hfailed, response_of_failed (heq ▸ hfailed)]
  · rw [response_of_unavailable hunavailable, response_of_unavailable (heq ▸ hunavailable)]

theorem ofOctets_response (e : ApiError) : Document.ofOctets e.response.body.octets =
    (.object [(some "message", .text (.legible e.shown)),
      (some "statusCode", .number (toString e.response.status).toList),
      (some "success", .bool false)] true, true) :=
  Document.ofOctets_write e.body

end ApiError

namespace StorageError

/-- The failure without any of its texts. What is left is its kind, the state code and whether a
unique index was violated. -/
def mute : StorageError → StorageError
  | io _ => io ""
  | protocol _ => protocol ""
  | columnNotFound _ => columnNotFound ""
  | columnNull _ => columnNull ""
  | database _ code unique _ => database "" code unique none
  | other _ => other ""
  | e => e

variable {e : StorageError}

theorem isPassing_mute (e : StorageError) : e.mute.isPassing = e.isPassing := by
  cases e <;> rfl

theorem mute_eq_rowNotFound_iff : e.mute = .rowNotFound ↔ e = .rowNotFound := by
  cases e <;> simp [mute]

theorem status_ofStorage (e : StorageError) : (ApiError.booking (.ofStorage e)).status =
    if e = .rowNotFound then 404 else if e.isPassing = true then 503 else 500 := by
  cases e with
  | database message code unique constraint =>
    cases unique with
    | true => rfl
    | false =>
      have hrow : database message code false constraint ≠ .rowNotFound := nofun
      rw [if_neg hrow]
      unfold BookingError.ofStorage
      dsimp only
      split <;> rfl
  | _ => rfl

theorem response_ofStorage (e : StorageError) : (ApiError.booking (.ofStorage e)).response =
    if e = .rowNotFound then (ApiError.booking (.notFound "record")).response
    else if e.isPassing = true then Api.tryAgain else Api.failed := by
  have hstatus := status_ofStorage e
  split at hstatus
  · next hrow =>
    rw [hrow]
    rfl
  · next hrow =>
    rw [if_neg hrow]
    split at hstatus
    · next hpassing => rw [if_pos hpassing, ApiError.response_of_unavailable hstatus]
    · next hpassing => rw [if_neg hpassing, ApiError.response_of_failed hstatus]

theorem response_mute (e : StorageError) : (ApiError.booking (.ofStorage e.mute)).response =
    (ApiError.booking (.ofStorage e)).response := by
  rw [response_ofStorage, response_ofStorage, isPassing_mute]
  exact if_congr mute_eq_rowNotFound_iff rfl rfl

end StorageError

namespace Api

variable {response : Response}

/-- When the server is at fault, this is one of the responses that say so. -/
def Discreet (response : Response) : Prop :=
  500 ≤ response.status → response = tryAgain ∨ response = failed ∨ response = overdue

theorem discreet_of_lt (h : response.status < 500) : Discreet response :=
  fun hserver => absurd hserver (Nat.not_le.2 h)

theorem discreet_error (e : ApiError) : Discreet e.response := fun h => by
  rcases ApiError.status_of_server h with hfailed | hunavailable
  · exact .inr (.inl (ApiError.response_of_failed hfailed))
  · exact .inl (ApiError.response_of_unavailable hunavailable)

theorem discreet_success (message : String) (values : Json) : Discreet (success message values) :=
  discreet_of_lt (by decide : 200 < 500)

theorem discreet_outcome (outcome : Engine.Outcome) : Discreet (outcomeResponse outcome) := by
  cases outcome with
  | done receipt => exact discreet_success _ _
  | refused e => exact discreet_error _
  | beyondCalendar => exact discreet_error _

theorem discreet_listed (message : String) (found : Except ApiError Json) :
    Discreet (Office.listed message found) := by
  cases found with
  | ok values => exact discreet_success _ _
  | error e => exact discreet_error e

theorem blamesClient_login (r : Http.Request) : BlamesClient (readLogin r) :=
  (blamesClient_jsonBody _ r).bind fun _ => (blamesClient_complain _).bind fun _ =>
    blamesClient_ok _

theorem blamesClient_ofRequest (secret : Octets) (now : Int) (r : Http.Request) (route : Route) :
    BlamesClient (Action.ofRequest secret now r route) := by
  cases route with
  | login => exact blamesClient_login r
  | movies => exact blamesClient_ok _
  | shows segment | seats segment =>
    exact (blamesClient_pathId segment).bind fun _ => (blamesClient_positive _ _).bind fun _ =>
      blamesClient_ok _
  | hold segment => exact Route.IsGuarded.blamesClient (.inr ⟨segment, rfl⟩)
  | book => exact Route.IsGuarded.blamesClient (.inl rfl)

theorem blamesClient_route (r : Http.Request) : BlamesClient (Route.ofRequest r) := by
  unfold Route.ofRequest
  split
  · exact blamesClient_error (by decide : 400 ≤ 404 ∧ 404 < 500)
  · split
    · exact blamesClient_ok _
    · exact blamesClient_error (by decide : 400 ≤ 405 ∧ 405 < 500)

end Api

def Progress.Discreet (progress : Progress) : Prop :=
  ∀ response, progress = .answered (.response response) → Api.Discreet response

namespace Office

variable {o : Office} {response : Response}

theorem discreet_response (h : Api.Discreet response) :
    (Progress.answered (.response response)).Discreet := fun _ he => by
  cases he
  exact h

theorem discreet_answer (t : Task) (outcome : Engine.Outcome) :
    (Progress.answered (t.answer outcome)).Discreet := by
  unfold Task.answer
  cases t.limit with
  | none => exact fun _ he => by cases he
  | some limit => exact discreet_response (Api.discreet_outcome outcome)

theorem discreet_poll (o : Office) (t : Task) : (o.poll t).2.Discreet := by
  unfold poll
  split
  · exact discreet_response fun _ => .inr (.inr rfl)
  · split
    · exact discreet_answer t _
    · exact fun _ he => by cases he

theorem discreet_act (o : Office) (action : Api.Action) : (o.act action).2.Discreet := by
  cases action with
  | order order => exact discreet_poll o _
  | _ => exact discreet_response (Api.discreet_listed _ _)

/-- What a client is sent when the server is at fault, without its body if it asked for none. -/
def Veils (r : Http.Request) (response : Response) : Prop :=
  ∃ fixed, (fixed = Api.tryAgain ∨ fixed = Api.failed ∨ fixed = Api.overdue) ∧
    (response = fixed ∨ r.method = "HEAD" ∧ response = fixed.withoutBody)

theorem veils_of_discreet {r : Http.Request} (h : Api.Discreet response)
    (hserver : 500 ≤ response.status) : Veils r response := ⟨response, h hserver, .inl rfl⟩

theorem status_withoutBody (response : Response) :
    response.withoutBody.status = response.status := by
  unfold Response.withoutBody
  split <;> rfl

theorem veils_forMethod {r : Http.Request} {progress : Progress} (h : progress.Discreet)
    (hanswer : progress.forMethod r.method = .answered (.response response))
    (hserver : 500 ≤ response.status) : Veils r response := by
  cases progress with
  | waiting t => cases hanswer
  | answered answer =>
    cases answer with
    | outcome outcome => cases hanswer
    | response whole =>
      obtain rfl : (if r.method = "HEAD" then whole.withoutBody else whole) = response :=
        Answer.response.inj (Progress.answered.inj hanswer)
      by_cases hhead : r.method = "HEAD"
      · rw [if_pos hhead] at hserver ⊢
        rw [status_withoutBody] at hserver
        exact ⟨whole, h whole rfl hserver, .inr ⟨hhead, rfl⟩⟩
      · rw [if_neg hhead] at hserver ⊢
        exact veils_of_discreet (h whole rfl) hserver

theorem veils_handle {r : Http.Request}
    (h : (o.handle r).2 = .answered (.response response)) (hserver : 500 ≤ response.status) :
    Veils r response := by
  unfold handle at h
  split at h
  · cases h
    exact absurd hserver (by decide : ¬500 ≤ 200)
  · split at h
    · cases h
      exact ⟨_, .inr (.inr rfl), .inl rfl⟩
    · dsimp only at h
      split at h
      · next action haction => exact veils_forMethod (discreet_act o action) h hserver
      · next refusal haction =>
        have hblames := (Api.blamesClient_route r).bind fun route =>
          Api.blamesClient_ofRequest o.rules.keys.secret o.wallClock.seconds r route
        have hlow := (hblames refusal haction).2
        exact veils_forMethod (discreet_response (Api.discreet_of_lt hlow)) h hserver

theorem veils_call {r : Http.Request} (h : (o.call (.http r)).2 = .response response)
    (hserver : 500 ≤ response.status) : Veils r response := by
  unfold call start at h
  dsimp only at h
  split at h
  · next o' answer hstart =>
    obtain rfl : answer = .response response := h
    exact veils_handle (congrArg Prod.snd hstart) hserver
  · next o' t hstart =>
    split at h
    · next o'' answer hpoll =>
      obtain rfl : answer = .response response := h
      exact veils_of_discreet (discreet_poll _ t _ (congrArg Prod.snd hpoll)) hserver
    · next o'' later hpoll =>
      exact veils_of_discreet (discreet_answer later _ _ (congrArg Progress.answered h)) hserver

end Office

/-- Whatever goes wrong, what is sent is an object with a text, the status and no success. Among the
errors of an engine, 503 is for those after which another try may help, 404 for what is not there
and 409 for conflicts. The octets of a failure of the server depend on its status alone, and no
response to a failure of the storage depends on a text of it. So a whole request that fails by the
server's fault has one of three responses. -/
theorem server_failures_reveal_nothing :
    (∀ m : Mishap, Document.ofOctets m.response.body.octets =
      (.object [(some "message", .text (.legible m.error.shown)),
        (some "statusCode", .number (toString m.response.status).toList),
        (some "success", .bool false)] true, true)) ∧
    (∀ cause : BookingError,
      ((ApiError.booking cause).response.status = 503 ↔ cause.isRetriable = true) ∧
      ((ApiError.booking cause).response.status = 404 ↔ cause.kind = .notFound) ∧
      ((ApiError.booking cause).response.status = 409 ↔ cause.kind = .conflict)) ∧
    (∀ m m' : Mishap, 500 ≤ m.response.status → m.response.status = m'.response.status →
      m.response = m'.response ∧ m.response.body.octets = m'.response.body.octets) ∧
    (∀ e e' : StorageError, e.mute = e'.mute →
      (ApiError.booking (.ofStorage e)).response = (ApiError.booking (.ofStorage e')).response) ∧
    ∀ (o : Office) (r : Http.Request) (response : Response),
      (o.call (.http r)).2 = .response response → 500 ≤ response.status →
        Office.Veils r response := by
  refine ⟨fun m => m.error.ofOctets_response, ApiError.status_booking, fun m m' h heq => ?_,
    fun e e' h => ?_, fun o r response h hserver => Office.veils_call h hserver⟩
  · have hresponse : m.response = m'.response := ApiError.response_eq_of_status_eq h heq
    exact ⟨hresponse, by rw [hresponse]⟩
  · rw [← StorageError.response_mute e, h, StorageError.response_mute e']

/-- What a database said of a password cannot be told from a handler that broke off. -/
theorem server_failures_reveal_nothing_password :
    let said : Mishap := .failure (.database (.io "password authentication failed for hunter2"))
    let broken : Mishap := .breakdown none
    500 ≤ said.response.status ∧ said.response.status = broken.response.status ∧
      said.response.body.octets = broken.response.body.octets := by
  intro said broken
  have hserver : 500 ≤ said.response.status := by decide
  have hstatus : said.response.status = broken.response.status := rfl
  obtain ⟨-, -, hsame, -⟩ := server_failures_reveal_nothing
  exact ⟨hserver, hstatus, (hsame said broken hserver hstatus).2⟩

end BoxOffice
