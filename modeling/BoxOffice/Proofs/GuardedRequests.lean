import BoxOffice.Office.Task
import BoxOffice.Proofs.HoldReport
import BoxOffice.Proofs.IssuedTokens
import BoxOffice.Proofs.JsonRecords

set_option autoImplicit false

namespace BoxOffice

open Engine (Order)
open Http (Response)
open Json (Reader)

namespace Api

section Refusals

variable {α β : Type} {x : Except Response α} {f : α → Except Response β} {response : Response}

def BlamesClient (x : Except Response α) : Prop :=
  ∀ response, x = .error response → 400 ≤ response.status ∧ response.status < 500

theorem blamesClient_ok (a : α) : BlamesClient (.ok a) := fun _ h => by cases h

theorem blamesClient_error (h : 400 ≤ response.status ∧ response.status < 500) :
    BlamesClient (.error response : Except Response α) := fun _ he => by cases he; exact h

theorem blamesClient_plain {status : Nat} (text : String) (h : 400 ≤ status ∧ status < 500) :
    BlamesClient (.error (.plain status text) : Except Response α) := blamesClient_error h

theorem blamesClient_badRequest (message : String) :
    BlamesClient (.error (ApiError.badRequest message).response : Except Response α) :=
  blamesClient_error ⟨Nat.le_refl 400, Nat.lt_of_lt_of_le (Nat.lt_succ_self 400) (by decide)⟩

theorem BlamesClient.bind (hx : BlamesClient x) (hf : ∀ a, BlamesClient (f a)) :
    BlamesClient (x >>= f) := by
  cases x with
  | error e => exact fun response h => hx response (by cases h; rfl)
  | ok a => exact hf a

theorem answered_eq_ok_iff {y : Except ApiError α} {a : α} : answered y = .ok a ↔ y = .ok a := by
  cases y <;> simp [answered]

theorem blamesClient_answered {y : Except ApiError α}
    (h : ∀ e, y = .error e → 400 ≤ e.status ∧ e.status < 500) : BlamesClient (answered y) := by
  cases y with
  | error e => exact blamesClient_error (h e rfl)
  | ok a => exact blamesClient_ok a

theorem blamesClient_pathId (segment : String) : BlamesClient (pathId segment) := by
  unfold pathId
  split
  · exact blamesClient_plain _ (by decide)
  · split
    · exact blamesClient_ok _
    · exact blamesClient_plain _ (by decide)

theorem positive_eq_ok_iff {what : String} {id n : Int} :
    positive what id = .ok n ↔ 1 ≤ id ∧ id = n := by
  unfold positive
  split <;> simp <;> omega

theorem blamesClient_positive (what : String) (id : Int) : BlamesClient (positive what id) := by
  unfold positive
  split
  · exact blamesClient_ok id
  · exact blamesClient_badRequest _

theorem blamesClient_jsonBody (read : Reader α) (r : Http.Request) :
    BlamesClient (jsonBody read r) := by
  unfold jsonBody
  split
  · exact blamesClient_plain _ (by decide)
  · split
    · exact blamesClient_plain _ (by decide)
    · split
      · exact blamesClient_ok _
      · exact blamesClient_plain _ (by decide)
      · exact blamesClient_plain _ (by decide)

theorem blamesClient_complain (complaints : List String) : BlamesClient (complain complaints) := by
  unfold complain
  split
  · exact blamesClient_ok ()
  · exact blamesClient_badRequest _

theorem complain_ids_iff {m n : Int} {first second : String} :
    complain (complaint (m < 1) first ++ complaint (n < 1) second) = .ok () ↔ 1 ≤ m ∧ 1 ≤ n := by
  rw [← Int.not_lt, ← Int.not_lt]
  unfold complain complaint
  by_cases hm : m < 1 <;> by_cases hn : n < 1 <;> simp [hm, hn]

end Refusals

/-- The order that the engine gets for a request that passes. -/
inductive Admits (secret : Octets) (now : Int) (r : Http.Request) : Route → Order → Prop
  | hold {segment : String} {claims : Token.Claims} {seatId : Int}
      (hbears : Bears secret now r.headers claims) (hid : pathId segment = .ok seatId)
      (hseat : 1 ≤ seatId) : Admits secret now r (.hold segment) (.hold seatId claims.userId)
  | buy {claims : Token.Claims} {key : Option String} {showId seatId : Int}
      (hbears : Bears secret now r.headers claims) (hkey : bookingKey r.headers = .ok key)
      (hbody : jsonBody (pair "show_id" "seat_id" (Reader.int .signed64)) r = .ok (showId, seatId))
      (hshow : 1 ≤ showId) (hseat : 1 ≤ seatId) :
      Admits secret now r .book (.buy showId seatId claims.userId key)

variable {secret : Octets} {now : Int} {r : Http.Request} {route : Route} {order : Order}
  {action : Action} {response : Response}

structure Checked (claims : Token.Claims) (order : Order) : Prop where
  user : order.userId = claims.userId
  seat : 1 ≤ order.seatId
  screening : ∀ showId seatId userId key, order = .buy showId seatId userId key → 1 ≤ showId
  key : ∀ showId seatId userId key, order = .buy showId seatId userId (some key) →
    key ≠ "" ∧ key.length ≤ 255

theorem Admits.checked (h : Admits secret now r route order) :
    ∃ claims, Bears secret now r.headers claims ∧ Checked claims order := by
  cases h with
  | hold hbears hid hseat => exact ⟨_, hbears, rfl, hseat, nofun, nofun⟩
  | buy hbears hkey hbody hshow hseat =>
    refine ⟨_, hbears, rfl, hseat, ?_, ?_⟩
    · rintro _ _ _ _ ⟨⟩
      exact hshow
    · rintro _ _ _ _ ⟨⟩
      exact bookingKey_some hkey

theorem readHold_eq_ok_iff {segment : String} :
    readHold secret now r segment = .ok action ↔
      ∃ order, Admits secret now r (.hold segment) order ∧ action = .order order := by
  simp only [readHold, bind_eq_ok_iff, answered_eq_ok_iff, caller_eq_ok_iff, positive_eq_ok_iff,
    Except.ok.injEq]
  constructor
  · rintro ⟨_, ⟨claims, hbears, rfl⟩, seatId, hid, _, ⟨hseat, rfl⟩, rfl⟩
    exact ⟨_, .hold hbears hid hseat, rfl⟩
  · rintro ⟨_, h, rfl⟩
    cases h with
    | hold hbears hid hseat => exact ⟨_, ⟨_, hbears, rfl⟩, _, hid, _, ⟨hseat, rfl⟩, rfl⟩

theorem readBooking_eq_ok_iff :
    readBooking secret now r = .ok action ↔
      ∃ order, Admits secret now r .book order ∧ action = .order order := by
  simp only [readBooking, bind_eq_ok_iff, answered_eq_ok_iff, caller_eq_ok_iff, Except.ok.injEq,
    Prod.exists]
  constructor
  · rintro ⟨_, ⟨claims, hbears, rfl⟩, key, hkey, showId, seatId, hbody, _, hids, rfl⟩
    obtain ⟨hseat, hshow⟩ := complain_ids_iff.1 hids
    exact ⟨_, .buy hbears hkey hbody hshow hseat, rfl⟩
  · rintro ⟨_, h, rfl⟩
    cases h with
    | buy hbears hkey hbody hshow hseat =>
      exact ⟨_, ⟨_, hbears, rfl⟩, _, hkey, _, _, hbody, (), complain_ids_iff.2 ⟨hseat, hshow⟩, rfl⟩

theorem blamesClient_caller (secret : Octets) (now : Int) (headers : Http.Headers) :
    BlamesClient (answered (caller secret now headers)) :=
  blamesClient_answered fun e he => by
    rw [status_of_caller_eq_error he]
    decide

def Route.IsGuarded (route : Route) : Prop := route = .book ∨ ∃ segment, route = .hold segment

theorem Route.IsGuarded.ofRequest_eq_ok_iff (h : route.IsGuarded) :
    Action.ofRequest secret now r route = .ok action ↔
      ∃ order, Admits secret now r route order ∧ action = .order order := by
  rcases h with rfl | ⟨segment, rfl⟩
  · exact readBooking_eq_ok_iff
  · exact readHold_eq_ok_iff

theorem Route.IsGuarded.blamesClient (h : route.IsGuarded) :
    BlamesClient (Action.ofRequest secret now r route) := by
  have huser := blamesClient_caller secret now r.headers
  rcases h with rfl | ⟨segment, rfl⟩
  · have hkey : BlamesClient (answered (bookingKey r.headers)) :=
      blamesClient_answered fun e he => by
        rw [status_of_bookingKey_eq_error he]
        decide
    exact huser.bind fun _ => hkey.bind fun _ => (blamesClient_jsonBody _ r).bind fun _ =>
      (blamesClient_complain _).bind fun _ => blamesClient_ok _
  · exact huser.bind fun _ => (blamesClient_pathId segment).bind fun _ =>
      (blamesClient_positive _ _).bind fun _ => blamesClient_ok _

theorem Route.IsGuarded.unauthorized (h : route.IsGuarded)
    (hnone : ∀ claims, ¬Bears secret now r.headers claims)
    (he : Action.ofRequest secret now r route = .error response) : response.status = 401 := by
  cases hcaller : caller secret now r.headers with
  | ok user =>
    obtain ⟨claims, hbears, -⟩ := caller_eq_ok_iff.1 hcaller
    exact absurd hbears (hnone claims)
  | error e =>
    have hresponse : response = e.response := by
      rcases h with rfl | ⟨segment, rfl⟩ <;>
        · simp only [Action.ofRequest, readBooking, readHold, hcaller] at he
          cases he
          rfl
    rw [hresponse]
    exact status_of_caller_eq_error hcaller

/-- What becomes of a request on a route on which seats are written. -/
def verdict (secret : Octets) (now : Int) (r : Http.Request) (route : Route) :
    Except Response Order :=
  match Action.ofRequest secret now r route with
  | .ok (.order order) => .ok order
  | .ok _ => .error (.bare 404)
  | .error response => .error response

theorem Route.IsGuarded.verdict_cases (h : route.IsGuarded) :
    (∃ order, Action.ofRequest secret now r route = .ok (.order order) ∧
        verdict secret now r route = .ok order ∧ Admits secret now r route order) ∨
      ∃ response, Action.ofRequest secret now r route = .error response ∧
        verdict secret now r route = .error response ∧
        ∀ order, ¬Admits secret now r route order := by
  unfold verdict
  cases haction : Action.ofRequest secret now r route with
  | ok action =>
    obtain ⟨order, hadmits, rfl⟩ := h.ofRequest_eq_ok_iff.1 haction
    exact .inl ⟨order, rfl, rfl, hadmits⟩
  | error response =>
    refine .inr ⟨response, rfl, rfl, fun order hadmits => ?_⟩
    cases haction.symm.trans (h.ofRequest_eq_ok_iff.2 ⟨order, hadmits, rfl⟩)

theorem Route.IsGuarded.verdict_eq_ok_iff (h : route.IsGuarded) :
    verdict secret now r route = .ok order ↔ Admits secret now r route order := by
  constructor
  · intro hv
    rcases h.verdict_cases with ⟨other, -, hother, hadmits⟩ | ⟨response, -, he, -⟩
    · rw [hother] at hv
      cases hv
      exact hadmits
    · cases he.symm.trans hv
  · intro hadmits
    have haction := h.ofRequest_eq_ok_iff.2 ⟨order, hadmits, rfl⟩
    simp only [verdict, haction]

theorem Route.ofRequest_eq_ok_iff :
    Route.ofRequest r = .ok route ↔
      Route.ofPath? r.path = some route ∧ route.accepts r.method = true := by
  unfold Route.ofRequest
  cases Route.ofPath? r.path with
  | none => simp
  | some other =>
    simp only [Option.some.injEq]
    split
    · rename_i ha
      simp only [Except.ok.injEq]
      exact ⟨fun h => ⟨h, h ▸ ha⟩, And.left⟩
    · rename_i ha
      refine ⟨nofun, ?_⟩
      rintro ⟨rfl, h⟩
      exact absurd h ha

theorem Route.IsGuarded.method (h : route.IsGuarded) (hr : Route.ofRequest r = .ok route) :
    r.method = route.method := by
  have ha := (Route.ofRequest_eq_ok_iff.1 hr).2
  simp only [Route.accepts, Bool.or_eq_true, Bool.and_eq_true, beq_iff_eq] at ha
  refine (ha.resolve_right fun hget => ?_).symm
  rcases h with rfl | ⟨segment, rfl⟩
  · exact absurd hget.1 (by decide)
  · have hpatch : "PATCH" = "GET" := hget.1
    exact absurd hpatch (by decide)

end Api

theorem Progress.forMethod_of_ne {method : String} (h : method ≠ "HEAD") (progress : Progress) :
    progress.forMethod method = progress := by
  cases progress with
  | waiting task => rfl
  | answered answer =>
    cases answer with
    | outcome outcome => rfl
    | response response => simp [forMethod, h]

namespace Office

open Api (Admits Bears Checked Route)

variable {r : Http.Request} {route : Route}

/-- The request decides what the engine is asked, and the engine is asked once or not at all: never
without a caller whose token counts, and never with an id or a key that was not checked. -/
theorem requests_are_guarded (hr : Route.ofRequest r = .ok route) (hg : route.IsGuarded) :
    ∃ verdict : Octets → Int → Except Response Order, ∀ o : Office,
      let secret := o.rules.keys.secret
      let now := o.wallClock.seconds
      (o.handle r =
        if o.rules.requestLimit = 0 then (o, .answered (.response Api.overdue))
        else
          match verdict secret now with
          | .ok order => o.order order (some (o.elapsed + o.rules.requestLimit))
          | .error response => (o, .answered (.response response))) ∧
      (∀ order, verdict secret now = .ok order ↔ Admits secret now r route order) ∧
      (∀ order, verdict secret now = .ok order →
        ∃ claims, Bears secret now r.headers claims ∧ Checked claims order) ∧
      ∀ response, verdict secret now = .error response →
        400 ≤ response.status ∧ response.status < 500 ∧
          ((∀ claims, ¬Bears secret now r.headers claims) → response.status = 401) := by
  have hmethod : r.method = "POST" ∨ r.method = "PATCH" := by
    rw [hg.method hr]
    rcases hg with rfl | ⟨segment, rfl⟩
    · exact .inl rfl
    · exact .inr rfl
  have hoptions : r.method ≠ "OPTIONS" := by rcases hmethod with h | h <;> rw [h] <;> decide
  have hhead : r.method ≠ "HEAD" := by rcases hmethod with h | h <;> rw [h] <;> decide
  refine ⟨fun secret now => Api.verdict secret now r route, fun o => ⟨?_, ?_, ?_, ?_⟩⟩
  · unfold Office.handle
    rw [if_neg hoptions]
    split
    · rfl
    · simp only [hr, Progress.forMethod_of_ne hhead]
      have hbind : ∀ secret now, ((.ok route : Except Response Route) >>=
          Api.Action.ofRequest secret now r) = Api.Action.ofRequest secret now r route :=
        fun _ _ => rfl
      rcases hg.verdict_cases with ⟨order, haction, hverdict, -⟩ | ⟨response, haction, hverdict, -⟩
      · rw [hbind, haction, hverdict]
        rfl
      · rw [hbind, haction, hverdict]
  · exact fun order => hg.verdict_eq_ok_iff
  · exact fun order hv => (hg.verdict_eq_ok_iff.1 hv).checked
  · intro response hv
    rcases hg.verdict_cases with ⟨order, -, hok, -⟩ | ⟨other, haction, hother, -⟩
    · cases hok.symm.trans hv
    · cases hother.symm.trans hv
      obtain ⟨hlow, hhigh⟩ := hg.blamesClient _ haction
      exact ⟨hlow, hhigh, fun hnone => hg.unauthorized hnone haction⟩

def earlyClaims : Token.Claims := ⟨7, "a@b.c", 0, 900⟩

theorem verify_earlyClaims :
    Token.verify (Octets.ofText "secret") 0 (Token.sign (Octets.ofText "secret") earlyClaims) =
      .ok earlyClaims := by
  have hfit : earlyClaims.Fit := ⟨by decide, by decide, by decide⟩
  rw [hfit.verify_sign, if_pos rfl, Token.judge_members (by decide), if_neg (by decide)]

def earlyHold : Http.Request where
  method := "PATCH"
  path := "/api/v1/seats/1/lock"
  headers := [("authorization", Http.fieldOctets
    ("Bearer ".toList ++ (Token.sign (Octets.ofText "secret") earlyClaims).toList))]
  body := []

theorem earlyHold_is_guarded :
    ∃ o, (Plan.oneSeat 600).office? ⟨[], [], []⟩ ⟨none, false, false, 3600, []⟩ = some o ∧
      o.handle earlyHold = o.order (.hold 1 7) (some 30000) ∧
      ∃ response : Response, response.status = 401 ∧
        o.handle { earlyHold with headers := [] } = (o, .answered (.response response)) := by
  obtain ⟨o, ho, hsecret, hnow, helapsed, hlimit⟩ :
      ∃ o, (Plan.oneSeat 600).office? ⟨[], [], []⟩ ⟨none, false, false, 3600, []⟩ = some o ∧
        o.rules.keys.secret = Octets.ofText "secret" ∧ o.wallClock.seconds = 0 ∧ o.elapsed = 0 ∧
        o.rules.requestLimit = 30000 := ⟨_, rfl, rfl, rfl, rfl, rfl⟩
  have hpath : Route.ofPath? "/api/v1/seats/1/lock" = some (.hold "1") := by decide +kernel
  have haccepts : (Route.hold "1").accepts "PATCH" = true := by decide
  have hroute : ∀ headers, Route.ofRequest { earlyHold with headers } = .ok (.hold "1") :=
    fun _ => Api.Route.ofRequest_eq_ok_iff.2 ⟨hpath, haccepts⟩
  have hguarded : (Route.hold "1").IsGuarded := .inr ⟨"1", rfl⟩
  refine ⟨o, ho, ?_, ?_⟩
  · have hadmitted : Admits (Octets.ofText "secret") 0 earlyHold (.hold "1") (.hold 1 7) :=
      .hold (Api.bears_sign (Http.first?_cons (by decide +kernel) []) verify_earlyClaims)
        (eq_ok_of_toOption (by decide +kernel)) (by decide)
    obtain ⟨verdict, h⟩ := requests_are_guarded (hroute earlyHold.headers) hguarded
    obtain ⟨hhandle, hadmits, -⟩ := h o
    rw [hsecret, hnow] at hhandle hadmits
    rw [(hadmits _).2 hadmitted, hlimit, helapsed] at hhandle
    exact hhandle
  · have hnone : ∀ claims, ¬Bears (Octets.ofText "secret") 0 [] claims := by
      rintro claims ⟨value, token, hvalue, -⟩
      cases hvalue
    obtain ⟨verdict, h⟩ := requests_are_guarded (hroute []) hguarded
    obtain ⟨hhandle, -, hok, herror⟩ := h o
    rw [hsecret, hnow] at hhandle hok herror
    cases hv : verdict (Octets.ofText "secret") 0 with
    | ok order =>
      obtain ⟨claims, hbears, -⟩ := hok order hv
      exact absurd hbears (hnone claims)
    | error response =>
      rw [hv, hlimit] at hhandle
      exact ⟨response, (herror response hv).2.2 hnone, hhandle⟩

end Office

end BoxOffice
