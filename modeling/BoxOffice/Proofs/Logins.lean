import BoxOffice.Proofs.PasswordTexts
import BoxOffice.Proofs.ServerFailures
import BoxOffice.Proofs.SignedCallers

set_option autoImplicit false

namespace BoxOffice

open Http (Response)
open Crypto (PasswordHash)

namespace Api

variable {secret : Octets} {now user : Int} {headers : Http.Headers} {claims : Token.Claims}

theorem caller_sign_iff (hfit : claims.Fit)
    (hfield : headers.first? "Authorization" =
      some (Http.fieldOctets ("Bearer ".toList ++ (Token.sign secret claims).toList))) :
    caller secret now headers = .ok user ↔
      user = claims.userId ∧ 0 ≤ claims.expiresAt ∧ now - 60 ≤ claims.expiresAt := by
  have hverify (read : Token.Claims) :
      Token.verify secret now (Token.sign secret claims) = .ok read ↔
        read = claims ∧ 0 ≤ claims.expiresAt ∧ now - 60 ≤ claims.expiresAt := by
    rw [hfit.verify_sign, if_pos rfl, Token.judge_eq_ok_iff]
    simp only [Token.namesAudience_members, and_true]
  rw [caller_eq_ok_iff]
  constructor
  · rintro ⟨read, ⟨value, token, hvalue, -, htext, hread⟩, rfl⟩
    obtain rfl := Option.some.inj (hfield.symm.trans hvalue)
    rw [Http.map_fieldOctets (isPlain_bearer (Token.isPlain_sign secret claims))] at htext
    rw [← List.append_cancel_left htext, String.ofList_toList, hverify] at hread
    exact ⟨congrArg Token.Claims.userId hread.1, hread.2⟩
  · rintro ⟨rfl, hcounts⟩
    exact ⟨claims, bears_sign hfield ((hverify claims).2 ⟨rfl, hcounts⟩), rfl⟩

namespace Login

variable {keys : Token.Keys} {now ends : Instant} {password : String} {found : Option User}
variable {answer : Except StorageError (Option User)} {login : Login}

inductive Rejected (password : String) : Option User → Prop
  | unknown : Rejected password none
  | unreadable {user : User} (h : PasswordHash.ofText? user.passwordHash = none) :
      Rejected password (some user)
  | wrong {user : User} {stored : PasswordHash}
      (hstored : PasswordHash.ofText? user.passwordHash = some stored)
      (h : stored.accepts password = false) : Rejected password (some user)

theorem rejected_some_iff {user : User} : Rejected password (some user) ↔
    PasswordHash.verify user.passwordHash password = false := by
  unfold PasswordHash.verify
  constructor
  · rintro (_ | h | ⟨hstored, h⟩)
    · rw [h]
    · rw [hstored]
      exact h
  · intro h
    split at h
    · next stored hstored => exact .wrong hstored h
    · next hstored => exact .unreadable hstored

theorem not_rejected_some_iff {user : User} : ¬Rejected password (some user) ↔
    PasswordHash.verify user.passwordHash password = true := by
  rw [rejected_some_iff, Bool.not_eq_false]

theorem filter_eq_none_iff :
    (found.filter fun user => PasswordHash.verify user.passwordHash password) = none ↔
      Rejected password found := by
  cases found with
  | none => exact ⟨fun _ => .unknown, fun _ => rfl⟩
  | some user =>
    rw [rejected_some_iff, Option.filter_eq_none_iff]
    simp only [Option.some.injEq, forall_eq', Bool.not_eq_true]

/-- The hash of the user accepts the password, and the token is the user's until the lifetime is
over. -/
structure Granted (keys : Token.Keys) (now : Instant) (password : String) (ends : Instant)
    (login : Login) : Prop where
  accepted : PasswordHash.verify login.user.passwordHash password = true
  expires : now.add? keys.lifetime = some ends
  token : login.token =
    Token.sign keys.secret ⟨login.user.id, login.user.email, now.seconds, ends.seconds⟩

theorem decide_of_verify {user : User}
    (h : PasswordHash.verify user.passwordHash password = true) :
    decide keys now password (some user) =
      (Token.issue keys user.id user.email now).elim (.error (.brokenOff none))
        fun token => .ok ⟨token, user⟩ := by
  have hfilter : (some user).filter (fun user => PasswordHash.verify user.passwordHash password) =
      some user := Option.filter_some_pos h
  unfold decide
  rw [hfilter]
  dsimp only
  cases Token.issue keys user.id user.email now <;> rfl

theorem decide_of_rejected (h : Rejected password found) :
    decide keys now password found = .error (.unauthorized "Invalid credentials") := by
  unfold decide
  rw [filter_eq_none_iff.2 h]

theorem decide_eq_ok_iff : decide keys now password found = .ok login ↔
    found = some login.user ∧ ∃ ends, Granted keys now password ends login := by
  by_cases hrejected : Rejected password found
  · rw [decide_of_rejected hrejected]
    refine ⟨nofun, ?_⟩
    rintro ⟨rfl, ends, hgranted⟩
    rw [rejected_some_iff, hgranted.accepted] at hrejected
    cases hrejected
  · cases found with
    | none => exact absurd .unknown hrejected
    | some user =>
      have haccepted := not_rejected_some_iff.1 hrejected
      rw [decide_of_verify haccepted, Option.some.injEq]
      unfold Token.issue
      cases hends : now.add? keys.lifetime with
      | none =>
        refine ⟨nofun, fun ⟨_, ends, hgranted⟩ => ?_⟩
        cases hends.symm.trans hgranted.expires
      | some ends =>
        constructor
        · intro hlogin
          obtain rfl := Except.ok.inj hlogin
          exact ⟨rfl, ends, haccepted, hends, rfl⟩
        · rintro ⟨rfl, ends', hgranted⟩
          obtain rfl := Option.some.inj (hends.symm.trans hgranted.expires)
          rw [Option.map_some, ← hgranted.token, Option.elim_some]

def ofAnswer (keys : Token.Keys) (now : Instant) (password : String) :
    Except StorageError (Option User) → Except ApiError Login
  | .ok found => decide keys now password found
  | .error e => .error (.database e)

theorem run_eq (keys : Token.Keys) (now : Instant) (email password : String) (l : Database.Line) :
    run keys now email password l =
      ((l.user? email).1, ofAnswer keys now password (l.user? email).2) := by
  unfold run
  obtain ⟨l', answer⟩ := l.user? email
  cases answer <;> rfl

theorem ofAnswer_eq_ok_iff : ofAnswer keys now password answer = .ok login ↔
    answer = .ok (some login.user) ∧ ∃ ends, Granted keys now password ends login := by
  cases answer with
  | ok found => rw [ofAnswer, decide_eq_ok_iff, Except.ok.injEq]
  | error e => exact ⟨nofun, nofun⟩

/-- Whoever sends the token along is the user who logged in, until a minute after it has expired. -/
def Identifies (keys : Token.Keys) (ends : Instant) (login : Login) : Prop :=
  ∀ headers second user, Http.Headers.first? headers "Authorization" =
      some (Http.fieldOctets ("Bearer ".toList ++ login.token.toList)) →
    (caller keys.secret second headers = .ok user ↔
      user = login.user.id ∧ 0 ≤ ends.seconds ∧ second - 60 ≤ ends.seconds)

theorem Granted.identifies (h : Granted keys now password ends login)
    (hid : Decimal.Bounds.signed64.Holds login.user.id) : Identifies keys ends login := by
  intro headers second user hfield
  rw [h.token] at hfield
  exact caller_sign_iff ⟨hid, now.seconds_holds, ends.seconds_holds⟩ hfield

def response (keys : Token.Keys) (now : Instant) (password : String)
    (answer : Except StorageError (Option User)) : Response :=
  Office.listed "Login successful" ((ofAnswer keys now password answer).map json)

def turnedAway : Response :=
  ⟨401, .json (.object [("message", .text "Invalid credentials"), ("statusCode", .int 401),
    ("success", .bool false)])⟩

theorem act_login (o : Office) (email password : String) :
    (o.act (.login email password)).2 = .answered (.response
      (response o.rules.keys o.wallClock password (o.database.line.user? email).2)) := by
  simp only [Office.act, run_eq, response]

theorem response_of_rejected (h : Rejected password found) :
    response keys now password (.ok found) = turnedAway := by
  unfold response ofAnswer
  dsimp only
  rw [decide_of_rejected h]
  rfl

theorem status_response_of_verify {user : User}
    (h : PasswordHash.verify user.passwordHash password = true) :
    (response keys now password (.ok (some user))).status =
      if (now.add? keys.lifetime).isSome then 200 else 500 := by
  unfold response ofAnswer
  dsimp only
  rw [decide_of_verify h, Token.issue]
  cases now.add? keys.lifetime <;> rfl

theorem status_response_iff : (response keys now password answer).status = 401 ↔
    ∃ found, answer = .ok found ∧ Rejected password found := by
  constructor
  · intro hstatus
    cases answer with
    | error e => exact absurd hstatus (by decide : (500 : Nat) ≠ 401)
    | ok found =>
      refine ⟨found, rfl, ?_⟩
      by_contra hrejected
      cases found with
      | none => exact hrejected .unknown
      | some user =>
        rw [status_response_of_verify (not_rejected_some_iff.1 hrejected)] at hstatus
        split at hstatus <;> cases hstatus
  · rintro ⟨found, rfl, hrejected⟩
    rw [response_of_rejected hrejected]
    rfl

theorem response_eq_of_verify {user user' : User} {password' : String} (hid : user'.id = user.id)
    (hemail : user'.email = user.email) (hname : user'.name = user.name)
    (h : PasswordHash.verify user.passwordHash password = true)
    (h' : PasswordHash.verify user'.passwordHash password' = true) :
    response keys now password (.ok (some user)) =
      response keys now password' (.ok (some user')) := by
  unfold response ofAnswer
  dsimp only
  rw [decide_of_verify h, decide_of_verify h', hid, hemail]
  cases Token.issue keys user.id user.email now with
  | none => rfl
  | some token =>
    have hjson : json ⟨token, user⟩ = json ⟨token, user'⟩ := by
      simp only [json, hid, hemail, hname]
    exact congrArg (fun values => Office.listed "Login successful" (.ok values)) hjson

/-- Somebody gets in exactly as a user who was found, whose hash accepts the password, while the
calendar shows when the token expires, and whoever sends the token along is that user. The response
would be the same with another hash and another time of registering. Whoever does not get in
although the query was answered is turned away in one way, and nobody else is. -/
theorem right_user_gets_in (keys : Token.Keys) (now : Instant) :
    (∀ email password l,
      (run keys now email password l).2 = ofAnswer keys now password (l.user? email).2) ∧
    (∀ (o : Office) email password, o.rules.keys = keys → o.wallClock = now →
      (o.act (.login email password)).2 =
        .answered (.response (response keys now password (o.database.line.user? email).2))) ∧
    (∀ password answer, (∃ login, ofAnswer keys now password answer = .ok login) ↔
      ∃ user ends, answer = .ok (some user) ∧
        PasswordHash.verify user.passwordHash password = true ∧
        now.add? keys.lifetime = some ends) ∧
    (∀ password answer login, ofAnswer keys now password answer = .ok login →
      answer = .ok (some login.user) ∧ ∃ ends, Granted keys now password ends login ∧
        (Decimal.Bounds.signed64.Holds login.user.id → Identifies keys ends login)) ∧
    (∀ password password' (user : User) hash createdAt,
      PasswordHash.verify user.passwordHash password = true →
      PasswordHash.verify hash password' = true →
        response keys now password (.ok (some user)) =
          response keys now password' (.ok (some { user with passwordHash := hash, createdAt }))) ∧
    (∀ password found, Rejected password found →
      response keys now password (.ok found) = turnedAway) ∧
    ∀ password answer, (response keys now password answer).status = 401 ↔
      ∃ found, answer = .ok found ∧ Rejected password found := by
  refine ⟨fun email password l => by rw [run_eq], fun o email password hkeys hnow => ?_,
    fun password answer => ⟨?_, ?_⟩, fun password answer login h => ?_,
    fun password password' user hash createdAt h h' => response_eq_of_verify rfl rfl rfl h h',
    fun password found => response_of_rejected, fun password answer => status_response_iff⟩
  · rw [act_login, hkeys, hnow]
  · rintro ⟨login, h⟩
    obtain ⟨hanswer, ends, hgranted⟩ := ofAnswer_eq_ok_iff.1 h
    exact ⟨login.user, ends, hanswer, hgranted.accepted, hgranted.expires⟩
  · rintro ⟨user, ends, rfl, haccepted, hends⟩
    let claims : Token.Claims := ⟨user.id, user.email, now.seconds, ends.seconds⟩
    have hgranted : Granted keys now password ends ⟨Token.sign keys.secret claims, user⟩ :=
      ⟨haccepted, hends, rfl⟩
    exact ⟨_, ofAnswer_eq_ok_iff.2 ⟨rfl, ends, hgranted⟩⟩
  · obtain ⟨hanswer, ends, hgranted⟩ := ofAnswer_eq_ok_iff.1 h
    exact ⟨hanswer, ends, hgranted, hgranted.identifies⟩

/-- Somebody who knows the password, until the last second, and whoever does not. -/
theorem right_user_gets_in_once :
    let keys : Token.Keys := ⟨Octets.ofText "secret", ⟨900000000000, by decide, by decide⟩⟩
    let stored := PasswordHash.ofPassword 4 (List.replicate 16 0) "swordfish"
    let user : User := ⟨7, "a@b.c", stored.text, "A", .epoch⟩
    (∃ login, ofAnswer keys .epoch "swordfish" (.ok (some user)) = .ok login ∧
      caller keys.secret 960
        [("Authorization", Http.fieldOctets ("Bearer ".toList ++ login.token.toList))] = .ok 7) ∧
    response keys .epoch "swordfish" (.ok none) = turnedAway ∧
    response keys .epoch "swordfish" (.ok (some { user with passwordHash := "" })) = turnedAway := by
  intro keys stored user
  have hverify : PasswordHash.verify user.passwordHash "swordfish" = true :=
    PasswordHash.verify_ofPassword (by decide) rfl "swordfish"
  have hends : Instant.epoch.add? keys.lifetime = some ⟨900000000000, false, by decide, by decide⟩ :=
    rfl
  obtain ⟨-, -, hgets, hidentifies, -, haway, -⟩ := right_user_gets_in keys .epoch
  refine ⟨?_, haway _ _ .unknown, haway _ _ (.unreadable (by decide +kernel))⟩
  obtain ⟨login, hlogin⟩ := (hgets "swordfish" (.ok (some user))).2 ⟨user, _, rfl, hverify, hends⟩
  obtain ⟨hanswer, ends, hgranted, hcaller⟩ := hidentifies _ _ login hlogin
  have huser : login.user = user := (Option.some.inj (Except.ok.inj hanswer)).symm
  obtain rfl := Option.some.inj (hends.symm.trans hgranted.expires)
  have hid : login.user.id = 7 := congrArg User.id huser
  refine ⟨login, hlogin, (hcaller (hid ▸ by decide) _ 960 7 ?_).2 ⟨hid.symm, by decide⟩⟩
  exact Http.first?_cons (beq_self_eq_true _) []

end Login

end Api

end BoxOffice
