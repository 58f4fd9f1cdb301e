import BoxOffice.Proofs.IssuedTokens

set_option autoImplicit false

namespace BoxOffice

namespace Http.Headers

variable {headers : Headers} {value : Octets}

theorem first?_authorization_iff :
    headers.first? "Authorization" = some value ↔
      ∃ before name after, headers = before ++ (name, value) :: after ∧
        (∀ field ∈ before, field.1.toLower ≠ "authorization") ∧
        name.toLower = "authorization" :=
  first?_eq_some_iff (by decide +kernel)

theorem first?_append {later : Headers} (h : ∃ field ∈ headers, field.1.toLower = "authorization") :
    Headers.first? (headers ++ later) "Authorization" = headers.first? "Authorization" := by
  have hlower : "Authorization".toLower = "authorization" := by decide +kernel
  unfold first?
  rw [hlower, List.find?_append, Option.or_of_isSome]
  obtain ⟨field, hm, hname⟩ := h
  exact List.find?_isSome.2 ⟨field, hm, beq_iff_eq.2 hname⟩

end Http.Headers

namespace Token

open Json (Document Reader)

theorem eq_of_parts {header body mac header' body' mac' : List Char}
    (hheader : '.' ∉ header) (hbody : '.' ∉ body) (hmac : '.' ∉ mac)
    (h : header' ++ '.' :: (body' ++ '.' :: mac') = header ++ '.' :: (body ++ '.' :: mac)) :
    header' = header ∧ body' = body ∧ mac' = mac := by
  -- Two dots stand between the parts on both sides, so none is left within the parts.
  have hcount := congrArg (List.count '.') h
  simp only [List.count_append, List.count_cons_self, List.count_eq_zero_of_not_mem hheader,
    List.count_eq_zero_of_not_mem hbody, List.count_eq_zero_of_not_mem hmac] at hcount
  have hbody' : '.' ∉ body' := List.count_eq_zero.1 (by omega)
  have hmac' : '.' ∉ mac' := List.count_eq_zero.1 (by omega)
  have hgrouped : (header' ++ '.' :: body') ++ '.' :: mac' =
      (header ++ '.' :: body) ++ '.' :: mac := by
    simpa using h
  have houter := congrArg splitLast hgrouped
  rw [splitLast_append hmac', splitLast_append hmac] at houter
  obtain ⟨hm, rfl⟩ := Prod.mk.inj (Option.some.inj houter)
  have hinner := congrArg splitLast hm
  rw [splitLast_append hbody', splitLast_append hbody] at hinner
  obtain ⟨rfl, rfl⟩ := Prod.mk.inj (Option.some.inj hinner)
  exact ⟨rfl, rfl, rfl⟩

theorem genuine_of_told {secret : Octets} {now : Int} {claims : Claims} {text : String}
    {ms : List (Option String × Document)}
    (hdocument : Document.ofOctets (Octets.ofText text) = (.object ms true, true))
    (htold : Claims.Told ms claims) (hlegible : (Registered.mk ms).legible = true)
    (haud : (Registered.mk ms).namesAudience = false)
    (hcounts : 0 ≤ claims.expiresAt ∧ now - 60 ≤ claims.expiresAt) :
    Genuine secret now (part header.write) (part text)
      (signature secret (message (part header.write) (part text))) claims where
  undotted := ⟨dot_notMem_part _, dot_notMem_part _, dot_notMem_encode _⟩
  signed := rfl
  algorithm := ⟨_, _, Crypto.Base64.decode_encode_urlSafe _, Document.ofOctets_write header,
    algorithm_header, Header.names_of_algorithm algorithm_header⟩
  told := ⟨_, ms, Crypto.Base64.decode_encode_urlSafe _, hdocument, htold, hlegible,
    namesAudience_eq_false_iff.1 haud⟩
  counts := hcounts

theorem Claims.Fit.genuine {claims : Claims} (h : claims.Fit) (secret : Octets) {now : Int}
    (hcounts : 0 ≤ claims.expiresAt ∧ now - 60 ≤ claims.expiresAt) :
    Genuine secret now (part header.write) (part claims.json.write)
      (signature secret (message (part header.write) (part claims.json.write))) claims :=
  genuine_of_told (Document.ofOctets_write claims.json) h.told (legible_members claims)
    (namesAudience_members claims) hcounts

/-- Claims with an audience that is written as a text, but as one that cannot be read. -/
def strangeClaims : String :=
  "\x7b\"user_id\":7,\"email\":\"a\",\"iat\":1,\"exp\":4102444800,\"aud\":\"\\ud800\"\x7d"

def strangeMembers : List (Option String × Document) :=
  [(some "user_id", .number ['7']), (some "email", .text (.legible "a")),
    (some "iat", .number ['1']), (some "exp", .number "4102444800".toList),
    (some "aud", .text (.illegible .behind))]

set_option maxRecDepth 8000 in
theorem ofOctets_strangeClaims :
    Document.ofOctets (Octets.ofText strangeClaims) = (.object strangeMembers true, true) := by
  rfl

theorem told_strangeMembers : Claims.Told strangeMembers ⟨7, "a", 1, 4102444800⟩ where
  others := by simp [strangeMembers, Document.complete]
  userId := ⟨_, rfl, rfl⟩
  email := ⟨_, rfl, rfl⟩
  issuedAt := ⟨_, rfl, rfl⟩
  expiresAt := ⟨_, rfl, rfl⟩

theorem genuine_strange (secret : Octets) {now : Int} (hnow : now ≤ 4102444860) :
    Genuine secret now (part header.write) (part strangeClaims)
      (signature secret (message (part header.write) (part strangeClaims)))
      ⟨7, "a", 1, 4102444800⟩ :=
  genuine_of_told ofOctets_strangeClaims told_strangeMembers (by decide) (by decide)
    ⟨by decide, by dsimp only; omega⟩

end Token

namespace Api

open Json (Document Reader)

variable {secret : Octets} {now user : Int} {headers : Http.Headers}

/-- The token of the scheme in the first `Authorization` field, which is visible as a whole. -/
def Shows (headers : Http.Headers) (token : List Char) : Prop :=
  ∃ before name value after, headers = before ++ (name, value) :: after ∧
    (∀ field ∈ before, field.1.toLower ≠ "authorization") ∧ name.toLower = "authorization" ∧
    (∀ b ∈ value, (0x20 ≤ b ∧ b ≤ 0x7e) ∨ b = 9) ∧
    (value.map fun b => Char.ofNat b.toNat) = "Bearer ".toList ++ token

theorem shows_iff {token : List Char} : Shows headers token ↔
    ∃ value, headers.first? "Authorization" = some value ∧
      (∀ b ∈ value, (0x20 ≤ b ∧ b ≤ 0x7e) ∨ b = 9) ∧
      (value.map fun b => Char.ofNat b.toNat) = "Bearer ".toList ++ token := by
  simp only [Http.Headers.first?_authorization_iff, Shows]
  constructor
  · rintro ⟨before, name, value, after, hheaders, hbefore, hname, h⟩
    exact ⟨value, ⟨before, name, after, hheaders, hbefore, hname⟩, h⟩
  · rintro ⟨value, ⟨before, name, after, hheaders, hbefore, hname⟩, h⟩
    exact ⟨before, name, value, after, hheaders, hbefore, hname, h⟩

theorem Shows.eq {token token' : List Char} (h : Shows headers token) (h' : Shows headers token') :
    token = token' := by
  obtain ⟨value, hvalue, -, htext⟩ := shows_iff.1 h
  obtain ⟨value', hvalue', -, htext'⟩ := shows_iff.1 h'
  obtain rfl := Option.some.inj (hvalue.symm.trans hvalue')
  exact List.append_cancel_left (htext.symm.trans htext')

theorem caller_eq_ok_iff_genuine : caller secret now headers = .ok user ↔
    ∃ header body mac claims, Shows headers (header ++ '.' :: (body ++ '.' :: mac)) ∧
      Token.Genuine secret now header body mac claims ∧ claims.userId = user := by
  rw [caller_eq_ok_iff]
  simp only [Bears, Token.verify_eq_ok_iff, shows_iff]
  constructor
  · rintro ⟨claims, ⟨value, token, hvalue, hvisible, htext, header, body, mac, rfl, h⟩, huser⟩
    exact ⟨header, body, mac, claims, ⟨value, hvalue, hvisible, htext⟩, h, huser⟩
  · rintro ⟨header, body, mac, claims, ⟨value, hvalue, hvisible, htext⟩, h, huser⟩
    exact ⟨claims, ⟨value, _, hvalue, hvisible, htext, header, body, mac, rfl, h⟩, huser⟩

theorem signed_of_shows {header body mac : List Char} (h : caller secret now headers = .ok user)
    (hshows : Shows headers (header ++ '.' :: (body ++ '.' :: mac))) :
    mac = Token.signature secret (Token.message header body) := by
  obtain ⟨header', body', mac', claims, hshows', hgenuine, -⟩ := caller_eq_ok_iff_genuine.1 h
  obtain ⟨hheader, hbody, hmac⟩ := hgenuine.undotted
  obtain ⟨rfl, rfl, rfl⟩ := Token.eq_of_parts hheader hbody hmac (hshows.eq hshows')
  exact hgenuine.signed

theorem caller_append {later : Http.Headers}
    (h : ∃ field ∈ headers, field.1.toLower = "authorization") :
    caller secret now (headers ++ later) = caller secret now headers := by
  unfold caller
  rw [Http.Headers.first?_append h]

theorem caller_ok_or_unauthorized (secret : Octets) (now : Int) (headers : Http.Headers) :
    (∃ user, caller secret now headers = .ok user) ∨
      ∃ why, caller secret now headers = .error (.unauthorized why) := by
  unfold caller
  split
  · exact .inr ⟨_, rfl⟩
  · split
    · split
      · exact .inl ⟨_, rfl⟩
      · exact .inr ⟨_, rfl⟩
    · exact .inr ⟨_, rfl⟩

theorem shows_fieldOctets {token : List Char} (h : token.all Http.isPlain = true)
    (after : Http.Headers) :
    Shows (("Authorization", Http.fieldOctets ("Bearer ".toList ++ token)) :: after) token := by
  have hplain := isPlain_bearer h
  exact ⟨[], _, _, after, rfl, nofun, by decide +kernel, Http.visible_fieldOctets hplain,
    Http.map_fieldOctets hplain⟩

/-- Only who shows a token that was signed with the secret and counts is a caller, and it is the
user of its claims; anybody else is unauthorized. Fields behind the first `Authorization` field do
not matter, and the first two parts of a token that is taken leave no choice for the third. -/
theorem callers_are_signed (secret : Octets) (now : Int) (headers : Http.Headers) :
    (∀ user, caller secret now headers = .ok user ↔
      ∃ header body mac claims, Shows headers (header ++ '.' :: (body ++ '.' :: mac)) ∧
        Token.Genuine secret now header body mac claims ∧ claims.userId = user) ∧
    ((∃ user, caller secret now headers = .ok user) ∨
      ∃ why, caller secret now headers = .error (.unauthorized why) ∧
        (ApiError.unauthorized why).status = 401) ∧
    (∀ later, (∃ field ∈ headers, field.1.toLower = "authorization") →
      caller secret now (headers ++ later) = caller secret now headers) ∧
    ∀ now' headers' user user' header body mac mac',
      caller secret now headers = .ok user → caller secret now' headers' = .ok user' →
      Shows headers (header ++ '.' :: (body ++ '.' :: mac)) →
      Shows headers' (header ++ '.' :: (body ++ '.' :: mac')) → mac = mac' := by
  refine ⟨fun user => caller_eq_ok_iff_genuine, ?_, fun later => caller_append, ?_⟩
  · exact (caller_ok_or_unauthorized secret now headers).imp_right
      fun ⟨why, h⟩ => ⟨why, h, rfl⟩
  · intro now' headers' user user' header body mac mac' hcaller hcaller' hshows hshows'
    exact (signed_of_shows hcaller hshows).trans (signed_of_shows hcaller' hshows').symm

/-- A second field of the name does not take a caller away. -/
theorem callers_are_signed_twice :
    let claims : Token.Claims := ⟨7, "a", 1, 4102444800⟩
    let header := Token.part Token.header.write
    let body := Token.part claims.json.write
    let mac := Token.signature (Octets.ofText "k") (Token.message header body)
    let token := "Bearer ".toList ++ (header ++ '.' :: (body ++ '.' :: mac))
    caller (Octets.ofText "k") 1767225600
      [("Authorization", Http.fieldOctets token), ("authorization", [])] = .ok 7 := by
  intro claims header body mac token
  have hfit : claims.Fit := ⟨by decide, by decide, by decide⟩
  obtain ⟨hok, -, hlater, -⟩ := callers_are_signed (Octets.ofText "k") 1767225600
    [("Authorization", Http.fieldOctets token)]
  have hcaller := (hok 7).2 ⟨header, body, mac, claims,
    shows_fieldOctets (Token.isPlain_parts _ _ _) [], hfit.genuine _ (by decide), rfl⟩
  have hname : "Authorization".toLower = "authorization" := by decide +kernel
  exact (hlater [("authorization", [])] ⟨_, List.mem_cons_self, hname⟩).trans hcaller

/-- An audience that is written as a text and cannot be read keeps nobody out. -/
theorem caller_of_strange_audience :
    let header := Token.part Token.header.write
    let body := Token.part Token.strangeClaims
    let mac := Token.signature (Octets.ofText "k") (Token.message header body)
    let token := "Bearer ".toList ++ (header ++ '.' :: (body ++ '.' :: mac))
    caller (Octets.ofText "k") 1767225600 [("Authorization", Http.fieldOctets token)] = .ok 7 ∧
      ∃ octets ms reading, Crypto.Base64.decode Crypto.Base64.urlSafe body = some octets ∧
        Document.ofOctets octets = (.object ms true, true) ∧ (some "aud", .text reading) ∈ ms := by
  intro header body mac token
  have hplain : (header ++ '.' :: (body ++ '.' :: mac)).all Http.isPlain = true :=
    Token.isPlain_parts _ _ _
  constructor
  · exact caller_eq_ok_iff_genuine.2 ⟨header, body, mac, _, shows_fieldOctets hplain [],
      Token.genuine_strange _ (by decide), rfl⟩
  · exact ⟨_, _, _, Crypto.Base64.decode_encode_urlSafe _, Token.ofOctets_strangeClaims,
      List.mem_of_getElem? (i := 4) rfl⟩

end Api

end BoxOffice
