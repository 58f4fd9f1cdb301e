import BoxOffice.Proofs.GenuineTokens
import BoxOffice.Proofs.JsonTexts

set_option autoImplicit false

namespace BoxOffice

namespace Json.Reader

theorem ofOctets_write {α : Type} (read : Reader α) (value : Json) :
    ofOctets read (Octets.ofText value.write) = read value.document := by
  simp only [ofOctets, Document.ofOctets_write]
  cases hread : read value.document <;> rfl

theorem int_document {b : Decimal.Bounds} {n : Int} (h : b.Holds n) :
    int b (Json.int n).document = .ok n := by
  rw [document, int, Number.integer?_toString, Option.filter_some, if_pos (decide_eq_true h)]

end Json.Reader

theorem Instant.seconds_holds (t : Instant) : Decimal.Bounds.signed64.Holds t.seconds := by
  have hfirst := t.first_le
  have hlast := t.le_last
  unfold firstNanos at hfirst
  unfold lastNanos at hlast
  change -9223372036854775808 ≤ t.nanos / 1000000000 ∧ t.nanos / 1000000000 ≤ 9223372036854775807
  omega

namespace Token

open Json (Document Reader)

theorem readPart_part {α : Type} (read : Reader α) (value : Json) :
    readPart read (part value.write) = (read value.document).mapError fun _ => .json := by
  unfold readPart part
  rw [Crypto.Base64.decode_encode_urlSafe]
  simp only [Reader.ofOctets_write]
  cases read value.document <;> rfl

theorem algorithm_header : Header.algorithm header.document = .ok "HS256" := by
  rfl

structure Claims.Fit (c : Claims) : Prop where
  userId : Decimal.Bounds.signed64.Holds c.userId
  issuedAt : Decimal.Bounds.signed64.Holds c.issuedAt
  expiresAt : Decimal.Bounds.signed64.Holds c.expiresAt

variable {claims : Claims}

def Claims.members (c : Claims) : List (Option String × Document) :=
  [(some "user_id", (Json.int c.userId).document), (some "email", (Json.text c.email).document),
    (some "iat", (Json.int c.issuedAt).document), (some "exp", (Json.int c.expiresAt).document)]

theorem document_json (c : Claims) : c.json.document = .object c.members true := rfl

theorem Claims.Fit.told (h : claims.Fit) : Claims.Told claims.members claims where
  others := by simp [Claims.members]
  userId := ⟨_, rfl, Reader.int_document h.userId⟩
  email := ⟨_, rfl, rfl⟩
  issuedAt := ⟨_, rfl, Reader.int_document h.issuedAt⟩
  expiresAt := ⟨_, rfl, Reader.int_document h.expiresAt⟩

theorem legible_members (c : Claims) : (Registered.mk c.members).legible = true := by
  rfl

theorem namesAudience_members (c : Claims) : (Registered.mk c.members).namesAudience = false := by
  rfl

theorem Claims.Fit.payload_json (h : claims.Fit) :
    payload claims.json.document = .ok (claims, ⟨claims.members⟩) :=
  payload_eq_ok_iff.2 ⟨claims.members, document_json claims, h.told, legible_members claims, rfl⟩

theorem verify_parts {header behind given : List Char}
    (hheader : readPart Header.algorithm header = .ok "HS256") (hbehind : '.' ∉ behind)
    (hgiven : '.' ∉ given) (secret : Octets) (now : Int) :
    verify secret now (String.ofList (message header behind ++ '.' :: given)) =
      if signature secret (message header behind) = given then
        readPart payload behind >>= fun claims => judge now claims.1 claims.2
      else .error .wrongSignature := by
  have houter : splitLast (message header behind ++ '.' :: given) =
      some (message header behind, given) := splitLast_append hgiven
  have hinner : splitLast (message header behind) = some (header, behind) :=
    splitLast_append hbehind
  simp only [verify, String.toList_ofList, houter, hinner, hheader, Option.elim_some, bind,
    Except.bind, ne_eq, not_true_eq_false, if_false, ite_not]

theorem readPart_header : readPart Header.algorithm (part header.write) = .ok "HS256" := by
  rw [readPart_part, algorithm_header]
  rfl

theorem Claims.Fit.readPart_json (h : claims.Fit) :
    readPart payload (part claims.json.write) = .ok (claims, ⟨claims.members⟩) := by
  rw [readPart_part, h.payload_json]
  rfl

def Claims.signed (c : Claims) : Octets :=
  Octets.ofText (String.ofList (message (part header.write) (part c.json.write)))

theorem signature_eq_iff {secret other : Octets} :
    signature other (message (part header.write) (part claims.json.write)) =
        signature secret (message (part header.write) (part claims.json.write)) ↔
      Crypto.Sha256.hmac other claims.signed = Crypto.Sha256.hmac secret claims.signed :=
  Crypto.Base64.encode_urlSafe_inj

theorem Claims.Fit.verify_sign (h : claims.Fit) (secret other : Octets) (now : Int) :
    verify other now (sign secret claims) =
      if Crypto.Sha256.hmac other claims.signed = Crypto.Sha256.hmac secret claims.signed then
        judge now claims ⟨claims.members⟩
      else .error .wrongSignature := by
  have hgiven : '.' ∉ signature secret (message (part header.write) (part claims.json.write)) :=
    dot_notMem_encode _
  have hparts := verify_parts readPart_header (dot_notMem_part claims.json.write) hgiven other now
  rw [h.readPart_json, if_congr signature_eq_iff rfl rfl] at hparts
  exact hparts

theorem judge_members (h : 0 ≤ claims.expiresAt) (now : Int) :
    judge now claims ⟨claims.members⟩ =
      if claims.expiresAt < now - 60 then .error .expired else .ok claims := by
  have hcounts : ¬claims.expiresAt < 0 := Int.not_lt.2 h
  simp only [judge, leeway, if_neg hcounts, namesAudience_members, Bool.false_eq_true, if_false]

/-- Whoever holds the secret reads from a token what it was issued for, until a minute after it has
expired. -/
theorem issued_tokens_verify (keys : Keys) (userId : Int) (email : String) (c : Int)
    {now ends : Instant} (hu : Decimal.Bounds.signed64.Holds userId)
    (hends : now.add? keys.lifetime = some ends) (hexp : 0 ≤ ends.seconds) :
    let claims : Claims := ⟨userId, email, now.seconds, ends.seconds⟩
    ∃ token, issue keys userId email now = some token ∧
      (c - 60 ≤ ends.seconds → verify keys.secret c token = .ok claims) ∧
      (ends.seconds < c - 60 → verify keys.secret c token = .error .expired) ∧
      ∀ other, Crypto.Sha256.hmac other claims.signed ≠
          Crypto.Sha256.hmac keys.secret claims.signed →
        verify other c token = .error .wrongSignature := by
  intro claims
  have hfit : claims.Fit := ⟨hu, now.seconds_holds, ends.seconds_holds⟩
  have hverify : verify keys.secret c (sign keys.secret claims) =
      if ends.seconds < c - 60 then .error .expired else .ok claims := by
    rw [hfit.verify_sign, if_pos rfl, judge_members hexp]
  refine ⟨sign keys.secret claims, ?_, fun h => ?_, fun h => ?_, fun other h => ?_⟩
  · rw [issue, hends, Option.map_some]
  · rw [hverify, if_neg (Int.not_lt.2 h)]
  · rw [hverify, if_pos h]
  · rw [hfit.verify_sign, if_neg h]

/-- A quarter of an hour for somebody whose name has to be escaped in every way. -/
theorem issued_tokens_verify_escaped :
    let keys : Keys := ⟨Octets.ofText "secret", ⟨900000000000, by decide, by decide⟩⟩
    let email := "\"\\\n\x01é😀"
    ∃ token, issue keys 42 email .epoch = some token ∧
      verify keys.secret 960 token = .ok ⟨42, email, 0, 900⟩ ∧
      verify keys.secret 961 token = .error .expired ∧
      verify (Octets.ofText "guess") 960 token = .error .wrongSignature := by
  intro keys email
  have hends : Instant.epoch.add? keys.lifetime = some ⟨900000000000, false, by decide, by decide⟩ :=
    rfl
  have hother : Crypto.Sha256.hmac (Octets.ofText "guess") (Claims.signed ⟨42, email, 0, 900⟩) ≠
      Crypto.Sha256.hmac keys.secret (Claims.signed ⟨42, email, 0, 900⟩) := by
    decide +kernel
  obtain ⟨token, hissue, hcounts, -, hsecret⟩ :=
    issued_tokens_verify keys 42 email 960 (by decide) hends (by decide)
  obtain ⟨late, hlate, -, hexpired, -⟩ :=
    issued_tokens_verify keys 42 email 961 (by decide) hends (by decide)
  obtain rfl := Option.some.inj (hissue.symm.trans hlate)
  exact ⟨token, hissue, hcounts (by decide), hexpired (by decide), hsecret _ hother⟩

end Token

end BoxOffice
