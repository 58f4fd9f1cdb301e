import BoxOffice.Proofs.Base64Texts
import BoxOffice.Proofs.Credentials
import BoxOffice.Proofs.JsonRecords

set_option autoImplicit false

namespace BoxOffice

namespace Crypto.Base64

theorem exists_idxOf?_of_mapM {alphabet : Alphabet} {text : List Char} {ns : List Nat}
    (h : text.mapM alphabet.idxOf? = some ns) {c : Char} (hc : c ∈ text) :
    ∃ n, alphabet.idxOf? c = some n := by
  induction text generalizing ns with
  | nil => cases hc
  | cons d rest ih =>
    rw [List.mapM_cons] at h
    obtain ⟨n, hn, h⟩ := Option.bind_eq_some_iff.1 h
    obtain ⟨ms, hms, -⟩ := Option.bind_eq_some_iff.1 h
    rcases List.mem_cons.1 hc with rfl | hc
    · exact ⟨n, hn⟩
    · exact ih hms hc

theorem mem_of_decode {alphabet : Alphabet} {text : List Char} {octets : Octets}
    (h : decode alphabet text = some octets) {c : Char} (hc : c ∈ text) : c ∈ alphabet := by
  obtain ⟨ns, hns, -⟩ := Option.bind_eq_some_iff.1 h
  obtain ⟨n, hn⟩ := exists_idxOf?_of_mapM hns hc
  by_contra hnot
  rw [List.idxOf?_eq_none_iff.2 hnot] at hn
  cases hn

end Crypto.Base64

namespace Json.Reader

variable {α : Type} {read : Reader α} {octets : Octets} {value : α}

theorem oneOf_eq_ok {names : List String} {d : Document} {name : String}
    (h : oneOf names d = .ok name) :
    name ∈ names ∧ (d = .text (.legible name) ∨ d = .object [(some name, .null)] true) := by
  have of_contains : ∀ {found : String},
      (if names.contains found then .ok found else .error ReadError.mismatch) = Except.ok name →
        found = name ∧ name ∈ names := fun {found} hfound => by
    split at hfound
    · next hmem =>
      cases hfound
      exact ⟨rfl, List.contains_iff_mem.1 hmem⟩
    · cases hfound
  unfold oneOf at h
  dsimp only at h
  split at h
  · obtain ⟨found, hfound, h⟩ := bind_eq_ok_iff.1 h
    cases hfound
    obtain ⟨rfl, hmem⟩ := of_contains h
    exact ⟨hmem, .inr rfl⟩
  · obtain ⟨found, hfound, h⟩ := bind_eq_ok_iff.1 h
    obtain ⟨rfl, hmem⟩ := of_contains h
    unfold text at hfound
    split at hfound
    · cases hfound
      exact ⟨hmem, .inl rfl⟩
    · cases hfound

theorem ofOctets_eq_ok_iff : ofOctets read octets = .ok value ↔
    ∃ d, Document.ofOctets octets = (d, true) ∧ read d = .ok value := by
  unfold ofOctets
  obtain ⟨d, alone⟩ := Document.ofOctets octets
  simp only [bind_eq_ok_iff, ended_eq_ok_iff, Prod.mk.injEq]
  constructor
  · rintro ⟨_, hread, _, halone, h⟩
    cases h
    exact ⟨d, ⟨rfl, halone⟩, hread⟩
  · rintro ⟨_, ⟨rfl, halone⟩, hread⟩
    exact ⟨value, hread, (), halone, rfl⟩

end Json.Reader

namespace Token

open Json (Document Reader)
open Json.Reader (Members Place Layout valuesOf Fills)

variable {secret : Octets} {now : Int} {claims : Claims} {registered : Registered}
variable {text before behind : List Char} {ms : Members}

theorem notMem_of_splitLast (h : splitLast text = none) : '.' ∉ text := by
  induction text with
  | nil => exact List.not_mem_nil
  | cons c rest ih =>
    unfold splitLast at h
    split at h
    · cases h
    · next hrest =>
      split at h
      · cases h
      · next hc => exact List.not_mem_cons_of_ne_of_not_mem (Ne.symm hc) (ih hrest)

theorem splitLast_eq_some_iff :
    splitLast text = some (before, behind) ↔ text = before ++ '.' :: behind ∧ '.' ∉ behind := by
  refine ⟨fun h => ?_, fun ⟨htext, hbehind⟩ => htext ▸ splitLast_append hbehind⟩
  induction text generalizing before with
  | nil => cases h
  | cons c rest ih =>
    unfold splitLast at h
    split at h
    · next before' behind' hrest =>
      cases h
      obtain ⟨htext, hbehind⟩ := ih hrest
      exact ⟨congrArg (c :: ·) htext, hbehind⟩
    · next hrest =>
      split at h
      · next hc =>
        cases h
        exact ⟨by rw [hc]; rfl, notMem_of_splitLast hrest⟩
      · cases h

theorem readPart_eq_ok_iff {α : Type} {read : Reader α} {value : α} :
    readPart read text = .ok value ↔
      ∃ octets d, Crypto.Base64.decode Crypto.Base64.urlSafe text = some octets ∧
        Document.ofOctets octets = (d, true) ∧ read d = .ok value := by
  unfold readPart
  cases Crypto.Base64.decode Crypto.Base64.urlSafe text with
  | none => exact ⟨nofun, fun ⟨_, _, h, _⟩ => by cases h⟩
  | some octets =>
    have hpart : (∃ octets' d, some octets = some octets' ∧ Document.ofOctets octets' = (d, true) ∧
        read d = .ok value) ↔ Reader.ofOctets read octets = .ok value := by
      rw [Reader.ofOctets_eq_ok_iff]
      exact ⟨fun ⟨_, d, h, hd⟩ => by cases h; exact ⟨d, hd⟩, fun ⟨d, hd⟩ => ⟨octets, d, rfl, hd⟩⟩
    rw [hpart]
    dsimp only
    cases Reader.ofOctets read octets with
    | error e => exact ⟨nofun, nofun⟩
    | ok value' => exact ⟨fun h => by cases h; rfl, fun h => by cases h; rfl⟩

namespace Header

/-- The place of a member that tells nothing. -/
def extraPlace {α : Type} (name : String) (read : Reader α) : Place Draft where
  Value := Unit
  name := name
  read v := (Reader.optional read v).map fun _ => ()
  get d := if d.seen.contains name then some () else none
  set d _ := { d with seen := name :: d.seen }
  get_set d _ := by simp

theorem field_extraPlace {α : Type} (name : String) (read : Reader α) :
    (extraPlace name read).field = extra name read := by
  have hset : (fun d : Draft => (if d.seen.contains name then some () else none).isSome) =
      fun d => d.seen.contains name := funext fun d => by
    cases d.seen.contains name <;> rfl
  have hread : ∀ (d : Draft) (x : Except Json.ReadError (Option α)),
      ((x.map fun _ => ()) >>= fun _ => Except.ok d) = x >>= fun _ => Except.ok d :=
    fun d x => by cases x <;> rfl
  unfold Place.field extra
  exact congr (congrArg (Reader.Field.mk name) hset) (funext fun d => funext fun v => hread _ _)

def algorithmPlace : Place Draft :=
  ⟨String, "alg", Reader.oneOf algorithms, (·.algorithm), fun d s => { d with algorithm := some s },
    fun _ _ => rfl⟩

def places : List (Place Draft) :=
  [extraPlace "typ" Reader.text, algorithmPlace, extraPlace "cty" Reader.text,
    extraPlace "jku" Reader.text, extraPlace "jwk" PublicKey.reader, extraPlace "kid" Reader.text,
    extraPlace "x5u" Reader.text, extraPlace "x5c" (Reader.list Reader.text),
    extraPlace "x5t" Reader.text, extraPlace "x5t#S256" Reader.text]

theorem eq_or_extra_of_mem {p : Place Draft} (hp : p ∈ places) :
    p = algorithmPlace ∨ ∃ (α : Type) (name : String) (read : Reader α),
      p = extraPlace name read := by
  simp only [places, List.mem_cons, List.not_mem_nil, or_false] at hp
  rcases hp with h | h | h | h | h | h | h | h | h | h
  · exact .inr ⟨_, _, _, h⟩
  · exact .inl h
  all_goals exact .inr ⟨_, _, _, h⟩

def layout : Layout Draft where
  places := places
  nodup := by decide
  get_set_of_ne p hp q hq hne part a := by
    rcases eq_or_extra_of_mem hp with rfl | ⟨α, n, read, rfl⟩ <;>
      rcases eq_or_extra_of_mem hq with rfl | ⟨β, m, read', rfl⟩
    · exact absurd rfl hne
    · rfl
    · rfl
    · have hnm : m ≠ n := Ne.symm hne
      simp [extraPlace, hnm]

theorem fields_layout : layout.fields = fields := by
  simp only [Layout.fields, layout, places, List.map_cons, List.map_nil, field_extraPlace]
  rfl

/-- If the header is an object, the name of the algorithm is its one member of that name. -/
def Names (d : Document) (name : String) : Prop :=
  ∀ ms closed, d = .object ms closed → ∃ v, valuesOf ms "alg" = [v] ∧
    (v = .text (.legible name) ∨ v = .object [(some name, .null)] true)

theorem names_of_algorithm {d : Document} {name : String} (h : algorithm d = .ok name) :
    Names d name := by
  rintro ms closed rfl
  obtain ⟨read, hread, hname⟩ := bind_eq_ok_iff.1 h
  obtain ⟨read', hmembers, hread⟩ := bind_eq_ok_iff.1 hread
  obtain ⟨_, -, hread⟩ := bind_eq_ok_iff.1 hread
  cases hread
  rw [← fields_layout] at hmembers
  have hfills := (Layout.reads_of_members hmembers).fills algorithmPlace (by simp [layout, places])
  have hget : algorithmPlace.get read = some name := Reader.required_eq_ok_iff.1 hname
  rw [hget] at hfills
  obtain ⟨v, hv, hone⟩ := Reader.fills_none_some_iff.1 hfills
  exact ⟨v, hv, (Reader.oneOf_eq_ok hone).2⟩

end Header

namespace Claims

def Draft.layout : Layout Draft where
  places :=
    [⟨Int, "user_id", Reader.int .signed64, (·.userId), fun d n => { d with userId := some n },
        fun _ _ => rfl⟩,
      ⟨String, "email", Reader.text, (·.email), fun d s => { d with email := some s },
        fun _ _ => rfl⟩,
      ⟨Int, "iat", Reader.int .signed64, (·.issuedAt), fun d n => { d with issuedAt := some n },
        fun _ _ => rfl⟩,
      ⟨Int, "exp", Reader.int .signed64, (·.expiresAt), fun d n => { d with expiresAt := some n },
        fun _ _ => rfl⟩]
  nodup := by decide
  get_set_of_ne := by simp

theorem Draft.fields_layout : Draft.layout.fields = Draft.fields := rfl

theorem Draft.eq_of_agree (d d' : Draft) (h : Draft.layout.Agree d d') : d = d' := by
  obtain ⟨u, e, i, x⟩ := d
  obtain ⟨u', e', i', x'⟩ := d'
  simpa [Layout.Agree, Draft.layout] using h

/-- The members tell the claims: each of them stands there once and has its kind, and all the other
members can be passed by. -/
structure Told (ms : Members) (claims : Claims) : Prop where
  others : ∀ m ∈ ms, ∃ name, m.1 = some name ∧
    (name ∈ ["user_id", "email", "iat", "exp"] ∨ m.2.complete = true)
  userId : ∃ v, valuesOf ms "user_id" = [v] ∧ Reader.int .signed64 v = .ok claims.userId
  email : ∃ v, valuesOf ms "email" = [v] ∧ Reader.text v = .ok claims.email
  issuedAt : ∃ v, valuesOf ms "iat" = [v] ∧ Reader.int .signed64 v = .ok claims.issuedAt
  expiresAt : ∃ v, valuesOf ms "exp" = [v] ∧ Reader.int .signed64 v = .ok claims.expiresAt

theorem Draft.claims_eq_ok_iff {d : Draft} : d.claims = .ok claims ↔
    d = ⟨some claims.userId, some claims.email, some claims.issuedAt, some claims.expiresAt⟩ := by
  unfold Draft.claims
  simp only [bind_eq_ok_iff, Reader.required_eq_ok_iff]
  constructor
  · rintro ⟨userId, hu, email, he, issuedAt, hi, expiresAt, hx, h⟩
    cases h
    obtain ⟨u, e, i, x⟩ := d
    obtain rfl : u = _ := hu
    obtain rfl : e = _ := he
    obtain rfl : i = _ := hi
    obtain rfl : x = _ := hx
    rfl
  · rintro rfl
    exact ⟨_, rfl, _, rfl, _, rfl, _, rfl, rfl⟩

theorem members_eq_ok_iff : Reader.members Draft.fields ⟨none, none, none, none⟩ ms =
      .ok ⟨some claims.userId, some claims.email, some claims.issuedAt, some claims.expiresAt⟩ ↔
    Told ms claims := by
  have hplaces : (∀ p ∈ Draft.layout.places, Fills p.read (p.get ⟨none, none, none, none⟩)
      (p.get ⟨some claims.userId, some claims.email, some claims.issuedAt, some claims.expiresAt⟩)
      (valuesOf ms p.name)) ↔
      Fills (Reader.int .signed64) none (some claims.userId) (valuesOf ms "user_id") ∧
        Fills Reader.text none (some claims.email) (valuesOf ms "email") ∧
        Fills (Reader.int .signed64) none (some claims.issuedAt) (valuesOf ms "iat") ∧
        Fills (Reader.int .signed64) none (some claims.expiresAt) (valuesOf ms "exp") := by
    simp only [Draft.layout, List.forall_mem_cons, List.not_mem_nil, false_imp_iff, implies_true,
      and_true]
  simp only [Reader.fills_none_some_iff] at hplaces
  rw [← Draft.fields_layout, Layout.members_eq_ok_iff Draft.eq_of_agree]
  constructor
  · rintro ⟨hnamed, hfills⟩
    obtain ⟨hu, he, hi, hx⟩ := hplaces.1 hfills
    exact ⟨hnamed, hu, he, hi, hx⟩
  · exact fun h => ⟨h.others, hplaces.2 ⟨h.userId, h.email, h.issuedAt, h.expiresAt⟩⟩

theorem reader_object_iff {closed : Bool} :
    reader (.object ms closed) = .ok claims ↔ closed = true ∧ Told ms claims := by
  unfold reader Reader.fields
  simp only [bind_eq_ok_iff, Reader.ended_eq_ok_iff, Draft.claims_eq_ok_iff, ← members_eq_ok_iff]
  constructor
  · rintro ⟨d, ⟨_, hmembers, _, hclosed, h⟩, rfl⟩
    cases h
    exact ⟨hclosed, hmembers⟩
  · rintro ⟨hclosed, hmembers⟩
    exact ⟨_, ⟨_, hmembers, (), hclosed, rfl⟩, rfl⟩

end Claims

theorem payload_eq_ok_iff {d : Document} : payload d = .ok (claims, registered) ↔
    ∃ ms, d = .object ms true ∧ Claims.Told ms claims ∧ (Registered.mk ms).legible = true ∧
      registered = ⟨ms⟩ := by
  unfold payload
  rw [bind_eq_ok_iff]
  constructor
  · rintro ⟨claims', hclaims, h⟩
    split at h
    · next ms closed =>
      obtain ⟨rfl, htold⟩ := Claims.reader_object_iff.1 hclaims
      dsimp only at h
      split at h
      · next hlegible =>
        cases h
        exact ⟨ms, rfl, htold, hlegible, rfl⟩
      · cases h
    · cases h
  · rintro ⟨ms, rfl, htold, hlegible, rfl⟩
    exact ⟨claims, Claims.reader_object_iff.2 ⟨rfl, htold⟩, if_pos hlegible⟩

/-- A text, or a list of nothing but texts. -/
def NamesSomebody (v : Document) : Prop :=
  (∃ s, v = .text (.legible s)) ∨
    ∃ items closed, v = .array items closed ∧ ∀ item ∈ items, ∃ s, item = .text (.legible s)

theorem isAudience_iff {v : Document} : Registered.isAudience v = true ↔ NamesSomebody v := by
  unfold Registered.isAudience NamesSomebody
  split
  · next s => exact ⟨fun _ => .inl ⟨s, rfl⟩, fun _ => rfl⟩
  · next items closed =>
    rw [List.all_eq_true]
    constructor
    · intro h
      refine .inr ⟨items, closed, rfl, fun item hm => ?_⟩
      have hitem := h item hm
      cases item with
      | text reading =>
        cases reading with
        | legible s => exact ⟨s, rfl⟩
        | illegible fault => cases hitem
      | _ => cases hitem
    · rintro (⟨s, hs⟩ | ⟨items', closed', hs, h⟩)
      · cases hs
      · cases hs
        intro item hm
        obtain ⟨s, rfl⟩ := h item hm
        rfl
  · next hs hitems =>
    refine ⟨nofun, ?_⟩
    rintro (⟨s, rfl⟩ | ⟨items, closed, rfl, -⟩)
    · exact absurd rfl (hs s)
    · exact absurd rfl (hitems items closed)

theorem namesAudience_eq_false_iff : (Registered.mk ms).namesAudience = false ↔
    ∀ v ∈ valuesOf ms "aud", ¬NamesSomebody v := by
  have hall : (Registered.mk ms).all "aud" = valuesOf ms "aud" := rfl
  unfold Registered.namesAudience
  rw [hall, List.any_eq_false]
  exact forall₂_congr fun v _ => not_congr isAudience_iff

theorem judge_eq_ok_iff {judged : Claims} : judge now claims registered = .ok judged ↔
    judged = claims ∧ 0 ≤ claims.expiresAt ∧ now - 60 ≤ claims.expiresAt ∧
      registered.namesAudience = false := by
  unfold judge leeway
  split
  · next h => exact ⟨nofun, fun hj => absurd hj.2.1 (Int.not_le.2 h)⟩
  · next hcounts =>
    split
    · next h => exact ⟨nofun, fun hj => absurd hj.2.2.1 (Int.not_le.2 h)⟩
    · next hlate =>
      split
      · next h => exact ⟨nofun, fun hj => by rw [h] at hj; cases hj.2.2.2⟩
      · next h =>
        refine ⟨fun hj => ?_, fun hj => by rw [hj.1]⟩
        cases hj
        exact ⟨rfl, Int.not_lt.1 hcounts, Int.not_lt.1 hlate, Bool.eq_false_iff.2 h⟩

/-- The three parts make a token of the claims that counts at the second `now`. -/
structure Genuine (secret : Octets) (now : Int) (header body mac : List Char) (claims : Claims) :
    Prop where
  undotted : '.' ∉ header ∧ '.' ∉ body ∧ '.' ∉ mac
  signed : mac = Crypto.Base64.encode Crypto.Base64.urlSafe
    (Crypto.Sha256.hmac secret (Octets.ofText (String.ofList (header ++ '.' :: body))))
  algorithm : ∃ octets d, Crypto.Base64.decode Crypto.Base64.urlSafe header = some octets ∧
    Document.ofOctets octets = (d, true) ∧ Header.algorithm d = .ok "HS256" ∧
    Header.Names d "HS256"
  told : ∃ octets ms, Crypto.Base64.decode Crypto.Base64.urlSafe body = some octets ∧
    Document.ofOctets octets = (.object ms true, true) ∧ Claims.Told ms claims ∧
    (Registered.mk ms).legible = true ∧ ∀ v ∈ valuesOf ms "aud", ¬NamesSomebody v
  counts : 0 ≤ claims.expiresAt ∧ now - 60 ≤ claims.expiresAt

theorem elim_eq_ok_iff {ε α : Type} {o : Option α} {e : ε} {a : α} :
    o.elim (.error e) .ok = (.ok a : Except ε α) ↔ o = some a := by
  cases o with
  | none => exact ⟨nofun, nofun⟩
  | some b => exact ⟨fun h => by cases h; rfl, fun h => by cases h; rfl⟩

theorem verify_eq_ok_iff_checks {token : List Char} :
    verify secret now (String.ofList token) = .ok claims ↔
      ∃ m mac header body, splitLast token = some (m, mac) ∧ splitLast m = some (header, body) ∧
        readPart Header.algorithm header = .ok "HS256" ∧ signature secret m = mac ∧
          ∃ registered, readPart payload body = .ok (claims, registered) ∧
            judge now claims registered = .ok claims := by
  unfold verify
  simp only [bind_eq_ok_iff, elim_eq_ok_iff, String.toList_ofList, Prod.exists]
  constructor
  · rintro ⟨m, mac, hm, header, body, hh, algorithm, halg, h⟩
    split at h
    · cases h
    · next hname =>
      split at h
      · cases h
      · next hsig =>
        simp only [bind_eq_ok_iff, Prod.exists] at h
        obtain ⟨claims', registered, hbody, hjudge⟩ := h
        obtain rfl := (judge_eq_ok_iff.1 hjudge).1
        exact ⟨m, mac, header, body, hm, hh, not_not.1 hname ▸ halg, not_not.1 hsig, registered,
          hbody, hjudge⟩
  · rintro ⟨m, mac, header, body, hm, hh, halg, hsig, registered, hbody, hjudge⟩
    refine ⟨m, mac, hm, header, body, hh, "HS256", halg, ?_⟩
    rw [if_neg (not_not.2 rfl), if_neg (not_not.2 hsig), hbody]
    exact hjudge

theorem verify_eq_ok_iff {token : List Char} :
    verify secret now (String.ofList token) = .ok claims ↔
      ∃ header body mac, token = header ++ '.' :: (body ++ '.' :: mac) ∧
        Genuine secret now header body mac claims := by
  rw [verify_eq_ok_iff_checks]
  simp only [splitLast_eq_some_iff, readPart_eq_ok_iff, judge_eq_ok_iff]
  constructor
  · rintro ⟨m, mac, header, body, ⟨rfl, hmac⟩, ⟨rfl, hbody⟩, ⟨octets', d', hoctets', hd', hname⟩,
      hsigned, registered, ⟨octets, d, hoctets, hd, hpayload⟩, -, hnonneg, hlate, haud⟩
    obtain ⟨ms, rfl, htold, hlegible, rfl⟩ := payload_eq_ok_iff.1 hpayload
    -- The splitting leaves dots to the header, but then it could not be decoded.
    have hheader : '.' ∉ header := fun h =>
      absurd (Crypto.Base64.mem_of_decode hoctets' h) (by decide)
    exact ⟨header, body, mac, List.append_assoc _ _ _,
      { undotted := ⟨hheader, hbody, hmac⟩
        signed := hsigned.symm
        algorithm := ⟨octets', d', hoctets', hd', hname, Header.names_of_algorithm hname⟩
        told := ⟨octets, ms, hoctets, hd, htold, hlegible, namesAudience_eq_false_iff.1 haud⟩
        counts := ⟨hnonneg, hlate⟩ }⟩
  · rintro ⟨header, body, mac, rfl, h⟩
    obtain ⟨octets', d', hoctets', hd', hname, -⟩ := h.algorithm
    obtain ⟨octets, ms, hoctets, hd, htold, hlegible, haud⟩ := h.told
    exact ⟨header ++ '.' :: body, mac, header, body,
      ⟨(List.append_assoc header ('.' :: body) ('.' :: mac)).symm, h.undotted.2.2⟩,
      ⟨rfl, h.undotted.2.1⟩, ⟨octets', d', hoctets', hd', hname⟩, h.signed.symm, ⟨ms⟩,
      ⟨octets, .object ms true, hoctets, hd, payload_eq_ok_iff.2 ⟨ms, rfl, htold, hlegible, rfl⟩⟩,
      trivial, h.counts.1, h.counts.2, namesAudience_eq_false_iff.2 haud⟩

end Token

end BoxOffice
