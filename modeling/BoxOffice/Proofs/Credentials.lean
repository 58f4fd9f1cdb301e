import BoxOffice.Api.Credentials

set_option autoImplicit false

namespace BoxOffice

theorem eq_ok_of_toOption {ε α : Type} {x : Except ε α} {a : α} (h : x.toOption = some a) :
    x = .ok a := by
  cases x with
  | error e => cases h
  | ok b => exact congrArg _ (Option.some.inj h)

namespace Crypto.Base64

theorem mem_encode {alphabet : Alphabet} {octets : Octets} {c : Char}
    (h : c ∈ encode alphabet octets) : c ∈ alphabet ∨ c = ' ' := by
  obtain ⟨n, -, rfl⟩ := List.mem_map.1 h
  rw [List.getD_eq_getElem?_getD]
  cases hn : alphabet[n]? with
  | none => exact .inr rfl
  | some c => exact .inl (List.mem_of_getElem? hn)

end Crypto.Base64

namespace Token

variable {secret : Octets} {before behind : List Char}

theorem splitLast_eq_none (h : '.' ∉ behind) : splitLast behind = none := by
  induction behind with
  | nil => rfl
  | cons c rest ih =>
    obtain ⟨hc, hrest⟩ := List.ne_and_not_mem_of_not_mem_cons h
    simp only [splitLast, ih hrest, if_neg hc.symm]

theorem splitLast_append (h : '.' ∉ behind) :
    splitLast (before ++ '.' :: behind) = some (before, behind) := by
  induction before with
  | nil => simp only [List.nil_append, splitLast, splitLast_eq_none h, if_true]
  | cons c rest ih => simp only [List.cons_append, splitLast, ih]

theorem dot_notMem_encode (octets : Octets) :
    '.' ∉ Crypto.Base64.encode Crypto.Base64.urlSafe octets := fun h => by
  rcases Crypto.Base64.mem_encode h with h | h
  · exact absurd h (by decide)
  · exact absurd h (by decide)

theorem dot_notMem_part (text : String) : '.' ∉ part text := dot_notMem_encode _

end Token

namespace Http

variable {value : Octets} {text : String}

theorem first?_cons {name wanted : String} (h : (name.toLower == wanted.toLower) = true)
    (fields : Headers) : Headers.first? ((name, value) :: fields) wanted = some value := by
  simp only [Headers.first?, List.find?_cons, h, Option.map_some]

theorem Headers.first?_eq_some_iff {headers : Headers} {wanted lower : String}
    (hlower : wanted.toLower = lower) :
    headers.first? wanted = some value ↔
      ∃ before name after, headers = before ++ (name, value) :: after ∧
        (∀ field ∈ before, field.1.toLower ≠ lower) ∧ name.toLower = lower := by
  unfold Headers.first?
  rw [hlower, Option.map_eq_some_iff]
  simp only [List.find?_eq_some_iff_append, beq_iff_eq, Bool.not_eq_true', beq_eq_false_iff_ne]
  constructor
  · rintro ⟨⟨name, value'⟩, ⟨hname, before, after, hheaders, hbefore⟩, rfl⟩
    exact ⟨before, name, after, hheaders, hbefore, hname⟩
  · rintro ⟨before, name, after, hheaders, hbefore, hname⟩
    exact ⟨(name, value), ⟨hname, before, after, hheaders, hbefore⟩, rfl⟩

theorem Headers.first?_eq_none_iff {headers : Headers} {wanted lower : String}
    (hlower : wanted.toLower = lower) :
    headers.first? wanted = none ↔ ∀ field ∈ headers, field.1.toLower ≠ lower := by
  unfold Headers.first?
  rw [hlower, Option.map_eq_none_iff]
  simp only [List.find?_eq_none, beq_iff_eq, ne_eq]

theorem isVisible_iff (b : UInt8) : isVisible b = true ↔ (0x20 ≤ b ∧ b ≤ 0x7e) ∨ b = 9 := by
  have hb : b < 127 ↔ b ≤ 0x7e := by
    rw [UInt8.lt_iff_toNat_lt, UInt8.le_iff_toNat_le]
    exact Nat.lt_succ_iff
  simp only [isVisible, Bool.or_eq_true, Bool.and_eq_true, decide_eq_true_eq, beq_iff_eq, hb]

theorem visibleText?_eq_some_iff :
    visibleText? value = some text ↔ (∀ b ∈ value, (0x20 ≤ b ∧ b ≤ 0x7e) ∨ b = 9) ∧
      (value.map fun b => Char.ofNat b.toNat) = text.toList := by
  unfold visibleText?
  simp only [← isVisible_iff, ← List.all_eq_true]
  split
  · rename_i h
    rw [Option.some.injEq, ← String.toList_inj, String.toList_ofList]
    exact (and_iff_right h).symm
  · rename_i h
    exact ⟨nofun, fun hv => absurd hv.1 h⟩

def fieldOctets (text : List Char) : Octets := text.map fun c => UInt8.ofNat c.toNat

def isPlain (c : Char) : Bool := 0x20 ≤ c.toNat && c.toNat ≤ 0x7e

theorem isPlain_iff {c : Char} : isPlain c = true ↔ 0x20 ≤ c.toNat ∧ c.toNat ≤ 0x7e := by
  simp only [isPlain, Bool.and_eq_true, decide_eq_true_eq]

theorem toNat_plain {c : Char} (h : isPlain c = true) : (UInt8.ofNat c.toNat).toNat = c.toNat :=
  UInt8.toNat_ofNat_of_lt' (Nat.lt_of_le_of_lt (isPlain_iff.1 h).2 (by decide))

theorem visible_fieldOctets {text : List Char} (h : text.all isPlain = true) :
    ∀ b ∈ fieldOctets text, (0x20 ≤ b ∧ b ≤ 0x7e) ∨ b = 9 := by
  intro b hb
  obtain ⟨c, hc, rfl⟩ := List.mem_map.1 hb
  have hplain := List.all_eq_true.1 h c hc
  left
  rw [UInt8.le_iff_toNat_le, UInt8.le_iff_toNat_le, toNat_plain hplain]
  exact isPlain_iff.1 hplain

theorem map_fieldOctets {text : List Char} (h : text.all isPlain = true) :
    ((fieldOctets text).map fun b => Char.ofNat b.toNat) = text := by
  unfold fieldOctets
  rw [List.map_map]
  refine (List.map_congr_left fun c hc => ?_).trans (List.map_id text)
  change Char.ofNat (UInt8.ofNat c.toNat).toNat = c
  rw [toNat_plain (List.all_eq_true.1 h c hc), Char.ofNat_toNat]

end Http

namespace Token

theorem isPlain_encode (octets : Octets) :
    (Crypto.Base64.encode Crypto.Base64.urlSafe octets).all Http.isPlain = true := by
  have hdigits : Crypto.Base64.urlSafe.all Http.isPlain = true := by decide
  refine List.all_eq_true.2 fun c hc => ?_
  rcases Crypto.Base64.mem_encode hc with hc | rfl
  · exact List.all_eq_true.1 hdigits c hc
  · decide

theorem isPlain_parts (header body mac : Octets) :
    (Crypto.Base64.encode Crypto.Base64.urlSafe header ++ '.' ::
      (Crypto.Base64.encode Crypto.Base64.urlSafe body ++ '.' ::
        Crypto.Base64.encode Crypto.Base64.urlSafe mac)).all Http.isPlain = true := by
  have hdot : Http.isPlain '.' = true := rfl
  simp only [List.all_append, List.all_cons, isPlain_encode, hdot, Bool.and_self]

theorem isPlain_sign (secret : Octets) (claims : Claims) :
    (sign secret claims).toList.all Http.isPlain = true := by
  rw [sign, String.toList_ofList, message, List.append_assoc]
  exact isPlain_parts _ _ _

end Token

namespace Api

variable {secret : Octets} {now user : Int} {headers : Http.Headers} {e : ApiError}

/-- The first `Authorization` field is visible, and it brings a token that counts at the second
`now`. -/
def Bears (secret : Octets) (now : Int) (headers : Http.Headers) (claims : Token.Claims) : Prop :=
  ∃ value token, headers.first? "Authorization" = some value ∧
    (∀ b ∈ value, (0x20 ≤ b ∧ b ≤ 0x7e) ∨ b = 9) ∧
    (value.map fun b => Char.ofNat b.toNat) = "Bearer ".toList ++ token ∧
    Token.verify secret now (String.ofList token) = .ok claims

theorem isPlain_bearer {token : List Char} (h : token.all Http.isPlain = true) :
    ("Bearer ".toList ++ token).all Http.isPlain = true := by
  have hscheme : "Bearer ".toList.all Http.isPlain = true := by decide
  rw [List.all_append, hscheme, h, Bool.and_self]

theorem bears_sign {claims issued : Token.Claims}
    (hfield : headers.first? "Authorization" =
      some (Http.fieldOctets ("Bearer ".toList ++ (Token.sign secret issued).toList)))
    (hverify : Token.verify secret now (Token.sign secret issued) = .ok claims) :
    Bears secret now headers claims := by
  have hplain := isPlain_bearer (Token.isPlain_sign secret issued)
  exact ⟨_, _, hfield, Http.visible_fieldOctets hplain, Http.map_fieldOctets hplain,
    by rw [String.ofList_toList, hverify]⟩

theorem bears_iff {claims : Token.Claims} :
    Bears secret now headers claims ↔
      ∃ text token, (headers.first? "Authorization").bind Http.visibleText? = some text ∧
        text.toList = "Bearer ".toList ++ token ∧
        Token.verify secret now (String.ofList token) = .ok claims := by
  simp only [Option.bind_eq_some_iff, Http.visibleText?_eq_some_iff]
  constructor
  · rintro ⟨value, token, hvalue, hvisible, htext, hverify⟩
    refine ⟨String.ofList ("Bearer ".toList ++ token), token, ⟨value, hvalue, hvisible, ?_⟩, ?_,
      hverify⟩
    · exact htext.trans String.toList_ofList.symm
    · exact String.toList_ofList
  · rintro ⟨text, token, ⟨value, hvalue, hvisible, hvisibleText⟩, htext, hverify⟩
    exact ⟨value, token, hvalue, hvisible, hvisibleText.trans htext, hverify⟩

theorem eq_bearer_append_iff {text token : List Char} :
    text = "Bearer ".toList ++ token ↔
      "Bearer ".toList.isPrefixOf text = true ∧ text.drop 7 = token := by
  have hdrop : ∀ rest, ("Bearer ".toList ++ rest).drop 7 = rest := fun _ => List.drop_left' rfl
  rw [List.isPrefixOf_iff_prefix]
  constructor
  · rintro rfl
    exact ⟨List.prefix_append _ _, hdrop token⟩
  · rintro ⟨⟨rest, rfl⟩, rfl⟩
    rw [hdrop]

theorem caller_eq_ok_iff :
    caller secret now headers = .ok user ↔
      ∃ claims, Bears secret now headers claims ∧ claims.userId = user := by
  simp only [bears_iff, eq_bearer_append_iff]
  unfold caller
  cases (headers.first? "Authorization").bind Http.visibleText? with
  | none => exact ⟨nofun, fun ⟨_, ⟨_, _, h, _⟩, _⟩ => by cases h⟩
  | some text =>
    simp only [Option.some.injEq]
    split
    · rename_i hstart
      constructor
      · intro h
        split at h
        · rename_i claims hverify
          cases h
          exact ⟨claims, ⟨text, _, rfl, ⟨hstart, rfl⟩, hverify⟩, rfl⟩
        · cases h
      · rintro ⟨claims, ⟨_, _, rfl, ⟨-, rfl⟩, hverify⟩, rfl⟩
        rw [hverify]
    · rename_i hstart
      refine ⟨nofun, ?_⟩
      rintro ⟨_, ⟨_, _, rfl, ⟨h, -⟩, -⟩, -⟩
      exact absurd h hstart

theorem status_of_caller_eq_error (h : caller secret now headers = .error e) : e.status = 401 := by
  unfold caller at h
  split at h
  · cases h
    rfl
  · split at h
    · split at h <;> cases h
      rfl
    · cases h
      rfl

theorem bookingKey_some {key : String} (h : bookingKey headers = .ok (some key)) :
    key ≠ "" ∧ key.length ≤ longestKey := by
  unfold bookingKey at h
  split at h
  · cases h
  · split at h
    · cases h
    · simp only at h
      split at h
      · cases h
      · rename_i text _ hlength
        split at h
        · cases h
        · rename_i hne
          cases h
          refine ⟨fun hk => hne ?_, ?_⟩
          · rw [← String.toList_ofList (l := trimmed text.toList), hk]
            rfl
          · rw [String.length_ofList]
            exact Nat.le_of_not_lt hlength

theorem status_of_bookingKey_eq_error (h : bookingKey headers = .error e) : e.status = 400 := by
  unfold bookingKey at h
  split at h
  · cases h
  · split at h
    · cases h
      rfl
    · simp only at h
      split at h <;> cases h
      rfl

end Api

end BoxOffice
