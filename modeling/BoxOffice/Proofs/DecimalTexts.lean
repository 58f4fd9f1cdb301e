import BoxOffice.Json.Number
import Mathlib.Tactic.Common

set_option autoImplicit false

namespace BoxOffice.Decimal

theorem isDigit_iff {c : Char} : c.isDigit = true ↔ '0' ≤ c ∧ c ≤ '9' := by
  simp [Char.isDigit, Char.le_def]

theorem isDigit_of_mem {n : Nat} {c : Char} (h : c ∈ Nat.toDigits 10 n) : c.isDigit = true :=
  Nat.isDigit_of_mem_toDigits (by decide) (by decide) h

theorem digit?_of_isDigit {c : Char} (h : c.isDigit = true) :
    digit? c = some (c.toNat - '0'.toNat) :=
  if_pos (isDigit_iff.1 h)

theorem valueFrom_of_isDigit {text : List Char} (h : ∀ c ∈ text, c.isDigit = true) (acc : Nat) :
    valueFrom acc text = some (Nat.ofDigitChars 10 text acc) := by
  induction text generalizing acc with
  | nil => rfl
  | cons c rest ih =>
    rw [valueFrom, digit?_of_isDigit (h c List.mem_cons_self), Option.bind_some,
      ih (fun d hd => h d (List.mem_cons_of_mem _ hd)), Nat.mul_comm]
    rfl

theorem natural?_of_ne_nil {text : List Char} (h : text ≠ []) :
    natural? text = valueFrom 0 text := by
  cases text with
  | nil => exact absurd rfl h
  | cons => rfl

theorem natural?_toDigits (n : Nat) : natural? (Nat.toDigits 10 n) = some n := by
  rw [natural?_of_ne_nil Nat.toDigits_ne_nil, valueFrom_of_isDigit fun c hc => isDigit_of_mem hc,
    Nat.ofDigitChars_ten_toDigits]

theorem exists_toDigits (n : Nat) : ∃ c rest, Nat.toDigits 10 n = c :: rest :=
  List.exists_cons_of_ne_nil Nat.toDigits_ne_nil

theorem eq_zero_of_head {n : Nat} {rest : List Char} (h : Nat.toDigits 10 n = '0' :: rest) :
    n = 0 := by
  induction n using Nat.strongRecOn generalizing rest with
  | ind n ih =>
    rw [Nat.toDigits_eq_if (by decide)] at h
    split at h
    · exact Nat.digitChar_eq_zero.1 (List.cons.inj h).1
    · obtain ⟨c, more, hmore⟩ := exists_toDigits (n / 10)
      rw [hmore, List.cons_append] at h
      obtain rfl := (List.cons.inj h).1
      have := ih (n / 10) (by omega) hmore
      omega

theorem toList_toString (n : Int) : (toString n).toList =
    if n < 0 then '-' :: Nat.toDigits 10 n.natAbs else Nat.toDigits 10 n.natAbs := by
  cases n with
  | ofNat m =>
    change (Nat.repr m).toList = _
    rw [Nat.toList_repr, if_neg (by simp)]
    rfl
  | negSucc m =>
    change ("-" ++ Nat.repr (m + 1)).toList = _
    rw [String.toList_append, Nat.toList_repr, if_pos (Int.negSucc_lt_zero m)]
    rfl

theorem denoted?_toString (n : Int) : denoted? true (toString n).toList = some n := by
  rw [toList_toString]
  split
  · next hn =>
    rw [denoted?, if_pos rfl, natural?_toDigits]
    refine congrArg some (?_ : -(n.natAbs : Int) = n)
    omega
  · next hn =>
    obtain ⟨c, rest, hdigits⟩ := exists_toDigits n.natAbs
    have hc : c.isDigit = true := isDigit_of_mem (hdigits ▸ List.mem_cons_self)
    have hnatural := natural?_toDigits n.natAbs
    rw [hdigits] at hnatural ⊢
    unfold denoted?
    split
    · next heq =>
      cases heq
      cases hc
    · next heq =>
      cases heq
      cases hc
    · rw [hnatural, Option.map_some]
      exact congrArg some (Int.natAbs_of_nonneg (by omega))

def IsRun (digits : List Char) : Prop := digits ≠ [] ∧ ∀ c ∈ digits, c.isDigit = true

/-- An optional sign and a run of digits; a minus sign only if there may be one. -/
inductive Denotes (signed : Bool) : List Char → Int → Prop
  | plain {digits : List Char} (h : IsRun digits) :
    Denotes signed digits (Nat.ofDigitChars 10 digits 0)
  | plus {digits : List Char} (h : IsRun digits) :
    Denotes signed ('+' :: digits) (Nat.ofDigitChars 10 digits 0)
  | minus {digits : List Char} (hsigned : signed = true) (h : IsRun digits) :
    Denotes signed ('-' :: digits) (-(Nat.ofDigitChars 10 digits 0 : Int))

variable {text digits : List Char} {n : Nat} {i : Int} {signed : Bool} {b : Bounds}

theorem digit?_eq_none {c : Char} (h : ¬c.isDigit = true) : digit? c = none :=
  if_neg fun hc => h (isDigit_iff.2 hc)

theorem isDigit_of_valueFrom {acc : Nat} (h : valueFrom acc text = some n) :
    ∀ c ∈ text, c.isDigit = true := by
  induction text generalizing acc with
  | nil => exact nofun
  | cons c rest ih =>
    by_cases hc : c.isDigit = true
    · rw [valueFrom, digit?_of_isDigit hc, Option.bind_some] at h
      exact List.forall_mem_cons.2 ⟨hc, ih h⟩
    · rw [valueFrom, digit?_eq_none hc] at h
      cases h

theorem natural?_eq_some_iff :
    natural? text = some n ↔ IsRun text ∧ n = Nat.ofDigitChars 10 text 0 := by
  cases text with
  | nil => exact ⟨nofun, fun h => absurd rfl h.1.1⟩
  | cons c rest =>
    rw [natural?]
    constructor
    · intro h
      have hall := isDigit_of_valueFrom h
      rw [valueFrom_of_isDigit hall] at h
      exact ⟨⟨nofun, hall⟩, (Option.some.inj h).symm⟩
    · rintro ⟨⟨-, hall⟩, rfl⟩
      exact valueFrom_of_isDigit hall 0

theorem IsRun.natural? (h : IsRun digits) :
    Decimal.natural? digits = some (Nat.ofDigitChars 10 digits 0) :=
  natural?_eq_some_iff.2 ⟨h, rfl⟩

theorem IsRun.not_sign {c : Char} (hc : c.isDigit = false) : ¬IsRun (c :: digits) := fun h => by
  rw [h.2 c List.mem_cons_self] at hc
  cases hc

theorem denoted?_minus :
    denoted? signed ('-' :: digits) =
      if signed then (Decimal.natural? digits).map fun n : Nat => -(n : Int) else none := by
  rw [denoted?]
  cases Decimal.natural? digits <;> rfl

theorem denoted?_eq_some_iff : denoted? signed text = some i ↔ Denotes signed text i := by
  constructor
  · intro h
    unfold denoted? at h
    split at h
    · obtain ⟨n, hn, rfl⟩ := Option.map_eq_some_iff.1 h
      obtain ⟨hrun, rfl⟩ := natural?_eq_some_iff.1 hn
      exact .plus hrun
    · change denoted? signed ('-' :: _) = some i at h
      rw [denoted?_minus] at h
      split at h
      · next hsigned =>
        obtain ⟨n, hn, rfl⟩ := Option.map_eq_some_iff.1 h
        obtain ⟨hrun, rfl⟩ := natural?_eq_some_iff.1 hn
        exact .minus hsigned hrun
      · cases h
    · obtain ⟨n, hn, rfl⟩ := Option.map_eq_some_iff.1 h
      obtain ⟨hrun, rfl⟩ := natural?_eq_some_iff.1 hn
      exact .plain hrun
  · intro h
    cases h with
    | plus hrun => rw [denoted?, hrun.natural?]; rfl
    | minus hsigned hrun => rw [denoted?, if_pos hsigned, hrun.natural?]; rfl
    | plain hrun =>
      unfold denoted?
      split
      · exact absurd hrun (IsRun.not_sign rfl)
      · exact absurd hrun (IsRun.not_sign rfl)
      · rw [hrun.natural?]; rfl

theorem integer?_iff {text : String} :
    integer? b text = some i ↔ Denotes b.signed text.toList i ∧ b.Holds i := by
  rw [integer?_eq_some_iff, denoted?_eq_some_iff]

end BoxOffice.Decimal

namespace BoxOffice.Json.Number

theorem integer?_toString (n : Int) : integer? (toString n).toList = some n := by
  have hzero : (toString n).toList ≠ ['-', '0'] := by
    rw [Decimal.toList_toString]
    split
    · next hn =>
      intro h
      have := Decimal.eq_zero_of_head (List.cons.inj h).2
      omega
    · intro h
      have : '-'.isDigit = true := Decimal.isDigit_of_mem (h ▸ List.mem_cons_self)
      cases this
  rw [integer?, if_neg hzero, Decimal.denoted?_toString]

end BoxOffice.Json.Number
