import BoxOffice.Crypto.PasswordHash
import BoxOffice.Proofs.Base64Texts

set_option autoImplicit false

namespace BoxOffice.Crypto

namespace Base64

variable {alphabet : Alphabet}

theorem length_digits (octets : Octets) : (digits octets).length = (octets.length * 4 + 2) / 3 := by
  fun_induction digits octets with
  | case1 a b c rest n ih =>
    simp only [List.length_cons, ih]
    omega
  | case2 a b n => simp only [List.length_cons, List.length_nil]
  | case3 a => simp only [List.length_cons, List.length_nil]
  | case4 => rfl

theorem length_encode (octets : Octets) :
    (encode alphabet octets).length = (octets.length * 4 + 2) / 3 := by
  rw [encode, List.length_map, length_digits]

theorem all_encode (hlength : alphabet.length = 64) {p : Char → Bool}
    (h : alphabet.all p = true) (octets : Octets) : (encode alphabet octets).all p = true := by
  refine List.all_eq_true.2 fun c hc => ?_
  obtain ⟨d, hd, rfl⟩ := List.mem_map.1 hc
  have hin : d < alphabet.length := hlength ▸ digits_lt hd
  rw [List.getD_eq_getElem?_getD, List.getElem?_eq_getElem hin]
  exact List.all_eq_true.1 h _ (List.getElem_mem hin)

end Base64

namespace PasswordHash

open Base64 (passwordHash)

def costText (cost : Nat) : List Char := [(cost / 10).digitChar, (cost % 10).digitChar]

def packed (h : PasswordHash) : List Char :=
  Base64.encode passwordHash h.salt ++ Base64.encode passwordHash h.hash

def text (h : PasswordHash) : String :=
  String.ofList ('$' :: ("2b".toList ++ '$' :: (costText h.cost ++ '$' :: h.packed)))

/-- A cost that can be paid, a salt and a hash of the right lengths. -/
structure Sound (h : PasswordHash) : Prop where
  cost : 4 ≤ h.cost ∧ h.cost ≤ 31
  salt : h.salt.length = 16
  hash : h.hash.length = 23

variable {h : PasswordHash}

def isPart (part : List Char) : Bool := part.all (· != '$')

theorem ne_of_isPart {part : List Char} (h : isPart part = true) :
    ∀ c ∈ part, decide (c = '$') = false :=
  fun c hc => decide_eq_false (bne_iff_ne.1 (List.all_eq_true.1 h c hc))

theorem costText_reads {cost : Nat} (hcost : 4 ≤ cost ∧ cost ≤ 31) :
    isPart (costText cost) = true ∧
      Decimal.integer? .word32 (String.ofList (costText cost)) = some (cost : Int) := by
  have hall : ((List.range 32).all fun cost => cost < 4 || isPart (costText cost) &&
      Decimal.integer? .word32 (String.ofList (costText cost)) == some (cost : Int)) = true := by
    decide +kernel
  have hreads := List.all_eq_true.1 hall cost (List.mem_range.2 (by omega))
  simpa [Nat.not_lt.2 hcost.1] using hreads

theorem all_packed {p : Char → Bool} (hp : passwordHash.all p = true) : h.packed.all p = true := by
  have hlength : passwordHash.length = 64 := by decide
  rw [packed, List.all_append, Base64.all_encode hlength hp, Base64.all_encode hlength hp,
    Bool.and_self]

theorem Sound.length_packed (hs : h.Sound) : h.packed.length = 53 := by
  rw [packed, List.length_append, Base64.length_encode, Base64.length_encode, hs.salt, hs.hash]

theorem Sound.length_octets (hs : h.Sound) :
    (Octets.ofText (String.ofList h.packed)).length = 53 := by
  have hsmall : (h.packed.all fun c => (String.utf8EncodeChar c).length == 1) = true :=
    all_packed (by decide +kernel)
  have hone : ∀ c ∈ h.packed, (String.utf8EncodeChar c).length = 1 :=
    fun c hc => beq_iff_eq.1 (List.all_eq_true.1 hsmall c hc)
  rw [Octets.ofText, String.toList_ofList, List.length_flatMap, List.map_congr_left hone,
    List.map_const', List.sum_replicate_nat, Nat.mul_one, hs.length_packed]

theorem Sound.parts_text (hs : h.Sound) :
    parts h.text = ["2b".toList, costText h.cost, h.packed] := by
  have hversion : isPart "2b".toList = true := by decide
  have hcost := (costText_reads hs.cost).1
  have hpacked : isPart h.packed = true := all_packed (by decide)
  have hsplit : h.text.toList.splitOnP (· = '$') =
      [[], "2b".toList, costText h.cost, h.packed] := by
    rw [text, String.toList_ofList, ← List.nil_append ('$' :: _),
      List.splitOnP_append_cons_of_forall_mem nofun _ rfl,
      List.splitOnP_append_cons_of_forall_mem (ne_of_isPart hversion) _ rfl,
      List.splitOnP_append_cons_of_forall_mem (ne_of_isPart hcost) _ rfl,
      List.splitOnP_eq_singleton (ne_of_isPart hpacked)]
  have hlast : h.packed.isEmpty = false := by
    rw [List.isEmpty_eq_false_iff, ← List.length_pos_iff, hs.length_packed]
    decide
  rw [parts, hsplit]
  simp [costText, hlast]

theorem Sound.ofText?_text (hs : h.Sound) : ofText? h.text = some h := by
  have hlength : (Base64.encode passwordHash h.salt).length = 22 := by
    rw [Base64.length_encode, hs.salt]
  have hsalt : h.packed.take 22 = Base64.encode passwordHash h.salt := List.take_left' hlength
  have hhash : h.packed.drop 22 = Base64.encode passwordHash h.hash := List.drop_left' hlength
  have hdecode : ∀ octets, Base64.decode passwordHash (Base64.encode passwordHash octets) =
    some octets := Base64.decode_encode (by decide) (by decide)
  have hversion : versions.contains (String.ofList "2b".toList) = true := by decide +kernel
  have hcost : (4 : Int) ≤ h.cost ∧ (h.cost : Int) ≤ 31 := by
    have := hs.cost
    omega
  unfold ofText? guard
  rw [hs.parts_text]
  simp only [hversion, (costText_reads hs.cost).2, hs.length_octets, hsalt, hhash, hdecode, hs.salt,
    hcost, if_true, and_self, bind, Option.bind]
  rfl

theorem length_compute (cost : Nat) (salt password : Octets) :
    (compute cost salt password).length = 23 := by
  simp [compute, plainPairs, wordOctets]

def ofPassword (cost : Nat) (salt : Octets) (password : String) : PasswordHash :=
  ⟨cost, salt, compute cost salt (Octets.ofText password)⟩

theorem verify_ofPassword {cost : Nat} {salt : Octets} (hcost : 4 ≤ cost ∧ cost ≤ 31)
    (hsalt : salt.length = 16) (password : String) :
    verify (ofPassword cost salt password).text password = true := by
  have hsound : (ofPassword cost salt password).Sound := ⟨hcost, hsalt, length_compute _ _ _⟩
  rw [verify, hsound.ofText?_text]
  exact decide_eq_true rfl

end PasswordHash

end BoxOffice.Crypto
