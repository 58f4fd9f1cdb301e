import BoxOffice.Crypto.Base64
import Mathlib.Data.List.Nodup

set_option autoImplicit false

namespace BoxOffice.Crypto.Base64

theorem uint8_ofNat_eq {n : Nat} {b : UInt8} (h : n % 256 = b.toNat) : UInt8.ofNat n = b := by
  rw [← UInt8.toNat_inj, UInt8.toNat_ofNat']
  exact h

theorem digits_lt {octets : Octets} {d : Nat} (h : d ∈ digits octets) : d < 64 := by
  fun_induction digits octets with
  | case1 a b c rest n ih =>
    have ha := a.toNat_lt
    have hb := b.toNat_lt
    have hc := c.toNat_lt
    simp only [List.mem_cons] at h
    rcases h with rfl | rfl | rfl | rfl | h
    · omega
    · omega
    · omega
    · omega
    · exact ih h
  | case2 a b n =>
    have ha := a.toNat_lt
    have hb := b.toNat_lt
    simp only [List.mem_cons, List.not_mem_nil, or_false] at h
    omega
  | case3 a =>
    have ha := a.toNat_lt
    simp only [List.mem_cons, List.not_mem_nil, or_false] at h
    omega
  | case4 => cases h

theorem octets?_digits (octets : Octets) : octets? (digits octets) = some octets := by
  fun_induction digits octets with
  | case1 a b c rest n ih =>
    have ha := a.toNat_lt
    have hb := b.toNat_lt
    have hc := c.toNat_lt
    have hn : n / 262144 * 262144 + n / 4096 % 64 * 4096 + n / 64 % 64 * 64 + n % 64 = n := by omega
    have first : UInt8.ofNat (n / 65536) = a := uint8_ofNat_eq (by omega)
    have second : UInt8.ofNat (n / 256) = b := uint8_ofNat_eq (by omega)
    have third : UInt8.ofNat n = c := uint8_ofNat_eq (by omega)
    simp only [octets?, ih, hn, first, second, third, bind, Option.bind]
  | case2 a b n =>
    have ha := a.toNat_lt
    have hb := b.toNat_lt
    have hn : n / 1024 * 1024 + n / 16 % 64 * 16 + n % 16 * 4 / 4 = n := by omega
    have first : UInt8.ofNat (n / 256) = a := uint8_ofNat_eq (by omega)
    have second : UInt8.ofNat n = b := uint8_ofNat_eq (by omega)
    rw [octets?, if_pos (by omega), hn]
    simp only [first, second]
  | case3 a =>
    have ha := a.toNat_lt
    have first : UInt8.ofNat (a.toNat / 4 * 4 + a.toNat % 4 * 16 / 16) = a :=
      uint8_ofNat_eq (by omega)
    rw [octets?, if_pos (by omega), first]
  | case4 => rfl

variable {alphabet : Alphabet}

theorem idxOf?_digit (hlength : alphabet.length = 64) (hdistinct : alphabet.Nodup) {d : Nat}
    (hd : d < 64) : alphabet.idxOf? (alphabet.getD d ' ') = some d := by
  have hin : d < alphabet.length := by omega
  rw [List.getD_eq_getElem?_getD, List.getElem?_eq_getElem hin, Option.getD_some,
    List.idxOf?_eq_some_iff]
  refine ⟨hin, rfl, fun j hj heq => ?_⟩
  have := hdistinct.getElem_inj_iff.1 heq
  omega

theorem mapM_digits (hlength : alphabet.length = 64) (hdistinct : alphabet.Nodup) {ds : List Nat}
    (hds : ∀ d ∈ ds, d < 64) :
    (ds.map fun d => alphabet.getD d ' ').mapM alphabet.idxOf? = some ds := by
  induction ds with
  | nil => rfl
  | cons d ds ih =>
    rw [List.map_cons, List.mapM_cons, idxOf?_digit hlength hdistinct (hds d List.mem_cons_self),
      ih fun d' h => hds d' (List.mem_cons_of_mem _ h)]
    rfl

theorem decode_encode (hlength : alphabet.length = 64) (hdistinct : alphabet.Nodup)
    (octets : Octets) : decode alphabet (encode alphabet octets) = some octets := by
  unfold decode encode
  rw [mapM_digits hlength hdistinct fun d h => digits_lt h]
  exact octets?_digits octets

theorem decode_encode_urlSafe (octets : Octets) :
    decode urlSafe (encode urlSafe octets) = some octets :=
  decode_encode (by decide) (by decide) octets

theorem encode_urlSafe_inj {octets octets' : Octets} :
    encode urlSafe octets = encode urlSafe octets' ↔ octets = octets' := by
  refine ⟨fun h => ?_, fun h => by rw [h]⟩
  have hread := congrArg (decode urlSafe) h
  rw [decode_encode_urlSafe, decode_encode_urlSafe] at hread
  exact Option.some.inj hread

end BoxOffice.Crypto.Base64
