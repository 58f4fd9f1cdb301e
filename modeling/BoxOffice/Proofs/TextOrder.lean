import BoxOffice.Text.Octets
import Mathlib.Data.List.Lex
import Mathlib.Tactic.SplitIfs

set_option autoImplicit false

/-!
# Texts are in the order of their octets

The first character in which two texts differ decides their order, and the first octet in which
their UTF-8 forms differ lies in that character. Of two characters the one with the greater code has
the greater first octet, or as many octets and the first greater one among the rest. So it makes no
difference whether texts are compared by their characters or by their octets.
-/

namespace BoxOffice.Octets

variable {m n : Nat} {xs ys : Octets} {c d : Char}

theorem cons_lt_cons (hm : m < 256) (hn : n < 256) (h : m < n ∨ m = n ∧ xs < ys) :
    UInt8.ofNat m :: xs < UInt8.ofNat n :: ys := by
  rw [List.cons_lt_cons_iff, UInt8.ofNat_lt_iff_lt hm hn]
  exact h.imp_right fun hrest => ⟨congrArg _ hrest.1, hrest.2⟩

theorem code_lt (c : Char) : c.val.toNat < 1114112 := by
  rcases c.valid with h | h
  · exact Nat.lt_trans h (by decide)
  · exact h.2

theorem utf8EncodeChar_append_lt (h : c < d) (xs ys : Octets) :
    String.utf8EncodeChar c ++ xs < String.utf8EncodeChar d ++ ys := by
  have hlt : c.val.toNat < d.val.toNat := UInt32.lt_iff_toNat_lt.1 (Char.lt_def.1 h)
  have hd := code_lt d
  simp only [String.utf8EncodeChar, apply_ite (· ++ xs), apply_ite (· ++ ys), List.cons_append,
    List.nil_append]
  generalize c.val.toNat = v at hlt
  generalize d.val.toNat = w at hlt hd
  split_ifs
  -- Unless both have as many octets, the first ones are different.
  all_goals try exact cons_lt_cons (by omega) (by omega) (.inl (by omega))
  · refine cons_lt_cons (by omega) (by omega) ?_
    by_cases hfirst : v / 64 = w / 64
    · exact .inr ⟨by omega, cons_lt_cons (by omega) (by omega) (.inl (by omega))⟩
    · exact .inl (by omega)
  · refine cons_lt_cons (by omega) (by omega) ?_
    by_cases hfirst : v / 4096 = w / 4096
    · refine .inr ⟨by omega, cons_lt_cons (by omega) (by omega) ?_⟩
      by_cases hsecond : v / 64 = w / 64
      · exact .inr ⟨by omega, cons_lt_cons (by omega) (by omega) (.inl (by omega))⟩
      · exact .inl (by omega)
    · exact .inl (by omega)
  · refine cons_lt_cons (by omega) (by omega) ?_
    by_cases hfirst : v / 262144 = w / 262144
    · refine .inr ⟨by omega, cons_lt_cons (by omega) (by omega) ?_⟩
      by_cases hsecond : v / 4096 = w / 4096
      · refine .inr ⟨by omega, cons_lt_cons (by omega) (by omega) ?_⟩
        by_cases hthird : v / 64 = w / 64
        · exact .inr ⟨by omega, cons_lt_cons (by omega) (by omega) (.inl (by omega))⟩
        · exact .inl (by omega)
      · exact .inl (by omega)
    · exact .inl (by omega)

theorem flatMap_lt_of_lt {s t : List Char} (h : s < t) :
    s.flatMap String.utf8EncodeChar < t.flatMap String.utf8EncodeChar := by
  induction h with
  | nil =>
    rename_i c rest
    obtain ⟨b, more, hb⟩ := List.exists_cons_of_ne_nil (String.utf8EncodeChar_ne_nil (c := c))
    rw [List.flatMap_cons, hb]
    exact List.nil_lt_cons _ _
  | rel hlt => exact utf8EncodeChar_append_lt hlt _ _
  | cons _ ih => exact List.append_left_lt ih

theorem ofText_lt_iff {a b : String} : ofText a < ofText b ↔ a < b := by
  refine ⟨fun h => ?_, fun h => flatMap_lt_of_lt (String.lt_iff.1 h)⟩
  by_contra hnot
  by_cases hle : a ≤ b
  · obtain rfl := String.le_antisymm hle (String.not_lt.1 hnot)
    exact List.lt_irrefl _ h
  · exact List.lt_asymm h (flatMap_lt_of_lt (String.lt_iff.1 (String.not_le.1 hle)))

example : ofText "A10" < ofText "A2" ∧ ofText "Z" < ofText "a" ∧ ofText "z" < ofText "é" := by
  decide

end BoxOffice.Octets
