set_option autoImplicit false

/-!
# Binary digits of π

The fraction of π as words of 32 bits, from 16 arctan (1/5) - 4 arctan (1/239). Each term of the
two series is rounded down, so the sum is computed with spare digits that are cut off at the end.
-/

namespace BoxOffice.Crypto.Pi

/-- The terms `t / n - t / x² / (n + 2) + …` until they vanish, for `x = root + 2`. -/
def series (root t n : Nat) : Nat :=
  if _h : t = 0 then 0
  else t / n - series root (t / ((root + 2) * (root + 2))) (n + 2)
termination_by t
decreasing_by
  exact Nat.div_lt_self (Nat.pos_of_ne_zero _h)
    (Nat.lt_of_lt_of_le (by decide) (Nat.mul_le_mul (Nat.le_add_left 2 root) (Nat.le_add_left 2 root)))

/-- `scale` times the arc tangent of `1 / x`, rounded. -/
def arctan (x scale : Nat) : Nat := series (x - 2) (scale / x) 1

def fraction (bits : Nat) : Nat :=
  let scale := Nat.pow 2 (bits + 64)
  (16 * arctan 5 scale - 4 * arctan 239 scale - 3 * scale) / Nat.pow 2 64

def words (count : Nat) : Array UInt32 :=
  let digits := fraction (32 * count)
  Array.ofFn fun i : Fin count => UInt32.ofNat (digits >>> (32 * (count - 1 - i)))

end BoxOffice.Crypto.Pi
