set_option autoImplicit false

/-!
# Labels of other scripts in ASCII

Punycode writes the characters beyond ASCII behind those of ASCII, in ascending order, each by the
number of places that are skipped since the one before. The numbers have digits of a base of 36
whose thresholds follow the numbers seen so far.
-/

namespace BoxOffice.Host.Punycode

def digitChar (d : Nat) : Char :=
  if d < 26 then Char.ofNat ('a'.toNat + d) else Char.ofNat ('0'.toNat + (d - 26))

/-- The least value of a digit that says that another one follows. -/
def threshold (position bias : Nat) : Nat := max 1 (min 26 (position - bias))

theorem threshold_pos (position bias : Nat) : 1 ≤ threshold position bias := by
  unfold threshold
  omega

def adaptFrom (delta bias : Nat) : Nat :=
  if 455 < delta then adaptFrom (delta / 35) (bias + 36) else bias + 36 * delta / (delta + 38)
termination_by delta
decreasing_by omega

def adapt (delta written : Nat) (isFirst : Bool) : Nat :=
  let damped := if isFirst then delta / 700 else delta / 2
  adaptFrom (damped + damped / written) 0

def digits (bias position number : Nat) : List Char :=
  let t := threshold position bias
  if number < t then [digitChar number]
  else
    digitChar (t + (number - t) % (36 - t)) :: digits bias (position + 36) ((number - t) / (36 - t))
termination_by number
decreasing_by
  have := threshold_pos position bias
  exact Nat.lt_of_le_of_lt (Nat.div_le_self _ _) (by omega)

structure Progress where
  /-- What has been written, in reverse. -/
  output : List Char
  delta : Nat
  bias : Nat
  written : Nat

/-- Passes one character of the label while `next` is being written. -/
def pass (basic next : Nat) (p : Progress) (c : Char) : Progress :=
  if c.toNat < next then { p with delta := p.delta + 1 }
  else if c.toNat = next then
    { output := (digits p.bias 36 p.delta).reverse ++ p.output
      delta := 0
      bias := adapt p.delta (p.written + 1) (p.written == basic)
      written := p.written + 1 }
  else p

def writeValue (label : List Char) (basic : Nat) (p : Nat × Progress) (value : Nat) :
    Nat × Progress :=
  let (first, p) := p
  let p := { p with delta := p.delta + (value - first) * (p.written + 1) }
  let p := label.foldl (pass basic value) p
  (value + 1, { p with delta := p.delta + 1 })

def isBasic (c : Char) : Bool := c.toNat < 128

def encode (label : List Char) : List Char :=
  let basic := label.filter isBasic
  let values := ((label.filter fun c => !isBasic c).map Char.toNat).mergeSort.eraseDups
  let start : Progress := ⟨[], 0, 72, basic.length⟩
  let (_, p) := values.foldl (writeValue label basic.length) (128, start)
  basic ++ (if basic.isEmpty then [] else ['-']) ++ p.output.reverse

end BoxOffice.Host.Punycode
