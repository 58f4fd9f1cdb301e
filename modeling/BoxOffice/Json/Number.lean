import BoxOffice.Json.Lexeme
import BoxOffice.Text.Decimal

set_option autoImplicit false

/-!
# Numbers of a JSON text

A number is read as a significand of 64 bits and a power of ten. The significand takes digits as
long as they fit: whole digits that no longer fit raise the power, digits of the fraction that no
longer fit are dropped. The value is the product of the two, each rounded to a double first, and a
product that no double can hold is a `Fault`. So a number just below the greatest double may be
refused, and one with a power that is too long to be read is refused before its last digit.
-/

namespace BoxOffice.Json.Number

structure Parts where
  whole : List Nat
  fraction : List Nat
  /-- The power of ten is below zero. -/
  lowers : Bool
  power : List Nat

def isMark (c : Char) : Bool := c == 'e' || c == 'E'

def parts (literal : List Char) : Parts :=
  let mantissa := literal.takeWhile fun c => !isMark c
  let power := literal.dropWhile fun c => !isMark c
  { whole := (mantissa.takeWhile (· != '.')).filterMap Decimal.digit?
    fraction := (mantissa.dropWhile (· != '.')).filterMap Decimal.digit?
    lowers := power.contains '-'
    power := power.filterMap Decimal.digit? }

/-- Reads digits on from `start` while the value is within `most`; the digits behind are left. -/
def fill (most start : Nat) : List Nat → Nat × List Nat
  | [] => (start, [])
  | d :: digits =>
    if start * 10 + d ≤ most then fill most (start * 10 + d) digits else (start, d :: digits)

def mostSignificand : Nat := Nat.pow 2 64 - 1

def mostPower : Nat := Nat.pow 2 31 - 1

/-- The significand, and the power of ten without the one that is written. -/
def Parts.significand (p : Parts) : Nat × Int :=
  let (n, excess) := fill mostSignificand 0 p.whole
  let (n, dropped) := fill mostSignificand n p.fraction
  (n, excess.length - (p.fraction.length - dropped.length : Nat))

/-- The nearest number of 53 binary digits and zeros behind them; of two the one with the even
digit. -/
def toDouble (n : Nat) : Nat :=
  let unit := Nat.pow 2 (n.log2 - 52)
  let digits := n / unit
  let rest := n % unit
  if unit < 2 * rest ∨ unit = 2 * rest ∧ digits % 2 = 1 then (digits + 1) * unit else digits * unit

/-- No double is so great: from here on numbers are nearer to the power of two beyond them. -/
def beyondDoubles : Nat := Nat.pow 2 1024 - Nat.pow 2 970

/-- The product exceeds the doubles, or the power does. -/
def exceeds (significand : Nat) (power : Int) : Bool :=
  if significand = 0 ∨ power < 0 then false
  else if 308 < power then true
  else beyondDoubles ≤ toDouble significand * toDouble (Nat.pow 10 power.toNat)

def fault? (literal : List Char) : Option Fault :=
  let p := parts literal
  let (n, power) := p.significand
  match fill mostPower 0 p.power with
  | (written, []) =>
    if exceeds n (if p.lowers then power - written else power + written) then some .behind else none
  | (_, _ :: left) =>
    if n = 0 ∨ p.lowers then none else some (if left.isEmpty then .behind else .inside)

/-- The integer that a number is written as; a negative zero is no integer. -/
def integer? (literal : List Char) : Option Int :=
  if literal = ['-', '0'] then none else Decimal.denoted? true literal

end BoxOffice.Json.Number
