set_option autoImplicit false

namespace BoxOffice.Decimal

/-- The decimal digits of `n`, with zeros in front up to `width` digits. -/
def padded (width n : Nat) : String :=
  let digits := toString n
  "".pushn '0' (width - digits.length) ++ digits

def digit? (c : Char) : Option Nat :=
  if '0' ≤ c ∧ c ≤ '9' then some (c.toNat - '0'.toNat) else none

def valueFrom (acc : Nat) : List Char → Option Nat
  | [] => some acc
  | c :: rest => (digit? c).bind fun d => valueFrom (acc * 10 + d) rest

def natural? : List Char → Option Nat
  | [] => none
  | c :: rest => valueFrom 0 (c :: rest)

/-- The values that a field holds. -/
structure Bounds where
  least : Int
  greatest : Int

namespace Bounds

/-- Fields that hold no negative value do not read a minus sign either, not even before a zero. -/
def signed (b : Bounds) : Bool := b.least < 0

def Holds (b : Bounds) (n : Int) : Prop := b.least ≤ n ∧ n ≤ b.greatest

instance (b : Bounds) (n : Int) : Decidable (b.Holds n) :=
  inferInstanceAs (Decidable (_ ∧ _))

def word16 : Bounds := ⟨0, 65535⟩

def word32 : Bounds := ⟨0, 4294967295⟩

def word64 : Bounds := ⟨0, 18446744073709551615⟩

def signed32 : Bounds := ⟨-2147483648, 2147483647⟩

def signed64 : Bounds := ⟨-9223372036854775808, 9223372036854775807⟩

end Bounds

/-- The integer that a text denotes, whatever its size. -/
def denoted? (signed : Bool) : List Char → Option Int
  | '+' :: rest => (natural? rest).map Int.ofNat
  | '-' :: rest => if signed then (natural? rest).map fun n => -(n : Int) else none
  | rest => (natural? rest).map Int.ofNat

/-- An optional sign, digits and nothing else, with a value within the bounds. -/
def integer? (b : Bounds) (text : String) : Option Int :=
  (denoted? b.signed text.toList).filter fun n => decide (b.Holds n)

theorem integer?_eq_some_iff {b : Bounds} {text : String} {n : Int} :
    integer? b text = some n ↔ denoted? b.signed text.toList = some n ∧ b.Holds n := by
  simp [integer?, Option.filter_eq_some_iff]

end BoxOffice.Decimal
