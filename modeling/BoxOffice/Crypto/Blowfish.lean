import BoxOffice.Crypto.Pi
import BoxOffice.Text.Octets

set_option autoImplicit false

namespace BoxOffice.Crypto.Blowfish

structure State where
  subkeys : Array UInt32
  boxes : Array UInt32

def piWords : Array UInt32 := Pi.words 1042

def State.initial : State := ⟨piWords.extract 0 18, piWords.extract 18 1042⟩

namespace State

def box (s : State) (n : UInt32) (x : UInt32) : UInt32 :=
  s.boxes.getD (n.toNat * 256 + (x &&& 255).toNat) 0

def mix (s : State) (x : UInt32) : UInt32 :=
  ((s.box 0 (x >>> 24) + s.box 1 (x >>> 16)) ^^^ s.box 2 (x >>> 8)) + s.box 3 x

def rounds (s : State) (left right : UInt32) : Nat → UInt32 × UInt32
  | 0 => (left, right)
  | n + 1 =>
    let left := left ^^^ s.subkeys.getD (15 - n) 0
    rounds s (right ^^^ s.mix left) left n

def encrypt (s : State) (pair : UInt32 × UInt32) : UInt32 × UInt32 :=
  let (left, right) := s.rounds pair.1 pair.2 16
  (right ^^^ s.subkeys.getD 17 0, left ^^^ s.subkeys.getD 16 0)

end State

/-- Octets read as words over and over. -/
structure Cycle where
  octets : Array UInt8
  next : Nat

namespace Cycle

def start (octets : Octets) : Cycle := ⟨octets.toArray, 0⟩

def octet (c : Cycle) : UInt32 × Cycle :=
  let i := if c.next < c.octets.size then c.next else 0
  ((c.octets.getD i 0).toUInt32, { c with next := i + 1 })

def word (c : Cycle) : UInt32 × Cycle :=
  let (w, c) := c.octet
  let (x, c) := c.octet
  let (y, c) := c.octet
  let (z, c) := c.octet
  ((w <<< 24) ||| (x <<< 16) ||| (y <<< 8) ||| z, c)

end Cycle

namespace State

def addKey (subkeys : Array UInt32) (key : Cycle) (i : Nat) : Nat → Array UInt32
  | 0 => subkeys
  | n + 1 =>
    let (w, key) := key.word
    addKey (subkeys.setIfInBounds i (subkeys.getD i 0 ^^^ w)) key (i + 1) n

/-- What overwriting the state carries along. -/
structure Refill where
  state : State
  pair : UInt32 × UInt32
  salt : Cycle

def Refill.next (r : Refill) : Refill :=
  let (x, salt) := r.salt.word
  let (y, salt) := salt.word
  { r with pair := r.state.encrypt (r.pair.1 ^^^ x, r.pair.2 ^^^ y), salt }

def refillSubkeys (r : Refill) (i : Nat) : Nat → Refill
  | 0 => r
  | n + 1 =>
    let r := r.next
    let subkeys := (r.state.subkeys.setIfInBounds i r.pair.1).setIfInBounds (i + 1) r.pair.2
    refillSubkeys { r with state := { r.state with subkeys } } (i + 2) n

def refillBoxes (r : Refill) (i : Nat) : Nat → Refill
  | 0 => r
  | n + 1 =>
    let ⟨⟨subkeys, boxes⟩, pair, salt⟩ := r.next
    let boxes := (boxes.setIfInBounds i pair.1).setIfInBounds (i + 1) pair.2
    refillBoxes ⟨⟨subkeys, boxes⟩, pair, salt⟩ (i + 2) n

/-- Mixes a key in; without a salt the salt is zero. -/
def expand (s : State) (salt key : Octets) : State :=
  let s := { s with subkeys := addKey s.subkeys (.start key) 0 18 }
  (refillBoxes (refillSubkeys ⟨s, (0, 0), .start salt⟩ 0 9) 0 512).state

/-- The key and the salt in turn, `n` times. -/
def stretch (salt key : Octets) (s : State) : Nat → State
  | 0 => s
  | n + 1 => stretch salt key ((s.expand [0] key).expand [0] salt) n

def encryptTimes (s : State) (pair : UInt32 × UInt32) : Nat → UInt32 × UInt32
  | 0 => pair
  | n + 1 => encryptTimes s (s.encrypt pair) n

end State

/-- A state that takes `2 ^ cost` rounds of mixing to reach. -/
def slowState (cost : Nat) (salt key : Octets) : State :=
  State.stretch salt key (State.initial.expand salt key) (Nat.pow 2 cost)

end BoxOffice.Crypto.Blowfish
