import BoxOffice.Crypto.Base64
import BoxOffice.Crypto.Blowfish
import BoxOffice.Text.Decimal

set_option autoImplicit false

namespace BoxOffice.Crypto

structure PasswordHash where
  cost : Nat
  salt : Octets
  hash : Octets

namespace PasswordHash

def versions : List String := ["2a", "2b", "2x", "2y"]

def plainPairs : List (UInt32 × UInt32) :=
  [(0x4f727068, 0x65616e42), (0x65686f6c, 0x64657253), (0x63727944, 0x6f756274)]

def wordOctets (w : UInt32) : Octets :=
  [(w >>> 24).toUInt8, (w >>> 16).toUInt8, (w >>> 8).toUInt8, w.toUInt8]

def compute (cost : Nat) (salt password : Octets) : Octets :=
  let state := Blowfish.slowState cost salt ((password ++ [0]).take 72)
  let pairs := plainPairs.map fun pair => state.encryptTimes pair 64
  (pairs.flatMap fun pair => wordOctets pair.1 ++ wordOctets pair.2).take 23

/-- The parts between the dollar signs, empty ones left out. -/
def parts (text : String) : List (List Char) :=
  (text.toList.splitOnP (· = '$')).filter fun part => !part.isEmpty

/-- Reads a stored text; the cost must be one that can be paid. -/
def ofText? (text : String) : Option PasswordHash :=
  match parts text with
  | [version, cost, rest] => do
    guard (versions.contains (String.ofList version))
    let cost ← Decimal.integer? .word32 (String.ofList cost)
    guard ((Octets.ofText (String.ofList rest)).length = 53)
    let salt ← Base64.decode Base64.passwordHash (rest.take 22)
    let hash ← Base64.decode Base64.passwordHash (rest.drop 22)
    guard (salt.length = 16)
    guard (4 ≤ cost ∧ cost ≤ 31)
    some ⟨cost.toNat, salt, hash⟩
  | _ => none

def accepts (h : PasswordHash) (password : String) : Bool :=
  compute h.cost h.salt (Octets.ofText password) = h.hash

/-- Whether the password is the one whose hash is stored; a text that cannot be read stores none. -/
def verify (stored password : String) : Bool :=
  match ofText? stored with
  | some h => h.accepts password
  | none => false

end PasswordHash

end BoxOffice.Crypto
