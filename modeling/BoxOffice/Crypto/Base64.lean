import BoxOffice.Text.Octets

set_option autoImplicit false

namespace BoxOffice.Crypto.Base64

abbrev Alphabet := List Char

/-- The alphabet whose signs need no escape in an address. -/
def urlSafe : Alphabet :=
  "ABCDEFGHIJKLMNOPQRSTUVWXYZabcdefghijklmnopqrstuvwxyz0123456789-_".toList

def passwordHash : Alphabet :=
  "./ABCDEFGHIJKLMNOPQRSTUVWXYZabcdefghijklmnopqrstuvwxyz0123456789".toList

/-- Six bits at a time; the last group is filled with zeros. -/
def digits : Octets → List Nat
  | a :: b :: c :: rest =>
    let n := a.toNat * 65536 + b.toNat * 256 + c.toNat
    n / 262144 :: n / 4096 % 64 :: n / 64 % 64 :: n % 64 :: digits rest
  | [a, b] =>
    let n := a.toNat * 256 + b.toNat
    [n / 1024, n / 16 % 64, n % 16 * 4]
  | [a] => [a.toNat / 4, a.toNat % 4 * 16]
  | [] => []

def octets? : List Nat → Option Octets
  | a :: b :: c :: d :: rest => do
    let n := a * 262144 + b * 4096 + c * 64 + d
    let more ← octets? rest
    some (UInt8.ofNat (n / 65536) :: UInt8.ofNat (n / 256) :: UInt8.ofNat n :: more)
  | [a, b, c] =>
    if c % 4 = 0 then
      let n := a * 1024 + b * 16 + c / 4
      some [UInt8.ofNat (n / 256), UInt8.ofNat n]
    else none
  | [a, b] => if b % 16 = 0 then some [UInt8.ofNat (a * 4 + b / 16)] else none
  | [_] => none
  | [] => some []

def encode (alphabet : Alphabet) (octets : Octets) : List Char :=
  (digits octets).map fun n => alphabet.getD n ' '

def decode (alphabet : Alphabet) (text : List Char) : Option Octets :=
  (text.mapM alphabet.idxOf?).bind octets?

end BoxOffice.Crypto.Base64
