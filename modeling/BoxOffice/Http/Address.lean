import BoxOffice.Text.Decimal

set_option autoImplicit false

namespace BoxOffice.Http.Address

def isOctet (text : List Char) : Bool :=
  match Decimal.natural? text with
  | some n => n ≤ 255 && (text == ['0'] || text.head? != some '0')
  | none => false

def isFour (text : List Char) : Bool :=
  let parts := text.splitOnP (· = '.')
  parts.length == 4 && parts.all isOctet

def isHexDigit (c : Char) : Bool :=
  ('0' ≤ c && c ≤ '9') || ('a' ≤ c && c ≤ 'f') || ('A' ≤ c && c ≤ 'F')

def isGroup (text : List Char) : Bool :=
  1 ≤ text.length && text.length ≤ 4 && text.all isHexDigit

/-- How many groups a run of groups has; an address of four octets at the end stands for two. -/
def groups? (mayEndInFour : Bool) : List (List Char) → Option Nat
  | [] => some 0
  | [last] =>
    if isGroup last then some 1 else if mayEndInFour && isFour last then some 2 else none
  | part :: rest => if isGroup part then (groups? mayEndInFour rest).map (· + 1) else none

/-- A run of groups with single colons between them; it may be empty. -/
def runLength? (mayEndInFour : Bool) (text : List Char) : Option Nat :=
  if text.isEmpty then some 0 else groups? mayEndInFour (text.splitOnP (· = ':'))

def splitGap : List Char → Option (List Char × List Char)
  | ':' :: ':' :: rest => some ([], rest)
  | c :: rest => (splitGap rest).map fun (before, behind) => (c :: before, behind)
  | [] => none

/-- A double colon stands for at least one group of zeros. -/
def isEight (text : List Char) : Bool :=
  match splitGap text with
  | none => runLength? true text == some 8
  | some (before, behind) =>
    match runLength? false before, runLength? true behind with
    | some m, some n => m + n ≤ 7
    | _, _ => false

def isAddress (text : List Char) : Bool := isFour text || isEight text

end BoxOffice.Http.Address
