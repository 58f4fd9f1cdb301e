import BoxOffice.Text.Octets

set_option autoImplicit false

namespace BoxOffice

inductive Json where
  | null
  | bool (value : Bool)
  | int (value : Int)
  | text (value : String)
  | array (items : List Json)
  | object (members : List (String × Json))
deriving Inhabited

namespace Json

/-- A value that may be absent; absence is written as `null`. -/
def optional {α : Type} (write : α → Json) : Option α → Json
  | none => null
  | some value => write value

def hexDigit (n : Nat) : Char :=
  if n < 10 then Char.ofNat ('0'.toNat + n) else Char.ofNat ('a'.toNat + (n - 10))

def escape (c : Char) : List Char :=
  if c = '"' then ['\\', '"']
  else if c = '\\' then ['\\', '\\']
  else if c.toNat = 8 then ['\\', 'b']
  else if c.toNat = 9 then ['\\', 't']
  else if c.toNat = 10 then ['\\', 'n']
  else if c.toNat = 12 then ['\\', 'f']
  else if c.toNat = 13 then ['\\', 'r']
  else if c.toNat < 32 then
    ['\\', 'u', '0', '0', hexDigit (c.toNat / 16), hexDigit (c.toNat % 16)]
  else [c]

def quote (text : String) : List Char :=
  '"' :: (text.toList.flatMap escape ++ ['"'])

mutual

def chars : Json → List Char
  | null => "null".toList
  | bool true => "true".toList
  | bool false => "false".toList
  | int value => (toString value).toList
  | text value => quote value
  | array items => '[' :: (itemChars items ++ [']'])
  | object members => '{' :: (memberChars members ++ ['}'])
termination_by structural value => value

def itemChars : List Json → List Char
  | [] => []
  | [item] => item.chars
  | item :: rest => item.chars ++ ',' :: itemChars rest
termination_by structural items => items

def memberChars : List (String × Json) → List Char
  | [] => []
  | [member] => pairChars member
  | member :: rest => pairChars member ++ ',' :: memberChars rest
termination_by structural members => members

def pairChars : String × Json → List Char
  | (name, value) => quote name ++ ':' :: value.chars
termination_by structural member => member

end

def write (value : Json) : String := String.ofList value.chars

theorem toList_write (value : Json) : value.write.toList = value.chars :=
  String.toList_ofList

example : (object [("a", array [int (-5), null]), ("b", text "q\"\n")]).write
    = "\x7b\"a\":[-5,null],\"b\":\"q\\\"\\n\"\x7d" := by decide

end Json

end BoxOffice
