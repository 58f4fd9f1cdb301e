import BoxOffice.Http.Header

set_option autoImplicit false

namespace BoxOffice.Http.MediaType

/-- The characters of a name: those of ASCII that are no blanks, signs of control or separators. -/
def isNameChar (c : Char) : Bool :=
  33 ≤ c.toNat && c.toNat < 127 && !"()<>@,;:\\\"/[]?=\x7b\x7d".toList.contains c

def isName (text : List Char) : Bool := !text.isEmpty && text.all isNameChar

/-- A value in quotes, in which a backslash protects the next character. -/
def isQuoted : List Char → Bool
  | ['"'] => true
  | '\\' :: _ :: rest => isQuoted rest
  | '"' :: _ => false
  | _ :: rest => isQuoted rest
  | [] => false

def isParameter (text : List Char) : Bool :=
  let text := text.dropWhile (· = ' ')
  let name := text.takeWhile (· ≠ '=')
  match text.dropWhile (· ≠ '=') with
  | '=' :: '"' :: rest => isName name && isQuoted rest
  | '=' :: value => isName name && isName value
  | _ => false

def parts (text : String) : Option (List Char × List Char × List (List Char)) :=
  match text.toLower.toList.splitOnP (· = ';') with
  | [] => none
  | essence :: parameters =>
    let essence := (essence.reverse.dropWhile (· = ' ')).reverse
    let kind := essence.takeWhile (· ≠ '/')
    match essence.dropWhile (· ≠ '/') with
    | '/' :: subtype => some (kind, subtype, parameters)
    | _ => none

def suffixed (subtype : List Char) : List Char × Option (List Char) :=
  match subtype.reverse.dropWhile (· ≠ '+') with
  | '+' :: c :: rest =>
    ((c :: rest).reverse, some (subtype.reverse.takeWhile (· ≠ '+')).reverse)
  | _ => (subtype, none)

def isJson (text : String) : Bool :=
  match parts text with
  | some (kind, subtype, parameters) =>
    let (base, suffix) := suffixed subtype
    kind == "application".toList && isName subtype && parameters.all isParameter
      && (base == "json".toList || suffix == some "json".toList)
  | none => false

example : ["application/json", "Application/a+b+JSON; a=b", "application/json+xml",
    "application/+json", "text/json"].map isJson = [true, true, true, false, false] := by
  cbv

def announcesJson (headers : Headers) : Bool :=
  match (headers.first? "Content-Type").bind visibleText? with
  | some text => isJson text
  | none => false

end BoxOffice.Http.MediaType
