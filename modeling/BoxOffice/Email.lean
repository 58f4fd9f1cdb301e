import BoxOffice.Host
import BoxOffice.Http.Address

set_option autoImplicit false

namespace BoxOffice.Email

def isMailboxChar (c : Char) : Bool :=
  Host.isLetterOrDigit c || ".!#$%&'*+/=?^_`\x7b|\x7d~-".toList.contains c

def isMailbox (text : List Char) : Bool :=
  1 ≤ text.length && text.length ≤ 64 && text.all isMailboxChar

/-- The text ends in an address in brackets. -/
def isLiteral (text : List Char) : Bool :=
  match text.reverse with
  | ']' :: rest =>
    rest.contains '[' && Http.Address.isAddress (rest.takeWhile (· ≠ '[')).reverse
  | _ => false

def isHost (text : List Char) : Bool := Host.isName text || isLiteral text

def split? (text : List Char) : Option (List Char × List Char) :=
  let host := (text.reverse.takeWhile (· ≠ '@')).reverse
  if host.length = text.length then none
  else some (text.take (text.length - host.length - 1), host)

def isValid (email : String) : Bool :=
  match split? email.toList with
  | some (mailbox, host) =>
    isMailbox mailbox && host.length ≤ 255
      && (isHost host || (Host.inAscii host).any isHost)
  | none => false

end BoxOffice.Email
