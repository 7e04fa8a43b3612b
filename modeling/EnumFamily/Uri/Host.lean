import EnumFamily.Domain
import EnumFamily.Uri.Address

/-!
# Hosts

The machine that an identifier names: a name, or a numeric address.

* `Host.read?`: in the schemes of the web, where names are domains.
* `Host.readOpaque?`: in other schemes, where a name is only text.
* `Host.text`: the spelling that is compared.
-/
namespace EnumFamily.Uri

inductive Host where
  | name (s : String)
  | address4 (a : Address4)
  | address6 (a : Address6)
deriving Repr, DecidableEq

namespace Host

/-- An address in brackets. -/
def bracketed? (s : List Char) : Option Host :=
  if s.getLast? = some ']' then (Address6.read? s.dropLast).map .address6 else none

/-- A domain, or the address that its last label makes of it. -/
def ofDomain? (s : List Char) : Option Host :=
  if s.isEmpty then none
  else if Address4.endsInNumber s then (Address4.read? s).map .address4
  else some (.name (String.ofList s))

def read? : List Char → Option Host
  | '[' :: s => bracketed? s
  | s => do ofDomain? (← Domain.toAscii? (← Percent.decodeText? s).toList)

/-- What may not stand in a name that is only text. -/
def isForbiddenInOpaque (c : Char) : Bool :=
  [Char.ofNat 0, ' ', '#', '/', ':', '<', '>', '?', '@', '[', '\\', ']', '^', '|'].contains c

def readOpaque? : List Char → Option Host
  | '[' :: s => bracketed? s
  | s =>
    if s.any isForbiddenInOpaque then none
    else some (.name (String.ofList (s.flatMap (Percent.escape []))))

def text : Host → String
  | name s => s
  | address4 a => a.text
  | address6 a => "[" ++ a.text ++ "]"

/-- The machine that the program runs on. -/
def here : Host := .name "localhost"

end Host

end EnumFamily.Uri
