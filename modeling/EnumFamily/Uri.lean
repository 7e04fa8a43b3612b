import EnumFamily.Uri.Host
import EnumFamily.Uri.Path

/-!
# Resource identifiers

Identifiers as editors send them: a scheme, an authority, a path, and what
follows it. Reading brings an identifier into its one spelling, so identifiers
are compared as text.

* `Uri.read?`, `Uri.text`: from text and back to it.
* `Uri.filePath?`: the path of the file that is meant.
* `Uri.ofFilePath?`: the identifier of a file.
-/
namespace EnumFamily

/-- Who asks, which machine, and for which of its services. -/
structure Uri.Authority where
  /-- a name, and a password behind a colon -/
  user : String := ""
  host : Option Host := none
  /-- the number of the service, unless it is the usual one of the scheme -/
  service : Option Nat := none
deriving Repr, DecidableEq

structure Uri where
  scheme : String
  /-- what stands behind two slashes, if they are there -/
  authority : Option Uri.Authority
  path : String
  /-- the query and the fragment with their marks -/
  suffix : String
deriving Repr, DecidableEq

namespace Uri

namespace Authority

/-- The user, with a colon only if there is a password. -/
def userText (s : List Char) : String :=
  let name := s.takeWhile (· ≠ ':')
  let password := (s.dropWhile (· ≠ ':')).drop 1
  let escaped (s : List Char) := s.flatMap (Percent.escape Percent.inUserInfo)
  String.ofList (escaped name ++ if password.isEmpty then [] else ':' :: escaped password)

/-- Cuts a text at the last at sign before the first slash. -/
def splitUser (s : List Char) : Option (List Char × List Char) :=
  let head := s.takeWhile (· ≠ '/')
  let host := (head.reverse.takeWhile (· ≠ '@')).reverse
  if head.contains '@' then
    some (head.take (head.length - host.length - 1), host ++ s.dropWhile (· ≠ '/'))
  else none

/-- Cuts a text behind the host: at a slash, or at a colon that does not stand
between brackets. -/
def splitHost (inBrackets : Bool) : List Char → List Char × List Char
  | [] => ([], [])
  | c :: r =>
    if c = '/' || (c = ':' && !inBrackets) then ([], c :: r)
    else
      let inBrackets := if c = '[' then true else if c = ']' then false else inBrackets
      let (host, rest) := splitHost inBrackets r
      (c :: host, rest)

/-- The number of the service that a scheme stands for. -/
def usualService? (scheme : String) : Option Nat :=
  [("http", 80), ("https", 443), ("ws", 80), ("wss", 443), ("ftp", 21)].lookup scheme

/-- Reads the number of a service behind its colon, and what follows it. There may
be no digits. -/
def service? (scheme : String) (s : List Char) : Option (Option Nat × List Char) := do
  let digits := s.takeWhile Char.isDigit
  let rest := s.dropWhile Char.isDigit
  let n ← digitsValue? 10 digits
  if 65535 < n then none
  match rest with
  | [] | '/' :: _ | '\\' :: _ =>
    some (if digits.isEmpty || usualService? scheme = some n then none else some n, rest)
  | _ => none

/-- The host and the service, and what follows them. -/
def hostAndService? (scheme : String) (isWeb : Bool) (s : List Char) :
    Option (Authority × List Char) := do
  let (name, rest) := splitHost false s
  let host ←
    if name.isEmpty then (if isWeb then none else some none)
    else ((if isWeb then Host.read? else Host.readOpaque?) name).map some
  match rest with
  | ':' :: r =>
    if host.isNone then none
    let (service, rest) ← service? scheme r
    some ({ host, service }, rest)
  | _ => some ({ host }, rest)

/-- Reads what stands behind two slashes, and what follows it. `isLast` says that
nothing comes behind the text. A user belongs to a host. -/
def read? (scheme : String) (isWeb isLast : Bool) (s : List Char) :
    Option (Authority × List Char) :=
  match splitUser s with
  | none => hostAndService? scheme isWeb s
  | some (user, rest) => do
    if user.isEmpty && (rest.head? = some '/' || (rest.isEmpty && !isLast)) then none
    let (a, rest) ← hostAndService? scheme isWeb rest
    let user := userText user
    if a.host.isNone && !user.isEmpty then none
    some ({ a with user }, rest)

def text (a : Authority) : String :=
  (if a.user.isEmpty then "" else a.user ++ "@") ++ ((a.host.map Host.text).getD "") ++
    ((a.service.map fun n => ":" ++ toString n).getD "")

end Authority

/-! ## Reading -/

/-- Schemes of the web other than `file`: there is a host in any case, and a
backslash counts as a slash. -/
def isWeb (scheme : String) : Bool := ["http", "https", "ws", "wss", "ftp"].contains scheme

def isSchemeChar (c : Char) : Bool := c.isAlphanum || c = '+' || c = '-' || c = '.'

/-- The scheme in lower case, and what follows its colon. -/
def scheme? (s : List Char) : Option (String × List Char) :=
  match s.takeWhile isSchemeChar, s.dropWhile isSchemeChar with
  | c :: name, ':' :: r =>
    if c.isAlpha then some (String.ofList ((c :: name).map Char.toLower), r) else none
  | _, _ => none

def startsSuffix (c : Char) : Bool := c = '?' || c = '#'

/-- The spelling of the query and the fragment; `reserved` may not stand in the
query. -/
def suffixText (reserved : List Char) (s : List Char) : String :=
  let query := s.takeWhile (· ≠ '#')
  let fragment := s.dropWhile (· ≠ '#')
  String.ofList
    (query.flatMap (Percent.escape reserved) ++ fragment.take 1 ++
      (fragment.drop 1).flatMap (Percent.escape Percent.inFragment))

/-- The authority and the path of a file. The machine itself has no name, and a
drive is on no other machine. -/
def fileParts? (s : List Char) : Option (Option Host × String) :=
  match s with
  | '/' :: '/' :: s =>
    let name := s.takeWhile (· ≠ '/')
    let rest := s.dropWhile (· ≠ '/')
    if name.isEmpty || Path.isDrive name then
      some (none, Path.fileText (Path.read true s))
    else do
      let host ← Host.read? name
      if host = .here then some (none, Path.fileText (Path.read true rest))
      else
        let segments := Path.read true (rest.drop 1)
        let onDrive := (segments.head?.map Path.isDrive).getD false
        some (if onDrive then none else some host, Path.fileText segments)
  | '/' :: s => some (none, Path.fileText (Path.read true s))
  | s => some (none, Path.fileText (Path.read true s))

/-- The path behind an authority; only outside the web it may be missing. -/
def pathAfter (isWeb : Bool) : List Char → String
  | [] => if isWeb then "/" else ""
  | '/' :: s => Path.text (Path.read false s)
  | s => Path.text (Path.read false s)

/-- The authority and the path in a scheme other than `file`. A path without a
slash in front is a word of its own. -/
def otherParts? (scheme : String) (isLast : Bool) (s : List Char) :
    Option (Option Authority × String) :=
  let isWeb := isWeb scheme
  match if isWeb then '/' :: '/' :: s.dropWhile (· = '/') else s with
  | '/' :: '/' :: s => do
    let (authority, rest) ← Authority.read? scheme isWeb isLast s
    some (some authority, pathAfter isWeb rest)
  | '/' :: s => some (none, Path.text (Path.read false s))
  | s => some (none, String.ofList (s.flatMap (Percent.escape [])))

/-- An identifier without control characters and blanks around it, and without
tabs and line breaks in it. -/
def cleaned (s : List Char) : List Char :=
  let outer (c : Char) : Bool := c.toNat ≤ 32
  (((s.dropWhile outer).reverse.dropWhile outer).reverse).filter fun c =>
    c ≠ '\t' && c ≠ '\n' && c ≠ '\r'

/-- Reads an identifier that has a scheme. -/
def read? (text : String) : Option Uri := do
  let (scheme, s) ← scheme? (cleaned text.toList)
  let isKnown := scheme = "file" || isWeb scheme
  let body := s.takeWhile (!startsSuffix ·)
  let tail := s.dropWhile (!startsSuffix ·)
  let suffix := suffixText (Percent.inQuery ++ if isKnown then ['\''] else []) tail
  let body := if isKnown then body.map fun c => if c = '\\' then '/' else c else body
  if scheme = "file" then
    let (host, path) ← fileParts? body
    some { scheme, authority := some { host }, path, suffix }
  else
    let (authority, path) ← otherParts? scheme tail.isEmpty body
    some { scheme, authority, path, suffix }

/-- A path that starts with two slashes is kept apart from an authority. -/
def authorityText (u : Uri) : String :=
  match u.authority with
  | some a => "//" ++ a.text
  | none => if ['/', '/'].isPrefixOf u.path.toList then "/." else ""

def text (u : Uri) : String := u.scheme ++ ":" ++ u.authorityText ++ u.path ++ u.suffix

/-! ## Files -/

def host? (u : Uri) : Option Host := u.authority.bind (·.host)

/-- A path that ends with a drive means the directory at its top. -/
def endsWithDrive (bytes : List UInt8) : Bool :=
  match bytes.reverse with
  | m :: c :: _ :: _ => Path.isDrive [Char.ofNat c.toNat, Char.ofNat m.toNat]
  | _ => false

/-- The path of the file that is meant, if it is one on this machine. Bytes that
are no text name no file, as the empty path does. -/
def filePath? (u : Uri) : Option String :=
  if u.path.toList.head? = some '/' && (u.host? = none || u.host? = some .here) then
    let bytes := Percent.decode u.path.toList
    some ((Percent.text? (if endsWithDrive bytes then bytes ++ [47] else bytes)).getD "")
  else none

def componentText : Component → List Char
  | .root => []
  | .here => ['.']
  | .up => ['.', '.']
  | .name n => n.toList

/-- The identifier of the file at an absolute path. -/
def ofFilePath? (path : String) : Option String :=
  match FilePath.components path with
  | .root :: [] => some "file:///"
  | .root :: components =>
    some ("file://" ++ String.ofList (components.flatMap fun c =>
      '/' :: (componentText c).flatMap (Percent.escape Percent.inSegment)))
  | _ => none

end Uri

end EnumFamily
