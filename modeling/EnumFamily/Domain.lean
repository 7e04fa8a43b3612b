import EnumFamily.Domain.Direction
import EnumFamily.Domain.Joining
import EnumFamily.Domain.Punycode
import EnumFamily.Domain.Spelling
import EnumFamily.Text.Composition

/-!
# Domains

Names of machines: labels with full stops between them. People write them in any
script, and programs compare them in ASCII, where a label of other characters is
encoded and marked as such. Only one of all labels that look the same is taken.

* `Domain.toAscii?`: the ASCII form of a name, if it is a name of a machine.
-/
namespace EnumFamily.Domain

/-- Stands before an encoded label. -/
def mark : List Char := ['x', 'n', '-', '-']

/-- ASCII characters that no name may hold. -/
def isForbidden (c : Char) : Bool :=
  c.toNat ≤ 32 || c.toNat = 127 ||
    ['%', '#', '/', ':', '<', '>', '?', '@', '[', '\\', ']', '^', '|'].contains c

/-- The one spelling of a text, unless it holds a character that no domain may
hold. -/
def spelled? (s : List Char) : Option (List Char) :=
  (s.mapM spelling?).map fun texts => Text.composed texts.flatten

def startsWithMark : List Char → Bool
  | [] => false
  | c :: _ => 128 ≤ c.toNat && Text.isMark c

structure Label where
  /-- as it is read by people -/
  shown : List Char
  /-- as it is written in ASCII -/
  ascii : List Char
deriving Repr, DecidableEq

namespace Label

/-- The label that an encoded one stands for. It needs the encoding, and it is in
the one spelling already. -/
def decoded? (code : List Char) : Option (List Char) := do
  let shown ← Punycode.decode? code
  if shown.all (·.toNat < 128) || mark.isPrefixOf shown || spelled? shown ≠ some shown then none
  else some shown

/-- Reads a label in its one spelling. -/
def read? (s : List Char) : Option Label := do
  let label : Label ←
    if mark.isPrefixOf s then (decoded? (s.drop mark.length)).map fun shown => ⟨shown, s⟩
    else if s.all (·.toNat < 128) then some ⟨s, s⟩
    else some ⟨s, mark ++ Punycode.encode s⟩
  if startsWithMark label.shown || !Joining.joinersSeen label.shown then none else some label

end Label

/-- The ASCII form of a name. In a name with characters that are written from
right to left, each label is to be of one direction. -/
def toAscii? (s : List Char) : Option (List Char) := do
  let text ← spelled? s
  let labels ← (FilePath.splitAt '.' text).mapM Label.read?
  let turns := labels.any fun l => l.shown.any Direction.turns
  let ascii := ['.'].intercalate (labels.map (·.ascii))
  if turns && !labels.all (fun l => Direction.isReadable l.shown) then none
  else if ascii.any isForbidden then none
  else some ascii

end EnumFamily.Domain
