import EnumFamily.Text.Search

/-!
# Clusters of names

Sibling constants such as `STATUS_ENABLED` and `STATUS_DISABLED` share the
text before their last separator, their *stem*. Clustering splits a list of
names by stem: the stems stand in order of first appearance, and each cluster
keeps its names in the order, and with the repetitions, of the list.
-/
namespace EnumFamily

/-- The names of a list that share the stem `stem`. -/
structure Cluster where
  stem : String
  members : List String
deriving Repr, DecidableEq

namespace Cluster

/-! ## Stems -/

/-- What stands before the last `sep`, if `sep` occurs. -/
def beforeLast? (sep : Char) : List Char → Option (List Char)
  | [] => none
  | c :: r =>
    match beforeLast? sep r with
    | some k => some (c :: k)
    | none => if c = sep then some [] else none

/-- The text before the last separator, or the whole name without one. -/
def stemOf (sep : Char) (name : String) : String :=
  match beforeLast? sep name.toList with
  | some k => String.ofList k
  | none => name

/-! ## Splitting a list of names -/

/-- The stems of the names in order of first appearance. -/
def stems (sep : Char) (names : List String) : List String :=
  (names.map (stemOf sep)).eraseDups

def ofStem (sep : Char) (names : List String) (stem : String) : Cluster :=
  { stem, members := names.filter (stemOf sep · == stem) }

/-- Every name is in exactly one cluster, the one of its stem. -/
def split (sep : Char) (names : List String) : List Cluster :=
  (stems sep names).map (ofStem sep names)

def find? (clusters : List Cluster) (stem : String) : Option Cluster :=
  clusters.find? (·.stem == stem)

/-- A family has at least two members. -/
def isFamily (c : Cluster) : Bool := 2 ≤ c.members.length

/-! ## Messages -/

/-- The text of a finding, with the marker `{}` where the names go. -/
def messageTemplate : String :=
  "Constants \"\x7b\x7d\" should be extracted to standalone enum class"

/-- A finding names the members, each in double quotes. -/
def messageFor (names : List String) : String :=
  let joined := String.intercalate "\", \"" names
  String.ofList (Text.replaceFirst "\x7b\x7d".toList joined.toList messageTemplate.toList)

def message (c : Cluster) : String := messageFor c.members

end Cluster

end EnumFamily
