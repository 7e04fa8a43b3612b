/-!
# File paths

A path is text: pieces between slashes. Each piece stands for a component or
for nothing (an empty piece, or a dot that is not first). Paths are compared by
their components, and shown as they are spelled.

* `components`: what a path stands for.
* `join`, `parent?`, `ancestors`, `fileName?`, `extension?`: taking apart and
  putting together.
* `relativeTo?`: what is left of a path below another one, as spelled.
-/
namespace EnumFamily

/-- A step of a path: the root directory, a leading dot, two dots, or a name. -/
inductive Component where
  | root
  | here
  | up
  | name (n : String)
deriving Repr, DecidableEq

namespace Component

def rank : Component → Nat
  | root => 0
  | here => 1
  | up => 2
  | name _ => 3

/-- Names come last, ordered by their code points. -/
def le : Component → Component → Bool
  | name a, name b => decide (a ≤ b)
  | a, b => decide (a.rank ≤ b.rank)

def name? : Component → Option String
  | name n => some n
  | _ => none

end Component

namespace FilePath

/-! ## Pieces -/

/-- The parts of a text between its separators. -/
def splitAt (sep : Char) : List Char → List (List Char)
  | [] => [[]]
  | c :: r =>
    match splitAt sep r with
    | [] => [[c]]
    | p :: ps => if c = sep then [] :: p :: ps else (c :: p) :: ps

/-- A piece of a path with the component that it stands for, if any. -/
structure Piece where
  text : String
  component : Option Component
deriving Repr, DecidableEq

/-- What a piece stands for that is not the first one. -/
def innerComponent (text : String) : Option Component :=
  if text = "" ∨ text = "." then none
  else if text = ".." then some .up
  else some (.name text)

/-- What the first piece stands for; an empty one with more behind it is the root. -/
def firstComponent (text : String) (more : Bool) : Option Component :=
  if text = "" then if more then some .root else none
  else if text = "." then some .here
  else innerComponent text

def pieces (path : String) : List Piece :=
  match (splitAt '/' path.toList).map String.ofList with
  | [] => []
  | t :: ts =>
    ⟨t, firstComponent t (!ts.isEmpty)⟩ :: ts.map fun t => ⟨t, innerComponent t⟩

/-- Drops pieces at the end that stand for nothing. -/
def trimEnd (ps : List Piece) : List Piece :=
  (ps.reverse.dropWhile (·.component.isNone)).reverse

/-- The text of pieces; a root alone is a slash. -/
def spell : List Piece → String
  | [⟨_, some .root⟩] => "/"
  | ps => String.intercalate "/" (ps.map (·.text))

/-! ## Components -/

def components (path : String) : List Component :=
  (pieces path).filterMap (·.component)

/-- The names among the components. -/
def names (path : String) : List String :=
  (components path).filterMap Component.name?

def isAbsolute (path : String) : Bool := path.toList.head? = some '/'

/-- Lexicographic order of component lists. -/
def componentsLe : List Component → List Component → Bool
  | [], _ => true
  | _ :: _, [] => false
  | a :: as, b :: bs => if a = b then componentsLe as bs else a.le b

/-- The order in which files are listed: component by component. -/
def le (a b : String) : Bool := componentsLe (components a) (components b)

def same (a b : String) : Bool := components a == components b

/-! ## Taking apart and putting together -/

/-- The path `p` seen from `base`; an absolute path stays itself. -/
def join (base p : String) : String :=
  if isAbsolute p then p
  else if base = "" ∨ base.toList.getLast? = some '/' then base ++ p
  else base ++ "/" ++ p

/-- The path without its last component; none above a root or an empty path. -/
def parent? (path : String) : Option String :=
  match (trimEnd (pieces path)).reverse with
  | [] => none
  | ⟨_, some .root⟩ :: _ => none
  | _ :: ps => some (spell (trimEnd ps.reverse))

/-- The path, its parent, and so on; at most `fuel` parents. -/
def ancestorsUpTo : Nat → String → List String
  | 0, path => [path]
  | fuel + 1, path =>
    path ::
      match parent? path with
      | none => []
      | some p => ancestorsUpTo fuel p

/-- The path and all that lies above it. A path has no more parents than pieces. -/
def ancestors (path : String) : List String :=
  ancestorsUpTo (pieces path).length path

def fileName? (path : String) : Option String :=
  (components path).getLast?.bind Component.name?

/-- What follows the last dot of a name, if something stands before that dot. -/
def nameExtension? (name : String) : Option String :=
  match splitAt '.' name.toList with
  | [] => none
  | [_] => none
  | [[], _] => none
  | ps => ps.getLast?.map String.ofList

def extension? (path : String) : Option String := (fileName? path).bind nameExtension?

/-! ## Below another path -/

/-- The pieces behind those that spell the components `base`. -/
def dropComponents : List Component → List Piece → Option (List Piece)
  | [], ps => some ps
  | _ :: _, [] => none
  | c :: cs, p :: ps =>
    match p.component with
    | none => dropComponents (c :: cs) ps
    | some d => if c = d then dropComponents cs ps else none

/-- What is left of `path` below `base`, as spelled. -/
def relativeTo? (base path : String) : Option String :=
  match components base with
  | [] => some (spell (trimEnd (pieces path)))
  | cs =>
    (dropComponents cs (pieces path)).map fun ps =>
      spell (trimEnd (ps.dropWhile (·.component.isNone)))

end FilePath

end EnumFamily
