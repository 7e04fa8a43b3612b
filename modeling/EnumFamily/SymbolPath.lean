/-!
# Symbol paths

A symbol path names an item by segments joined with `::`, as in
`crate::model::Product`. Paths are kept as text, because that is how the
sources, the settings and the reports spell them.

* `qualified`: the path of an item from its enclosing modules.
* `segments`, `lastSegment`: reading a path from the left and from the right.
* `agree`: one path is the other, or its tail from a segment boundary on.
-/
namespace EnumFamily.SymbolPath

/-! ## Characters -/

/-- Cuts at every `::`, from the left. -/
def cut : List Char → List (List Char)
  | [] => [[]]
  | ':' :: ':' :: r => [] :: cut r
  | c :: r =>
    match cut r with
    | [] => [[c]]
    | s :: ss => (c :: s) :: ss

/-- What follows the last `::`, if there is one. -/
def afterLast? : List Char → Option (List Char)
  | [] => none
  | c :: r =>
    match afterLast? r with
    | some t => some t
    | none => if c = ':' ∧ r.head? = some ':' then some r.tail else none

/-- Drops every leading `::`. -/
def dropRoot : List Char → List Char
  | ':' :: ':' :: r => dropRoot r
  | s => s

/-- The tail `short` of `long` starts right after a `::`. -/
def isTailOf (short long : List Char) : Bool :=
  (":".toList ++ ":".toList ++ short).isSuffixOf long

/-- The number of bytes that a text takes in UTF-8. -/
def byteLength : List Char → Nat
  | [] => 0
  | c :: r => c.utf8Size + byteLength r

/-! ## Paths -/

def join (parts : List String) : String := String.intercalate "::" parts

/-- The path of an item declared in the modules `modules` of its package. -/
def qualified (modules : List String) (name : String) : String :=
  join ("crate" :: modules ++ [name])

/-- The segments of a path, empty ones left out. -/
def segments (path : String) : List String :=
  ((cut path.toList).filter (!·.isEmpty)).map String.ofList

def lastSegment (path : String) : String :=
  match afterLast? path.toList with
  | some t => String.ofList t
  | none => path

/-- Two paths agree when, leading `::` apart, they are equal or the shorter
one is the other's tail from a segment boundary on. -/
def agree (a b : String) : Bool :=
  let a := dropRoot a.toList
  let b := dropRoot b.toList
  a == b || (if byteLength a < byteLength b then isTailOf a b else isTailOf b a)

end EnumFamily.SymbolPath
