/-!
# TOML documents

Values and tables, and how the sections of a document add up to its root
table. A key may be given once; what may be extended, and by what, depends on
how a table came to be (`TableOrigin`).

* `assign`: one pair `a.b.c = value` in a table.
* `Section.addTo`: one header with the pairs below it.
* `ofSections`: the whole document.
-/
namespace EnumFamily

/-- How a table came to be. -/
inductive TableOrigin where
  /-- by its own header -/
  | header
  /-- by the header of a table inside it -/
  | implied
  /-- by a dotted key -/
  | dotted
  /-- one of several tables under the same double-bracket header -/
  | element
  /-- written in braces -/
  | inline
deriving Repr, DecidableEq

inductive Toml where
  | string (s : String)
  | integer (n : Int)
  /-- a numeral with a fraction or an exponent, or one of the special numbers -/
  | float (numeral : String)
  | boolean (b : Bool)
  /-- a date, a time, or both -/
  | moment (text : String)
  | array (items : List Toml)
  | table (origin : TableOrigin) (members : List (String × Toml))
  /-- the tables of a double-bracket header -/
  | tables (elements : List Toml)
deriving Repr, Inhabited

namespace Toml

/-- The members of a table by their names. -/
abbrev Members := List (String × Toml)

/-! ## Looking into a value -/

def asString? : Toml → Option String
  | string s => some s
  | _ => none

def asBool? : Toml → Option Bool
  | boolean b => some b
  | _ => none

/-- The items of an array, and the tables of a double-bracket header. -/
def items? : Toml → Option (List Toml)
  | array items => some items
  | tables elements => some elements
  | _ => none

def members? : Toml → Option Members
  | table _ members => some members
  | _ => none

/-- An array with nothing but strings in it. -/
def strings? (v : Toml) : Option (List String) := v.items?.bind fun items => items.mapM asString?

/-! ## Changing members -/

/-- Puts a new value under a name that is already there. -/
def replace (name : String) (value : Toml) : Members → Members
  | [] => []
  | (n, old) :: rest =>
    if n = name then (n, value) :: rest else (n, old) :: replace name value rest

/-- Puts a value under a name that is not there yet. -/
def insertNew (name : String) (value : Toml) (ms : Members) : Option Members :=
  match ms.lookup name with
  | none => some (ms ++ [(name, value)])
  | some _ => none

/-- Changes the members of the table that a value leads into: itself, or the
last one of several tables. Only tables of an admitted origin may be entered. -/
def within (admitted : TableOrigin → Bool) (f : Members → Option Members) : Toml → Option Toml
  | table o ms => if admitted o then (f ms).map (table o) else none
  | tables elements =>
    match elements.getLast? with
    | some (table o ms) =>
      if admitted o then (f ms).map fun ms => tables (elements.dropLast ++ [table o ms]) else none
    | _ => none
  | _ => none

/-- What a dotted key may pass through. Its last table but the outermost must
be one made by dotted keys; before that, one made by a header of its own stays
closed. -/
def dottedAdmits (last : Bool) (o : TableOrigin) : Bool :=
  if last then o == .dotted else o == .implied || o == .dotted || o == .element

/-- Adds a value under a dotted key. -/
def assign (value : Toml) : List String → Members → Option Members
  | [], _ => none
  | [k], ms => insertNew k value ms
  | k :: next :: more, ms =>
    match ms.lookup k with
    | none => (assign value (next :: more) []).map fun inner => ms ++ [(k, table .dotted inner)]
    | some v =>
      (v.within (dottedAdmits more.isEmpty) fun inner => assign value (next :: more) inner).map
        fun v => replace k v ms

/-- Adds pairs one after the other. -/
def assignAll (pairs : List (List String × Toml)) (ms : Members) : Option Members :=
  pairs.foldlM (fun ms (key, value) => assign value key ms) ms

/-! ## Sections -/

inductive Header where
  /-- single brackets: a table -/
  | table (path : List String)
  /-- double brackets: one more table of several -/
  | element (path : List String)
deriving Repr, DecidableEq

/-- A header with the pairs below it. -/
structure Section where
  header : Header
  pairs : List (List String × Toml)

/-- Changes the members of the table at a path, making the tables on the way.
Tables in braces stay closed. -/
def descend (f : Members → Option Members) : List String → Members → Option Members
  | [], ms => f ms
  | k :: path, ms =>
    match ms.lookup k with
    | none => (descend f path []).map fun inner => ms ++ [(k, table .implied inner)]
    | some v =>
      (v.within (· != .inline) fun inner => descend f path inner).map fun v => replace k v ms

/-- A table may get its header after tables inside it have got theirs. -/
def defineTable (name : String) (pairs : List (List String × Toml)) (ms : Members) :
    Option Members :=
  match ms.lookup name with
  | none => (assignAll pairs []).map fun inner => ms ++ [(name, table .header inner)]
  | some (table .implied inner) =>
    (assignAll pairs inner).map fun inner => replace name (table .header inner) ms
  | some _ => none

def addElement (name : String) (pairs : List (List String × Toml)) (ms : Members) :
    Option Members :=
  match ms.lookup name with
  | none => (assignAll pairs []).map fun inner => ms ++ [(name, tables [table .element inner])]
  | some (tables elements) =>
    (assignAll pairs []).map fun inner =>
      replace name (tables (elements ++ [table .element inner])) ms
  | some _ => none

def Section.addTo (s : Section) (root : Members) : Option Members :=
  match s.header with
  | .table path =>
    path.getLast?.bind fun name => descend (defineTable name s.pairs) path.dropLast root
  | .element path =>
    path.getLast?.bind fun name => descend (addElement name s.pairs) path.dropLast root

/-- The root table of a document: the pairs before the first header, then the
sections. -/
def ofSections (pairs : List (List String × Toml)) (sections : List Section) : Option Members := do
  sections.foldlM (fun root s => s.addTo root) (← assignAll pairs [])

end Toml

end EnumFamily
