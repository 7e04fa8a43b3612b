import EnumFamily.Fault
import EnumFamily.Hierarchy
import EnumFamily.Source.Grammar
import EnumFamily.TypeUnit

/-!
# Units of a source file

Collects from the items of a file its type units and trait declarations. Items
of inline modules count in their module; items inside bodies are not seen.

A unit is made by the first item that concerns its type: a declaration, or an
implementation block for it. Blocks of the type's own items add constants,
blocks of a trait add the trait, and a declaration sets the line.
-/
namespace EnumFamily

/-- What one file contributes. -/
structure Extraction where
  units : List TypeUnit
  traits : List TraitDecl
deriving Repr, DecidableEq

namespace Extraction

def empty : Extraction := { units := [], traits := [] }

/-- The file and module in which items stand. -/
structure Place where
  file : String
  modules : List String

/-- A unit as it is made by an item at a line. -/
def freshUnit (place : Place) (name : String) (line : Nat) : TypeUnit :=
  { name, modules := place.modules, file := place.file, line, constants := [], traits := [],
    declared := false }

/-- Changes the unit of the same module and name as `fresh`, or `fresh` itself
put at the end if there is none. -/
def change (fresh : TypeUnit) (f : TypeUnit → TypeUnit) : List TypeUnit → List TypeUnit
  | [] => [f fresh]
  | u :: us =>
    if u.modules = fresh.modules ∧ u.name = fresh.name then f u :: us
    else u :: change fresh f us

def addType (place : Place) (name : String) (line : Nat) (e : Extraction) : Extraction :=
  { e with
    units := change (freshUnit place name line) (fun u => { u with line, declared := true })
      e.units }

/-- Adds a trait path unless it is there. -/
def withTrait (path : String) (u : TypeUnit) : TypeUnit :=
  if u.traits.contains path then u else { u with traits := u.traits ++ [path] }

def addImpl (place : Place) (b : Source.ImplBlock) (e : Extraction) : Extraction :=
  match b.self.name? with
  | none => e
  | some name =>
    let fresh := freshUnit place name b.line
    match b.trait? with
    | some t =>
      if t.negative then e
      else { e with units := change fresh (withTrait (SymbolPath.join t.segments)) e.units }
    | none =>
      let constants := b.items.filterMap Source.ImplItem.const?
      { e with
        units := change fresh (fun u => { u with constants := u.constants ++ constants })
          e.units }

def addTrait (place : Place) (name : String) (bounds : List Source.Bound) (e : Extraction) :
    Extraction :=
  let decl : TraitDecl :=
    { name, qualifiedName := SymbolPath.qualified place.modules name,
      supertraits := (bounds.filterMap Source.Bound.supertrait?).map SymbolPath.join }
  { e with traits := e.traits ++ [decl] }

mutual

def addItem (place : Place) (e : Extraction) : Source.Item → Extraction
  | .type name line => e.addType place name line
  | .impl block => e.addImpl place block
  | .trait name bounds => e.addTrait place name bounds
  | .module name items => addItems { place with modules := place.modules ++ [name] } e items
  | .other => e

def addItems (place : Place) (e : Extraction) : List Source.Item → Extraction
  | [] => e
  | i :: is => addItems place (addItem place e i) is

end

/-- What the items of a file with module path `modules` contribute. -/
def ofItems (file : String) (modules : List String) (items : List Source.Item) : Extraction :=
  addItems { file, modules } empty items

/-- Reads a source text, or tells where it does not follow the grammar. -/
def ofText (file : String) (modules : List String) (text : String) : Except Fault Extraction :=
  match Source.items text with
  | .ok items => .ok (ofItems file modules items)
  | .error p => .error (.malformed file p.line p.column "unexpected token or end of input")

/-- Like `ofText`; a text that does not follow the grammar contributes nothing. -/
def ofTextOrEmpty (file : String) (modules : List String) (text : String) : Extraction :=
  match ofText file modules text with
  | .ok e => e
  | .error _ => empty

end Extraction

end EnumFamily
