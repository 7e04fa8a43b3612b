import EnumFamily.SymbolPath

/-!
# Type units

A unit is a type as the sources show it: where it stands, its constants and
the traits that it implements. Sources are read file by file, so an
implementation block in another file than the type's declaration first gives a
unit of its own; `merge` folds such units into the declared ones.
-/
namespace EnumFamily

structure TypeUnit where
  name : String
  modules : List String
  file : String
  line : Nat
  constants : List String
  traits : List String
  /-- the declaration of the type itself was seen -/
  declared : Bool
deriving Repr, DecidableEq

namespace TypeUnit

def qualifiedName (u : TypeUnit) : String := SymbolPath.qualified u.modules u.name

/-! ## Merging -/

/-- The positions of the declared units that satisfy `p`. -/
def declaredAt (units : List TypeUnit) (p : TypeUnit → Bool) : List Nat :=
  (units.zipIdx.filter fun (d, _) => d.declared && p d).map (·.2)

/-- The position of the unit that takes over unit `u` at position `i`. A
declared unit stays itself. Another one goes to the first declaration of the
same qualified name, else to the only declaration of the same type name, and
without either stays itself. -/
def owner (units : List TypeUnit) (u : TypeUnit) (i : Nat) : Nat :=
  if u.declared then i
  else
    match declaredAt units (·.qualifiedName == u.qualifiedName) with
    | j :: _ => j
    | [] =>
      match declaredAt units (·.name == u.name) with
      | [j] => j
      | _ => i

/-- Each unit with the position of its owner. -/
def claims (units : List TypeUnit) : List (TypeUnit × Nat) :=
  units.zipIdx.map fun (u, i) => (u, owner units u i)

/-- The units that the unit at position `i` takes over, itself included. -/
def ownedBy (claims : List (TypeUnit × Nat)) (i : Nat) : List TypeUnit :=
  (claims.filter (·.2 == i)).map (·.1)

/-- A unit with what all the units it takes over hold: constants one after the
other, traits each once in order of first appearance. -/
def gather (u : TypeUnit) (owned : List TypeUnit) : TypeUnit :=
  { u with
    constants := owned.flatMap (·.constants)
    traits := (owned.flatMap (·.traits)).eraseDups }

/-- Merges the units of one compilation target, given in file order. -/
def merge (units : List TypeUnit) : List TypeUnit :=
  let claimed := claims units
  claimed.zipIdx.filterMap fun ((u, o), i) =>
    if o = i then some (u.gather (ownedBy claimed i)) else none

end TypeUnit

end EnumFamily
