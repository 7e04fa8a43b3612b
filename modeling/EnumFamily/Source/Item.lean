/-!
# Items

What of a source file the analysis looks at: type declarations, implementation
blocks, trait declarations, and inline modules with their items. Everything
else is `other`.
-/
namespace EnumFamily.Source

/-- The type that a block implements something for. -/
inductive SelfType where
  /-- a path without a qualified self, by its segments; arguments are dropped -/
  | path (segments : List String)
  | paren (inner : SelfType)
  | other
deriving Repr, DecidableEq

/-- The name of the type: the last segment of a path, through parentheses. -/
def SelfType.name? : SelfType → Option String
  | path segments => segments.getLast?
  | paren inner => inner.name?
  | other => none

/-- An item of an implementation block. -/
inductive ImplItem where
  /-- a constant with a value and without parameters -/
  | const (name : String)
  | other
deriving Repr, DecidableEq

def ImplItem.const? : ImplItem → Option String
  | const name => some name
  | other => none

/-- The trait that a block implements, or declares not to be implemented. -/
structure ImplTrait where
  segments : List String
  negative : Bool
deriving Repr, DecidableEq

structure ImplBlock where
  /-- line of the keyword that opens the block -/
  line : Nat
  /-- none for a block of the type's own items -/
  trait? : Option ImplTrait
  self : SelfType
  items : List ImplItem
deriving Repr, DecidableEq

/-- A bound of a trait declaration. -/
inductive Bound where
  | supertrait (segments : List String)
  /-- a lifetime, or another bound that names no supertrait -/
  | other
deriving Repr, DecidableEq

def Bound.supertrait? : Bound → Option (List String)
  | supertrait segments => some segments
  | other => none

inductive Item where
  /-- a structure, enumeration or union; the line is that of its name -/
  | type (name : String) (line : Nat)
  | impl (block : ImplBlock)
  | trait (name : String) (bounds : List Bound)
  /-- an inline module -/
  | module (name : String) (items : List Item)
  | other

end EnumFamily.Source
