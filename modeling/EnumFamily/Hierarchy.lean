import EnumFamily.Graph
import EnumFamily.SymbolPath

/-!
# Trait hierarchies

A type's ancestry is the traits it implements, closed over the supertraits
declared anywhere in its package. Traits are looked up by the last segment of
their path, since sources name them however their imports allow; traits of the
same name in different modules share one entry. A trait without a declaration
contributes only itself.
-/
namespace EnumFamily

/-- A trait as declared, with the paths of its supertraits as written. -/
structure TraitDecl where
  name : String
  qualifiedName : String
  supertraits : List String
deriving Repr, DecidableEq

/-- The supertraits known for each trait name. -/
structure Hierarchy where
  entries : List (String × List String)
deriving Repr, DecidableEq

namespace Hierarchy

def empty : Hierarchy := { entries := [] }

/-- Adds to the entry of a name the supertraits that it lacks. -/
def addTo (name : String) (supertraits : List String) :
    List (String × List String) → List (String × List String)
  | [] => [(name, supertraits.eraseDups)]
  | (n, known) :: rest =>
    if n = name then (n, (known ++ supertraits).eraseDups) :: rest
    else (n, known) :: addTo name supertraits rest

def add (h : Hierarchy) (d : TraitDecl) : Hierarchy :=
  { entries := addTo d.name d.supertraits h.entries }

def ofDecls (decls : List TraitDecl) : Hierarchy := decls.foldl add empty

/-- The number of trait names with a declaration. -/
def size (h : Hierarchy) : Nat := h.entries.length

def isDeclared (h : Hierarchy) (path : String) : Bool :=
  h.entries.any (·.1 == SymbolPath.lastSegment path)

/-- The direct supertraits of a trait, as written in its declarations. -/
def supertraitsOf (h : Hierarchy) (path : String) : List String :=
  (h.entries.lookup (SymbolPath.lastSegment path)).getD []

/-! ## Ancestry -/

def graph (h : Hierarchy) : Graph String where
  holds := h.isDeclared
  neighbors := h.supertraitsOf

theorem graph_finitelyReachable (h : Hierarchy) (roots : List String) :
    h.graph.FinitelyReachable roots := by
  refine Graph.finitelyReachable_of_targets (h.entries.flatMap (·.2)) (fun n m hm => ?_) roots
  simp only [graph, supertraitsOf] at hm
  cases hl : h.entries.lookup (SymbolPath.lastSegment n) with
  | none => simp [hl] at hm
  | some ts =>
    rw [hl] at hm
    obtain ⟨l₁, l₂, he, -⟩ := List.lookup_eq_some_iff.mp hl
    exact List.mem_flatMap.mpr ⟨(SymbolPath.lastSegment n, ts), by simp [he], hm⟩

/-- Declared traits among `implemented`, and every supertrait reached from them. -/
def reachable (h : Hierarchy) (implemented : List String) : List String :=
  h.graph.reachableFrom implemented (h.graph_finitelyReachable implemented)

/-- The implemented traits and every supertrait reached from them. -/
def ancestry (h : Hierarchy) (implemented : List String) : List String :=
  (h.reachable implemented ++ implemented).eraseDups

/-- A type that implements `implemented` has `ancestor` in its ancestry. -/
def implements (h : Hierarchy) (implemented : List String) (ancestor : String) : Bool :=
  (h.ancestry implemented).any (SymbolPath.agree · ancestor)

end Hierarchy

end EnumFamily
