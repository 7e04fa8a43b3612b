import EnumFamily.Cluster
import EnumFamily.DenyList
import EnumFamily.Hierarchy
import EnumFamily.TypeUnit

/-!
# The embedded-enum rule

Spots families of constants that want to be an enumeration. Per unit the rule
decides in a fixed order: the unit has a name; it does not already live in the
enum namespace; one of the configured parent types is among its ancestors.
Then its constants are clustered, and the clusters that are families and not
denied are its candidates.

The rule asks its questions through a `Host`, so that it does not depend on
how units are represented; `Hierarchy.host` answers them for units read from
source.
-/
namespace EnumFamily

structure RuleConfig where
  /-- only units with one of these ancestors are checked -/
  parentTypes : List String := []
  denied : DenyList := DenyList.standard
  /-- the module path that marks enum code; without segments nothing is exempt -/
  enumNamespace : String := "enums"
  /-- the module path that stays checked inside the enum namespace -/
  exemptNamespace : Option String := some "rules::enums"
  separator : Char := '_'
deriving DecidableEq

/-- What the rule asks about a unit. -/
structure Host (α : Type) where
  name? : α → Option String
  hasAncestor : α → String → Bool
  constants : α → List String

/-- What the rule says about a unit. -/
inductive Verdict where
  | nameless
  | inEnumNamespace (unit : String)
  | unrelated (unit : String)
  /-- checked: how many constants it has, and the clusters to report -/
  | checked (constants : Nat) (candidates : List Cluster)
deriving Repr, DecidableEq

/-- The clusters to report. -/
def Verdict.candidates : Verdict → List Cluster
  | checked _ candidates => candidates
  | _ => []

namespace RuleConfig

/-! ## Namespaces -/

/-- `run` is not empty and stands in the list as one stretch. -/
def hasRun (run : List String) : List String → Bool
  | [] => false
  | x :: xs => !run.isEmpty && (run.isPrefixOf (x :: xs) || hasRun run xs)

/-- The enclosing modules of a path: its segments without the last. -/
def enclosing (path : String) : List String := (SymbolPath.segments path).dropLast

/-- The unit stands in the enum namespace and not in the exempt one. -/
def inEnumNamespace (cfg : RuleConfig) (path : String) : Bool :=
  hasRun (SymbolPath.segments cfg.enumNamespace) (enclosing path) &&
    match cfg.exemptNamespace with
    | none => true
    | some exempt => !hasRun (SymbolPath.segments exempt) (enclosing path)

/-! ## Judging a unit -/

variable {α : Type}

/-- The families among the constants whose stem is not denied. -/
def candidates (cfg : RuleConfig) (constants : List String) : List Cluster :=
  ((Cluster.split cfg.separator constants).filter Cluster.isFamily).filter
    (!cfg.denied.contains ·.stem)

def judge (cfg : RuleConfig) (host : Host α) (unit : α) : Verdict :=
  match host.name? unit with
  | none => .nameless
  | some name =>
    if cfg.inEnumNamespace name then .inEnumNamespace name
    else if cfg.parentTypes.any (host.hasAncestor unit) then
      let names := host.constants unit
      .checked names.length (cfg.candidates names)
    else .unrelated name

/-- The unit is exempt from the check. -/
def skips (cfg : RuleConfig) (host : Host α) (unit : α) : Bool :=
  match cfg.judge host unit with
  | .checked .. => false
  | _ => true

/-- The clusters of the unit to report, in order of first appearance. -/
def classify (cfg : RuleConfig) (host : Host α) (unit : α) : List Cluster :=
  (cfg.judge host unit).candidates

def messages (cfg : RuleConfig) (host : Host α) (unit : α) : List String :=
  (cfg.classify host unit).map Cluster.message

end RuleConfig

/-- Answers for units read from source, given the traits in their sight. -/
def Hierarchy.host (h : Hierarchy) : Host TypeUnit where
  name? u := if u.name.isEmpty then none else some u.qualifiedName
  hasAncestor u ancestor := h.implements u.traits ancestor
  constants u := u.constants

end EnumFamily
