import EnumFamily.FileTree
import EnumFamily.IgnorePattern
import EnumFamily.Settings

/-!
# Plans

A plan says which package to analyse and how. It starts from the settings at
the package's root, if there are any, and is then adjusted step by step.
-/
namespace EnumFamily

/-- The settings at the root of a package, if there is such a file. -/
def Settings.load (t : FileTree) (root : String) : Except Failure (Option Settings) :=
  let path := FilePath.join root fileName
  if t.contains path then
    match t.text path with
    | .error e => .error { contexts := ["Failed to read " ++ path], cause := .words e.message }
    | .ok text => (ofText text).map some
  else .ok none

structure Plan where
  root : String
  rule : RuleConfig := {}
  /-- names of further directories to leave out -/
  excludedDirs : List String := []
  /-- patterns of units to leave out -/
  ignored : List String := []

namespace Plan

/-- The plan for a package with settings, which may be missing. -/
def ofSettings (root : String) : Option Settings → Except Failure Plan
  | none => .ok { root }
  | some s =>
    match s.toRule (FilePath.join root Settings.fileName) with
    | .ok rule => .ok { root, rule, ignored := s.ignore.getD [] }
    | .error f => .error (Failure.ofFault f)

/-- The plan for a package by the settings at its root. -/
def load (t : FileTree) (root : String) : Except Failure Plan := do
  ofSettings root (← Settings.load t root)

/-! ## Adjusting -/

def addParentTypes (p : Plan) (types : List String) : Plan :=
  { p with rule := { p.rule with parentTypes := p.rule.parentTypes ++ types } }

def deny (p : Plan) (stems : List String) : Plan :=
  { p with rule := { p.rule with denied := p.rule.denied.extend stems } }

/-- Denies the given stems and no others. -/
def denyOnly (p : Plan) (stems : List String) : Plan :=
  { p with rule := { p.rule with denied := DenyList.ofList stems } }

def setEnumNamespace (p : Plan) (path : String) : Plan :=
  { p with rule := { p.rule with enumNamespace := path } }

def setExemptNamespace (p : Plan) (path : Option String) : Plan :=
  { p with rule := { p.rule with exemptNamespace := path } }

def setSeparator (p : Plan) (c : Char) : Plan := { p with rule := { p.rule with separator := c } }

def excludeDirs (p : Plan) (names : List String) : Plan :=
  { p with excludedDirs := p.excludedDirs ++ names }

def ignore (p : Plan) (patterns : List String) : Plan :=
  { p with ignored := p.ignored ++ patterns }

def isIgnored (p : Plan) (u : TypeUnit) : Bool :=
  IgnorePattern.anyAccepts p.ignored (IgnorePattern.subject u)

end Plan

end EnumFamily
