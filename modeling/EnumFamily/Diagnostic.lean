import EnumFamily.Cluster
import EnumFamily.Json
import EnumFamily.TypeUnit

/-!
# Findings and their reports

A diagnostic is one family of constants to extract, with the unit that holds
it. `Report.plain` writes one line for each; `Report.json` writes a document
with their number and all their fields in alphabetical order.
-/
namespace EnumFamily

structure Diagnostic where
  file : String
  line : Nat
  /-- qualified name of the unit -/
  unit : String
  stem : String
  constants : List String
  message : String
deriving Repr, DecidableEq

namespace Diagnostic

/-- The finding that a cluster of a unit's constants is. -/
def ofCluster (u : TypeUnit) (c : Cluster) : Diagnostic :=
  { file := u.file, line := u.line, unit := u.qualifiedName, stem := c.stem,
    constants := c.members, message := c.message }

/-- One line of the plain report, without its line break. -/
def plainLine (d : Diagnostic) : String :=
  d.file ++ ":" ++ toString d.line ++ ": [" ++ d.unit ++ "] " ++ d.message

def toJson (d : Diagnostic) : Json :=
  .object
    [("constants", .strings d.constants), ("file", .string d.file), ("line", .ofNat d.line),
      ("message", .string d.message), ("prefix", .string d.stem), ("unit", .string d.unit)]

end Diagnostic

namespace Report

/-- A heading with the number of findings, then a line for each. -/
def plain (ds : List Diagnostic) : String :=
  if ds.isEmpty then "No embedded enum constants found.\n"
  else
    "EMBEDDED ENUM CONSTANTS (" ++ toString ds.length ++ "):\n" ++
      String.join (ds.map fun d => d.plainLine ++ "\n")

def document (ds : List Diagnostic) : Json :=
  .object [("count", .ofNat ds.length), ("diagnostics", .array (ds.map Diagnostic.toJson))]

def json (ds : List Diagnostic) : String := (document ds).render

end Report

end EnumFamily
