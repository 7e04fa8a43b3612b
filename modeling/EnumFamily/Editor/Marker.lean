import EnumFamily.Diagnostic
import EnumFamily.Rule.Guide

/-!
# Markers

A finding as an editor shows it: a warning on the line of the unit. Editors
count lines from 0 and take the columns up to 100.
-/
namespace EnumFamily

structure Marker where
  line : Nat
  message : String
  unit : String
  stem : String
  constants : List String
deriving Repr, DecidableEq

namespace Marker

/-- The marker of a finding; its line has 32 bits. -/
def ofDiagnostic (d : Diagnostic) : Marker :=
  { line := (d.line - 1) % 0x100000000, message := d.message, unit := d.unit, stem := d.stem,
    constants := d.constants }

def position (line character : Nat) : Json :=
  .object [("line", .ofNat line), ("character", .ofNat character)]

def toJson (m : Marker) : Json :=
  .object
    [("range", .object [("start", position m.line 0), ("end", position m.line 100)]),
      ("severity", .ofNat 2), ("code", .string RuleConfig.code), ("source", .string "enumspot"),
      ("message", .string m.message),
      ("data", .object
        [("unit", .string m.unit), ("prefix", .string m.stem),
          ("constants", .strings m.constants)])]

end Marker

end EnumFamily
