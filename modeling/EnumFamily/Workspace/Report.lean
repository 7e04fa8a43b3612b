import EnumFamily.Workspace

/-!
# Reports on a workspace

A section for each member: plain, or as a document with the findings counted.
-/
namespace EnumFamily.Report

def packageSection (p : PackageAnalysis) : String :=
  "--- " ++ p.name ++ " (" ++ p.root ++ ") ---\n" ++ plain p.result.diagnostics ++ "\n"

def workspacePlain (ps : List PackageAnalysis) : String :=
  "=== Workspace Analysis ===\n\n" ++ String.join (ps.map packageSection)

def packageDocument (p : PackageAnalysis) : Json :=
  .object
    [("count", .ofNat p.result.diagnostics.length),
      ("diagnostics", .array (p.result.diagnostics.map Diagnostic.toJson)),
      ("name", .string p.name), ("root", .string p.root)]

def workspaceDocument (ps : List PackageAnalysis) : Json :=
  .object
    [("crates", .array (ps.map packageDocument)),
      ("total", .ofNat (ps.flatMap (·.result.diagnostics)).length), ("workspace", .bool true)]

def workspaceJson (ps : List PackageAnalysis) : String := (workspaceDocument ps).render

end EnumFamily.Report
