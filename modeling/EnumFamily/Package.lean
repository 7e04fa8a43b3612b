import EnumFamily.Analysis

/-!
# Packages

A package is a directory with a manifest. Its root is found from any path
inside it; it is analysed by its own settings, which the caller may adjust.
-/
namespace EnumFamily

structure PackageAnalysis where
  name : String
  root : String
  result : Analysis

namespace Package

/-- The directory holds a manifest and a directory of sources. -/
def isRoot (t : FileTree) (dir : String) : Bool :=
  t.contains (Manifest.pathIn dir) && t.isDir (FilePath.join dir "src")

/-- The nearest root at or above a path, in canonical spelling. -/
def root? (t : FileTree) (path : String) : Option String :=
  match t.canonical path with
  | .error _ => none
  | .ok c =>
    (if t.isFile c then FilePath.parent? c else some c).bind fun start =>
      (FilePath.ancestors start).find? (isRoot t)

/-- Analyses the package at a root. -/
def analyze (t : FileTree) (adjust : Plan → Plan) (root : String) :
    Except Failure PackageAnalysis :=
  let manifest := Manifest.pathIn root
  match t.text manifest with
  | .error e => .error (Failure.ofFault (.unreadable manifest e.message))
  | .ok text =>
    let name := Manifest.packageName text
    match (Plan.load t root).bind fun p => (adjust p).analyze t with
    | .ok result => .ok { name, root, result }
    | .error e => .error (e.within ("Failed to analyze crate " ++ name))

end Package

end EnumFamily
