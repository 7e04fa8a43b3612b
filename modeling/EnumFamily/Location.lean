import EnumFamily.FilePath

/-!
# Where a source file stands in its package

From the location of a file below the package root follow its module path, the
compilation target that it belongs to, and the path shown in reports.

* `modulePath`: the modules that lead to the file's content.
* `target`: the key of its target. Everything under `src` but not `src/bin` is
  the library; each entry of `src/bin`, `bin`, `tests`, `benches` and `examples`
  is a target of its own; any other file is one by itself.
* `relative`: the path below the root, with forward slashes.
-/
namespace EnumFamily.Location

/-- Stems of files that hold the module of their directory. -/
def moduleRootStems : List String := ["lib", "main", "mod"]

/-- Directories whose entries are targets of their own. -/
def targetDirs : List String := ["bin", "tests", "benches", "examples"]

/-- The key of the library target. -/
def library : String := "lib"

/-- A path text with forward slashes. -/
def normalize (path : String) : String :=
  String.ofList (path.toList.map fun c => if c = '\\' then '/' else c)

/-- A name without one `.rs` at its end. -/
def stem (name : String) : String :=
  if ".rs".toList.isSuffixOf name.toList then String.ofList (name.toList.take (name.length - 3))
  else name

def relative (root file : String) : String :=
  normalize ((FilePath.relativeTo? root file).getD file)

/-- The directories of a file and its stem, which is left out if it is that of a
module root. -/
def moduleSegments (names : List String) : List String :=
  match names.getLast? with
  | none => []
  | some last =>
    if moduleRootStems.contains (stem last) then names.dropLast else names.dropLast ++ [stem last]

/-- Drops the target directory and the target's name, if the segments start with
a target directory; under `src` only `bin` is one. -/
def dropTarget (underSource : Bool) (segments : List String) : List String :=
  match segments with
  | [] => []
  | d :: _ =>
    if targetDirs.contains d && (!underSource || d == "bin") then segments.drop 2 else segments

def modulePath (root file : String) : List String :=
  match FilePath.relativeTo? (FilePath.join root "src") file with
  | some rel => dropTarget true (moduleSegments (FilePath.names rel))
  | none =>
    match FilePath.relativeTo? root file with
    | some rel => dropTarget false (moduleSegments (FilePath.names rel))
    | none => []

/-- The key of the target that a file belongs to, from its path below the root. -/
def targetOf (rel : String) : String :=
  match FilePath.names rel with
  | "src" :: "bin" :: t :: _ => "bin/" ++ stem t
  | "src" :: _ => library
  | d :: t :: _ => if targetDirs.contains d then d ++ "/" ++ stem t else normalize rel
  | _ => normalize rel

def target (root file : String) : String :=
  match FilePath.relativeTo? root file with
  | some rel => targetOf rel
  | none => ""

end EnumFamily.Location
