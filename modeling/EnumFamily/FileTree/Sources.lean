import EnumFamily.FileTree
import EnumFamily.Manifest

/-!
# The source files of a package

All source files below a directory. Some directories are left out by their
name, and so is every directory below the root that has a manifest, since that
is another package. A link to a file counts as a file; a link to a directory is
passed only if it is the root itself.
-/
namespace EnumFamily.FileTree

/-- Names of directories that never belong to a package's sources. -/
def excludedNames : List String := ["target", ".git", "node_modules", ".cargo"]

def isSource (path : String) : Bool := FilePath.extension? path == some "rs"

/-- The directory at a path is a package of its own. -/
def hasManifest (t : FileTree) (dir : String) : Bool := t.isFile (Manifest.pathIn dir)

mutual

/-- The source files at a path whose last name is `name`. -/
def sourcesAt (t : FileTree) (excluded : List String) (path name : String) : Node → List String
  | .file _ => if isSource path then [path] else []
  | .link _ => if isSource path && t.isFile path then [path] else []
  | .dir entries =>
    if excluded.contains name || t.hasManifest path then []
    else sourcesIn t excluded path entries

/-- The source files below a directory, from its entries. -/
def sourcesIn (t : FileTree) (excluded : List String) (dir : String) :
    List (String × Node) → List String
  | [] => []
  | (name, node) :: rest =>
    sourcesAt t excluded (FilePath.join dir name) name node ++ sourcesIn t excluded dir rest

end

/-- The name by which a root is left out: its last name, or its whole text. -/
def rootName (root : String) : String := (FilePath.fileName? root).getD root

/-- The source files below a root, which may itself be a file, in no order. -/
def sourcesBelow (t : FileTree) (excluded : List String) (root : String) :
    Except SystemError (List String) := do
  match ← t.nodeOrLink root with
  | .dir entries =>
    .ok (if excluded.contains (rootName root) then [] else sourcesIn t excluded root entries)
  | .file _ => .ok (if isSource root then [root] else [])
  | .link _ =>
    match ← t.node root with
    | .dir entries => .ok (sourcesIn t excluded root entries)
    | _ => .ok (if isSource root then [root] else [])

/-- The source files below a root in the order of paths; `extra` names further
directories to leave out. -/
def sources (t : FileTree) (extra : List String) (root : String) :
    Except SystemError (List String) :=
  (t.sourcesBelow (excludedNames ++ extra) root).map (·.mergeSort FilePath.le)

end EnumFamily.FileTree
