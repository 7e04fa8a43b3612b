import EnumFamily.FileTree
import EnumFamily.Location
import EnumFamily.Source.Extract

/-!
# What the source files of a package give

Files are read one by one; each belongs to a compilation target. Per target,
what its files contribute is put together, its units are merged, and a unit
sees the traits of the library and of its own target. A file that cannot be
read or does not follow the grammar contributes nothing.
-/
namespace EnumFamily

/-- What reading one source file gave, and the target that the file belongs to. -/
structure Reading where
  target : String
  outcome : Except Fault Extraction

namespace Reading

def extraction? (r : Reading) : Option Extraction :=
  match r.outcome with
  | .ok e => some e
  | .error _ => none

def fault? (r : Reading) : Option Fault :=
  match r.outcome with
  | .ok _ => none
  | .error f => some f

/-- The fault, if leaving the file out does not mend it. -/
def fatal? (r : Reading) : Option Fault := r.fault?.filter (!·.isRecoverable)

/-- Reads a file of the package at `root`. -/
def ofFile (t : FileTree) (root file : String) : Reading :=
  let shown := Location.relative root file
  { target := Location.target root file
    outcome :=
      match t.text file with
      | .error e => .error (.unreadable shown e.message)
      | .ok text => Extraction.ofText shown (Location.modulePath root file) text }

end Reading

/-- What several files contribute, one after the other. -/
def Extraction.concat (es : List Extraction) : Extraction :=
  { units := es.flatMap (·.units), traits := es.flatMap (·.traits) }

namespace Target

/-- The targets with at least one file that could be read, in order. -/
def keys (rs : List Reading) : List String :=
  ((rs.filter (·.extraction?.isSome)).map (·.target)).eraseDups.mergeSort
    (fun a b => decide (a ≤ b))

/-- What the files of a target contribute. -/
def content (rs : List Reading) (key : String) : Extraction :=
  Extraction.concat ((rs.filter (·.target == key)).filterMap (·.extraction?))

/-- The traits in the sight of a target: those of the library, and its own. -/
def hierarchy (rs : List Reading) (key : String) : Hierarchy :=
  let shared := (content rs Location.library).traits
  Hierarchy.ofDecls (if key = Location.library then shared else shared ++ (content rs key).traits)

def units (rs : List Reading) (key : String) : List TypeUnit :=
  TypeUnit.merge (content rs key).units

end Target

/-- A unit with the traits in its sight. -/
structure Subject where
  hierarchy : Hierarchy
  unit : TypeUnit

/-- All units, target by target. -/
def Subject.all (rs : List Reading) : List Subject :=
  (Target.keys rs).flatMap fun key =>
    let hierarchy := Target.hierarchy rs key
    (Target.units rs key).map fun unit => { hierarchy, unit }

end EnumFamily
