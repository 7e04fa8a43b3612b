import EnumFamily.Diagnostic
import EnumFamily.Event
import EnumFamily.FileTree.Sources
import EnumFamily.Plan
import EnumFamily.Reading

/-!
# Analysis of a package

The source files of the package are read, the rule judges every unit that is
not ignored, and what it finds is sorted by file and line. Files that cannot be
used are left out and listed, so only a root that cannot be listed makes an
analysis fail.

* `Plan.judgements`, `Plan.diagnostics`: what the rule says about all units.
* `Plan.analyze`: from a file tree to an `Analysis`.
* `Analysis.events`: what an analysis writes to the log.
-/
namespace EnumFamily

structure Analysis where
  root : String
  /-- how many source files there are -/
  files : Nat
  /-- how many units they hold -/
  units : Nat
  /-- what is wrong with the files that were left out, in file order -/
  skipped : List Fault
  /-- what the rule says of each unit that is not ignored -/
  verdicts : List Verdict
  /-- what it found, by file and line -/
  diagnostics : List Diagnostic

namespace Plan

/-! ## Judging -/

/-- What the rule says of each unit that is not ignored. -/
def judgements (p : Plan) (rs : List Reading) : List (TypeUnit × Verdict) :=
  ((Subject.all rs).filter (!p.isIgnored ·.unit)).map fun s =>
    (s.unit, p.rule.judge s.hierarchy.host s.unit)

/-- The findings of judgements in their order. -/
def findings (js : List (TypeUnit × Verdict)) : List Diagnostic :=
  js.flatMap fun (u, v) => v.candidates.map (Diagnostic.ofCluster u)

/-- By file, then by line. -/
def reportOrder (a b : Diagnostic) : Bool :=
  decide (a.file < b.file) || (a.file == b.file && decide (a.line ≤ b.line))

/-- The findings sorted; those of one place stay in the order of the units. -/
def diagnostics (p : Plan) (rs : List Reading) : List Diagnostic :=
  (findings (p.judgements rs)).mergeSort reportOrder

/-! ## Running -/

/-- The result for files as they were read. -/
def report (p : Plan) (rs : List Reading) : Analysis :=
  let js := p.judgements rs
  { root := p.root
    files := rs.length
    units := (Subject.all rs).length
    skipped := rs.filterMap (·.fault?)
    verdicts := js.map (·.2)
    diagnostics := (findings js).mergeSort reportOrder }

@[simp] theorem report_diagnostics (p : Plan) (rs : List Reading) :
    (p.report rs).diagnostics = p.diagnostics rs := rfl

/-- The source files below a root; some directories are left out. -/
def gather (t : FileTree) (root : String) (excluded : List String) :
    Except Failure (List String) :=
  match t.sources excluded root with
  | .ok files => .ok files
  | .error e =>
    .error
      { contexts := ["Failed to gather .rs files from " ++ root]
        cause := .words ("IO error for operation on " ++ root ++ ": " ++ e.message) }

/-- Reads the source files of the package. -/
def readings (p : Plan) (t : FileTree) : Except Failure (List Reading) :=
  match gather t p.root p.excludedDirs with
  | .ok files => .ok (files.map (Reading.ofFile t p.root))
  | .error e => .error (e.within "Failed to gather .rs files")

/-- The result, unless a fault is not of the sort that concerns one file. -/
def conclude (p : Plan) (rs : List Reading) : Except Failure Analysis :=
  match rs.findSome? Reading.fatal? with
  | some f => .error (Failure.ofFault f)
  | none => .ok (p.report rs)

def analyze (p : Plan) (t : FileTree) : Except Failure Analysis := (p.readings t).bind p.conclude

end Plan

namespace Analysis

def hasFindings (a : Analysis) : Bool := !a.diagnostics.isEmpty

/-- The findings in one file, named as in the report. -/
def diagnosticsFor (a : Analysis) (file : String) : List Diagnostic :=
  a.diagnostics.filter (·.file == file)

/-! ## Events -/

def skippedEvent (f : Fault) : Event :=
  { level := .warn, origin := "enumspot_core::builder", message := "file skipped",
    fields := [("file", .string f.path)] }

def verdictEvent (v : Verdict) : Event :=
  let event (message : String) (fields : List (String × Json)) : Event :=
    { level := .debug, origin := "enumspot_core::rule::embedded_enum", message, fields }
  match v with
  | .nameless => event "unit without a name, skipping" []
  | .inEnumNamespace unit =>
    event "already in enum namespace, skipping" [("unit", .string unit)]
  | .unrelated unit =>
    event "no configured parent type in ancestry, skipping" [("unit", .string unit)]
  | .checked constants candidates =>
    event "classified unit"
      [("constants", .ofNat constants), ("candidates", .ofNat candidates.length)]

def doneEvent (a : Analysis) : Event :=
  { level := .info, origin := "enumspot_core::builder", message := "analysis complete",
    fields :=
      [("files", .ofNat a.files), ("units", .ofNat a.units),
        ("diagnostics", .ofNat a.diagnostics.length)] }

/-- The events of an analysis in the order in which they arise. -/
def events (a : Analysis) : List Event :=
  a.skipped.map skippedEvent ++ a.verdicts.map verdictEvent ++ [a.doneEvent]

end Analysis

end EnumFamily
