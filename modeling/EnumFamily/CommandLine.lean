import EnumFamily.CommandLine.Options
import EnumFamily.OutputPath
import EnumFamily.Rule.Guide
import EnumFamily.Workspace.Report

/-!
# The command line

A run from its words to what it prints, what it writes, and how it ends: with
status 0 if nothing was found, 1 if something was found or the run failed, and
2 if the command line makes no sense.

The disk is a file tree before and after the run, so a run is a function.
-/
namespace EnumFamily

/-- What a run leaves behind. -/
structure Outcome where
  status : Nat
  /-- what is printed -/
  output : String := ""
  /-- lines for the user besides what is printed -/
  notes : List String := []
  events : List Event := []
  tree : FileTree

namespace CommandLine

def versionText : String := "enumspot-cli 0.1.0\n"

def helpText : String :=
  "Finds enum-like constant families embedded in Rust types\n\n" ++
  "Usage: enumspot [OPTIONS] [PATH]\n\n" ++
  "Options:\n" ++
  "      --json                      Output results in JSON format\n" ++
  "      --parent-type <TRAIT>       Trait whose implementors are checked (repeatable)\n" ++
  "      --non-enum-prefix <PREFIX>  Constant prefix never reported (repeatable)\n" ++
  "      --replace-default-prefixes  Use only the given prefixes, dropping the built-in list\n" ++
  "      --enum-namespace <PATH>     Module path marking enum code (\"\" disables the exemption)\n" ++
  "      --exempt-namespace <PATH>   Module path checked even inside the enum namespace\n" ++
  "      --separator <SEPARATOR>     Prefix separator character\n" ++
  "      --ignore <IGNORE>...        Module path patterns to ignore\n" ++
  "      --exclude-dir <DIR>         Directory names to skip while scanning\n" ++
  "      --workspace                 Analyze entire workspace (all member crates)\n" ++
  "      --explain                   Describe the rule with the effective configuration\n" ++
  "      --output <FILE>             Write the report to a file instead of stdout\n" ++
  "  -h, --help                      Print help\n" ++
  "  -V, --version                   Print version\n"

/-- The status of a run that ends well. -/
def statusOf (hasFindings : Bool) : Nat := if hasFindings then 1 else 0

/-- A text ends with a line break when it is printed. -/
def closed (text : String) : String :=
  if text.toList.getLast? = some '\n' then text else text ++ "\n"

/-- Ends a run with a failure. -/
def fail (e : Failure) (r : Outcome) : Outcome :=
  { r with status := 1, notes := r.notes ++ e.lines }

/-- Hands out a report: to the file asked for, or by printing it. -/
def emit (o : Options) (text : String) (r : Outcome) : Outcome :=
  match o.output with
  | none => { r with output := r.output ++ closed text }
  | some path =>
    match OutputPath.check path with
    | .error refusal => fail (.ofWords refusal.message) r
    | .ok path =>
      match r.tree.write path text.toUTF8 with
      | .ok tree => { r with tree, notes := r.notes ++ ["Report saved to: " ++ path] }
      | .error e =>
        fail ((Failure.ofWords e.message).within ("Failed to write " ++ path)) r

/-- Reports are documents if the options or the settings say so. -/
def wantsJson (o : Options) (s : Option Settings) : Bool :=
  o.json || match s with
    | some s => s.wantsJson
    | none => false

/-! ## Workspaces -/

def runWorkspace (t : FileTree) (listing : Option MemberListing) (o : Options) : Outcome :=
  match Settings.load t o.inputPath with
  | .error e => fail e { status := 1, tree := t }
  | .ok settings =>
    let result := Workspace.analyze t listing o.adjust o.inputPath
    let packages := result.packages
    if packages.isEmpty then
      { status := 0, notes := ["No crates found in workspace."], events := result.events,
        tree := t }
    else
      let text :=
        if wantsJson o settings then Report.workspaceJson packages
        else Report.workspacePlain packages
      emit o text
        { status := statusOf (packages.any (·.result.hasFindings)), events := result.events,
          tree := t }

/-- A hint for those who start a run on a workspace as if it were a package. -/
def workspaceHint (t : FileTree) (path : String) : List String :=
  if Workspace.isRoot t path then
    match Workspace.memberNames t path with
    | [] => []
    | names =>
      ["INFO: Detected Cargo workspace with " ++ toString names.length ++ " member(s):"] ++
        names.map ("  - " ++ ·) ++ ["TIP: Pass --workspace to analyze every member.", ""]
  else []

/-! ## Packages -/

/-- The rule as the plan has it. -/
def explain (o : Options) (json : Bool) (p : Plan) (t : FileTree) : Outcome :=
  let guide := Guide.ofConfig p.rule
  emit o (if json then guide.toJson.render else guide.text) { status := 0, tree := t }

def withoutParentTypes : List String :=
  ["[WARN] No parent types configured; nothing will be checked.",
    "TIP: Pass --parent-type <TRAIT> or set parent_types in enumspot.toml."]

def runPlan (o : Options) (json : Bool) (p : Plan) (t : FileTree) : Outcome :=
  let start : Outcome :=
    { status := 1, tree := t,
      notes := if p.rule.parentTypes.isEmpty then withoutParentTypes else [] }
  match p.analyze t with
  | .error e => fail e start
  | .ok a =>
    emit o (if json then Report.json a.diagnostics else Report.plain a.diagnostics)
      { start with status := statusOf a.hasFindings, events := a.events }

/-- A run on the package with the given root. -/
def runPackage (t : FileTree) (o : Options) (root : String) : Outcome :=
  let prepared : Except Failure (Option Settings × Plan) := do
    let settings ← Settings.load t root
    return (settings, ← Plan.ofSettings root settings)
  match prepared with
  | .error e => fail e { status := 1, tree := t }
  | .ok (settings, plan) =>
    let json := wantsJson o settings
    let plan := o.adjust plan
    if o.explain then explain o json plan t else runPlan o json plan t

/-! ## Runs -/

def runOptions (t : FileTree) (listing : Option MemberListing) (o : Options) : Outcome :=
  if o.workspace then runWorkspace t listing o
  else
    match Package.root? t o.inputPath with
    | some root => runPackage t o root
    | none =>
      if o.explain then runPackage t o o.inputPath
      else
        let fault : Fault :=
          .unlisted o.inputPath "no Cargo.toml with a src/ directory at or above this path"
        fail (.ofFault fault)
          { status := 1, tree := t, notes := workspaceHint t o.inputPath,
            events := Workspace.isRootEvents t o.inputPath }

/-- Runs a command line, given by its words without the program's name. -/
def run (t : FileTree) (listing : Option MemberListing) (words : List String) : Outcome :=
  match Options.read words with
  | .error e => { status := 2, notes := ["error: " ++ e.message], tree := t }
  | .ok .version => { status := 0, output := versionText, tree := t }
  | .ok .help => { status := 0, output := helpText, tree := t }
  | .ok (.run o) => runOptions t listing o

end CommandLine

end EnumFamily
