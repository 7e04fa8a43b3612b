import EnumFamily.Plan

/-!
# Command-line options

The words of a command line, read from left to right. An option's value follows
as the next word or behind an equals sign; a word that starts with a dash is
never taken for a value, except a dash alone. Two dashes end the options.

* `Options.read`: what a command line asks for.
* `Options.adjust`: a plan adjusted by the options.
-/
namespace EnumFamily

/-- What is wrong with a command line. -/
inductive UsageError where
  | unknown (word : String)
  | extra (word : String)
  | repeated (option : String)
  | missingValue (option : String)
  | unwantedValue (option : String)
  | badValue (option value : String)
deriving Repr, DecidableEq

def UsageError.message : UsageError → String
  | unknown w => "unexpected argument '" ++ w ++ "'"
  | extra w => "unexpected argument '" ++ w ++ "'"
  | repeated o => "the argument '--" ++ o ++ "' cannot be used multiple times"
  | missingValue o => "a value is required for '--" ++ o ++ "'"
  | unwantedValue o => "'--" ++ o ++ "' takes no value"
  | badValue o v => "invalid value '" ++ v ++ "' for '--" ++ o ++ "'"

structure Options where
  path : Option String := none
  json : Bool := false
  parentTypes : List String := []
  deniedStems : List String := []
  /-- the given stems replace the standard ones -/
  replaceDenied : Bool := false
  enumNamespace : Option String := none
  exemptNamespace : Option String := none
  separator : Option Char := none
  ignore : List String := []
  excludedDirs : List String := []
  workspace : Bool := false
  explain : Bool := false
  output : Option String := none
deriving Repr, DecidableEq

/-- What a command line asks for. -/
inductive Request where
  | run (options : Options)
  | version
  | help
deriving Repr, DecidableEq

namespace Options

/-! ## Words -/

inductive Word where
  /-- two dashes alone -/
  | escape
  | long (name : String) (value : Option String)
  | short (letter : Char)
  | plain
deriving Repr, DecidableEq

/-- What a word is: by the dashes that it starts with. -/
def wordOf (w : String) : Word :=
  match w.toList with
  | ['-', '-'] => .escape
  | '-' :: '-' :: r =>
    let name := String.ofList (r.takeWhile (· ≠ '='))
    match r.dropWhile (· ≠ '=') with
    | [] => .long name none
    | _ :: value => .long name (some (String.ofList value))
  | '-' :: c :: _ => .short c
  | _ => .plain

/-! ## Options by name -/

/-- Turns on a switch; nothing if there is none of that name. -/
def switch? (o : Options) (name : String) : Option (Except UsageError Options) :=
  let once (on : Bool) (o : Options) : Except UsageError Options :=
    if on then .error (.repeated name) else .ok o
  match name with
  | "json" => some (once o.json { o with json := true })
  | "replace-default-prefixes" => some (once o.replaceDenied { o with replaceDenied := true })
  | "workspace" => some (once o.workspace { o with workspace := true })
  | "explain" => some (once o.explain { o with explain := true })
  | _ => none

/-- Options that take a value. -/
def valued : List String :=
  ["parent-type", "non-enum-prefix", "enum-namespace", "exempt-namespace", "separator", "ignore",
    "exclude-dir", "output"]

/-- Sets an option that takes a value; some may be repeated. -/
def set (o : Options) (name value : String) : Except UsageError Options :=
  let once {α : Type} (old : Option α) (o : Options) : Except UsageError Options :=
    if old.isSome then .error (.repeated name) else .ok o
  match name with
  | "parent-type" => .ok { o with parentTypes := o.parentTypes ++ [value] }
  | "non-enum-prefix" => .ok { o with deniedStems := o.deniedStems ++ [value] }
  | "enum-namespace" => once o.enumNamespace { o with enumNamespace := some value }
  | "exempt-namespace" => once o.exemptNamespace { o with exemptNamespace := some value }
  | "separator" =>
    match value.toList with
    | [c] => once o.separator { o with separator := some c }
    | _ => .error (.badValue name value)
  | "ignore" => .ok { o with ignore := o.ignore ++ [value] }
  | "exclude-dir" => .ok { o with excludedDirs := o.excludedDirs ++ [value] }
  | "output" => once o.output { o with output := some value }
  | _ => .error (.unknown name)

def setPath (o : Options) (word : String) : Except UsageError Options :=
  match o.path with
  | none => .ok { o with path := some word }
  | some _ => .error (.extra word)

/-! ## Reading -/

/-- What the next plain word is for. -/
inductive Awaiting where
  | path
  /-- an option that has no value yet -/
  | value (option : String)
  /-- an option that takes any number of values and has some -/
  | further (option : String)
deriving Repr, DecidableEq

/-- What follows a value of an option: `ignore` takes further ones. -/
def afterValue (option : String) : Awaiting :=
  if option = "ignore" then .further option else .path

/-- Reads plain words only. -/
def readPaths (o : Options) : List String → Except UsageError Request
  | [] => .ok (.run o)
  | w :: ws => do readPaths (← o.setPath w) ws

def readFrom (o : Options) (awaiting : Awaiting) : List String → Except UsageError Request
  | [] =>
    match awaiting with
    | .value option => .error (.missingValue option)
    | _ => .ok (.run o)
  | w :: ws =>
    match wordOf w, awaiting with
    | .plain, .path => do readFrom (← o.setPath w) .path ws
    | .plain, .value option => do readFrom (← o.set option w) (afterValue option) ws
    | .plain, .further option => do readFrom (← o.set option w) (.further option) ws
    | _, .value option => .error (.missingValue option)
    | .escape, _ => readPaths o ws
    | .short 'V', _ => .ok .version
    | .short 'h', _ => .ok .help
    | .short _, _ => .error (.unknown w)
    | .long "version" none, _ => .ok .version
    | .long "help" none, _ => .ok .help
    | .long name value, _ =>
      match o.switch? name, value with
      | some changed, none => do readFrom (← changed) .path ws
      | some _, some _ => .error (.unwantedValue name)
      | none, value =>
        if valued.contains name then
          match value with
          | some v => do readFrom (← o.set name v) .path ws
          | none => readFrom o (.value name) ws
        else .error (.unknown w)

/-- What a command line asks for, its words given without the program's name. -/
def read (words : List String) : Except UsageError Request := readFrom {} .path words

/-! ## Using -/

/-- The path to analyse: the working directory unless another one is given. -/
def inputPath (o : Options) : String := o.path.getD "."

/-- Puts the options on top of a plan. An empty exempt namespace is none. -/
def adjust (o : Options) (p : Plan) : Plan :=
  let p := p.addParentTypes o.parentTypes
  let p := if o.replaceDenied then p.denyOnly o.deniedStems else p.deny o.deniedStems
  let p := match o.enumNamespace with
    | some path => p.setEnumNamespace path
    | none => p
  let p := match o.exemptNamespace with
    | some "" => p.setExemptNamespace none
    | some path => p.setExemptNamespace (some path)
    | none => p
  let p := match o.separator with
    | some c => p.setSeparator c
    | none => p
  (p.ignore o.ignore).excludeDirs o.excludedDirs

end Options

end EnumFamily
