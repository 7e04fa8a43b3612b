import EnumFamily.Fault
import EnumFamily.Rule
import EnumFamily.Text.Quoted
import EnumFamily.Toml.Reader

/-!
# Settings files

The settings of a package stand in a file at its root. Every setting is
optional, and a setting that is not known makes the file invalid.

* `Settings.ofText`: the settings in a text.
* `Settings.toRule`: the rule that they configure.
* `Settings.wantsJson`: whether reports are to be documents.
-/
namespace EnumFamily

/-- The settings under `output`; others than the format are not looked at. -/
structure OutputSettings where
  format : Option String := none
deriving Repr, DecidableEq

structure Settings where
  parentTypes : Option (List String) := none
  /-- stems that are never reported -/
  deniedStems : Option (List String) := none
  /-- the stems come on top of the standard ones (or replace them) -/
  extendsStandard : Option Bool := none
  enumNamespace : Option String := none
  exemptNamespace : Option String := none
  separator : Option String := none
  /-- patterns of units to leave out -/
  ignore : Option (List String) := none
  output : Option OutputSettings := none
deriving Repr, DecidableEq

namespace Settings

/-- The name of the settings file. -/
def fileName : String := "enumspot.toml"

/-! ## Reading -/

/-- The output settings in a value: a table, an array whose first item is the
format, or a moment, which says nothing about it. -/
def outputOf? : Toml → Option OutputSettings
  | .table _ members =>
    match members.lookup "format" with
    | none => some {}
    | some v => v.asString?.map fun format => { format := some format }
  | .moment _ => some {}
  | v =>
    match v.items? with
    | some (first :: _) => first.asString?.map fun format => { format := some format }
    | _ => none

/-- Takes over one setting, if it is known and its value is of the right kind. -/
def set? (s : Settings) (name : String) (v : Toml) : Option Settings :=
  match name with
  | "parent_types" => v.strings?.map fun x => { s with parentTypes := some x }
  | "non_enum_prefixes" => v.strings?.map fun x => { s with deniedStems := some x }
  | "extend_default_prefixes" => v.asBool?.map fun x => { s with extendsStandard := some x }
  | "enum_namespace" => v.asString?.map fun x => { s with enumNamespace := some x }
  | "exempt_namespace" => v.asString?.map fun x => { s with exemptNamespace := some x }
  | "separator" => v.asString?.map fun x => { s with separator := some x }
  | "ignore" => v.strings?.map fun x => { s with ignore := some x }
  | "output" => (outputOf? v).map fun x => { s with output := some x }
  | _ => none

def ofMembers? (members : Toml.Members) : Option Settings :=
  members.foldlM (fun s (name, v) => s.set? name v) {}

/-- The settings in a text. -/
def ofText (text : String) : Except Failure Settings :=
  match (Toml.read text).bind ofMembers? with
  | some s => .ok s
  | none => .error { contexts := ["Invalid " ++ fileName], cause := .format }

/-! ## Using -/

def lower (s : String) : String := String.ofList (s.toList.map Char.toLower)

/-- Reports are to be documents; the format's name may be in any case. -/
def wantsJson (s : Settings) : Bool :=
  match s.output.bind (·.format) with
  | some format => lower format == "json"
  | none => false

/-- The one character of a separator. -/
def separatorOf (path text : String) : Except Fault Char :=
  match text.toList with
  | [c] => .ok c
  | _ =>
    .error (.unusable path ("separator must be exactly one character, got " ++ Text.quoted text))

def denied (s : Settings) : DenyList :=
  let stems := s.deniedStems.getD []
  if s.extendsStandard.getD true then DenyList.standard.extend stems else DenyList.ofList stems

/-- The rule that the settings configure; `path` is where they stand. An empty
exempt namespace is none. -/
def toRule (s : Settings) (path : String) : Except Fault RuleConfig := do
  let standard : RuleConfig := {}
  let separator ← match s.separator with
    | none => .ok standard.separator
    | some text => separatorOf path text
  return {
    parentTypes := s.parentTypes.getD []
    denied := s.denied
    enumNamespace := s.enumNamespace.getD standard.enumNamespace
    exemptNamespace := match s.exemptNamespace with
      | none => standard.exemptNamespace
      | some "" => none
      | some path => some path
    separator }

end Settings

end EnumFamily
