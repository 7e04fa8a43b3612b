import EnumFamily.Json
import EnumFamily.Rule

/-!
# The rule explained

A description of the rule under a configuration: what it reports, an example
before and after, and the lists in force. Shown as text or as a document.
-/
namespace EnumFamily

/-- An example, with the parent types that it takes for configured. -/
structure CodeSample where
  before : String
  after : String
  parentTypes : List String
deriving Repr, DecidableEq

structure Guide where
  name : String
  description : String
  samples : List CodeSample
  denied : List String
  enumNamespace : String
  exemptNamespace : Option String
deriving Repr, DecidableEq

/-- The code of every finding. -/
def RuleConfig.code : String := "embedded_enum_constants"

namespace Guide

def before : String :=
  "struct Product;\n\nimpl Entity for Product \x7b\x7d\n\nimpl Product \x7b\n    pub const STATUS_ENABLED: u8 = 1;\n    pub const STATUS_DISABLED: u8 = 0;\n\x7d"

def after : String :=
  "struct Product;\n\nimpl Entity for Product \x7b\x7d\n\n#[repr(u8)]\npub enum ProductStatus \x7b\n    Enabled = 1,\n    Disabled = 0,\n\x7d"

/-- Without configured parent types the example shows the customary one. -/
def ofConfig (cfg : RuleConfig) : Guide where
  name := RuleConfig.code
  description := Cluster.messageTemplate
  samples :=
    [{ before, after,
       parentTypes := if cfg.parentTypes.isEmpty then ["Entity"] else cfg.parentTypes }]
  denied := cfg.denied.sorted
  enumNamespace := cfg.enumNamespace
  exemptNamespace := cfg.exemptNamespace

def CodeSample.paragraphs (s : CodeSample) : List String :=
  ["CONFIGURED PARENT TYPES: " ++ String.intercalate ", " s.parentTypes,
    "BEFORE:\n" ++ s.before, "AFTER:\n" ++ s.after]

/-- Paragraphs with a blank line between them. -/
def text (g : Guide) : String :=
  String.intercalate "\n\n" <|
    ["RULE: " ++ g.name, "MESSAGE: " ++ g.description] ++
    g.samples.flatMap CodeSample.paragraphs ++
    ["IGNORED PREFIXES: " ++ String.intercalate ", " g.denied,
      "ENUM NAMESPACE: " ++ g.enumNamespace] ++
    (g.exemptNamespace.map ("CHECKED ANYWAY: " ++ ·)).toList

def CodeSample.toJson (s : CodeSample) : Json :=
  .object
    [("bad_code", .string s.before), ("good_code", .string s.after),
      ("parent_types", .strings s.parentTypes)]

def toJson (g : Guide) : Json :=
  .object
    [("name", .string g.name), ("description", .string g.description),
      ("samples", .array (g.samples.map CodeSample.toJson)),
      ("non_enum_prefixes", .strings g.denied), ("enum_namespace", .string g.enumNamespace),
      ("exempt_namespace", .string? g.exemptNamespace)]

end Guide

end EnumFamily
