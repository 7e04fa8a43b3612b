import EnumFamily.Json

/-!
# Log events

What a run has to say besides its result. An event names the part of the
program that it comes from; a filter keeps the events of at least a level.
-/
namespace EnumFamily

inductive Level where
  | trace
  | debug
  | info
  | warn
  | error
deriving Repr, DecidableEq

namespace Level

def rank : Level → Nat
  | trace => 0
  | debug => 1
  | info => 2
  | warn => 3
  | error => 4

def name : Level → String
  | trace => "TRACE"
  | debug => "DEBUG"
  | info => "INFO"
  | warn => "WARN"
  | error => "ERROR"

end Level

structure Event where
  level : Level
  /-- the part of the program that speaks -/
  origin : String
  message : String
  fields : List (String × Json) := []

namespace Event

def toJson (e : Event) : Json :=
  .object
    [("level", .string e.level.name),
      ("fields", .object (("message", .string e.message) :: e.fields)),
      ("target", .string e.origin)]

end Event

/-- Which events are kept: for each rule the part of the program that it is
about (none for all of it) and the least level (none for no event). -/
structure EventFilter where
  rules : List (Option String × Option Level)

namespace EventFilter

def levels : List (String × Option Level) :=
  [("off", none), ("error", some .error), ("warn", some .warn), ("info", some .info),
    ("debug", some .debug), ("trace", some .trace)]

def level? (text : String) : Option (Option Level) :=
  levels.lookup (String.ofList (text.toList.map Char.toLower))

/-- One rule: a level, a part of the program, or both with an equals sign. -/
def rule? (text : String) : Option (Option String × Option Level) :=
  match text.splitOn "=" with
  | [word] =>
    match level? word with
    | some l => some (none, l)
    | none => if word.isEmpty then none else some (some word, some .trace)
  | [part, word] => (level? word).map fun l => (some part, l)
  | _ => none

/-- Rules with commas between them; errors only without any. -/
def ofText (text : String) : EventFilter :=
  match (text.splitOn ",").filterMap rule? with
  | [] => { rules := [(none, some .error)] }
  | rules => { rules }

def appliesTo (origin : String) (part : Option String) : Bool :=
  match part with
  | none => true
  | some p => p.toList.isPrefixOf origin.toList

/-- The longer of two rules' parts is the more specific one. -/
def moreSpecific (a b : Option String × Option Level) : Bool :=
  decide ((b.1.map String.length).getD 0 < (a.1.map String.length).getD 0) ||
    (a.1.isSome && b.1.isNone)

/-- The rule in force for a part of the program: the most specific one, and of
equally specific ones the last. -/
def ruleFor (f : EventFilter) (origin : String) : Option (Option String × Option Level) :=
  (f.rules.filter fun r => appliesTo origin r.1).foldl
    (fun best r =>
      match best with
      | none => some r
      | some b => if moreSpecific b r then some b else some r)
    none

def keeps (f : EventFilter) (e : Event) : Bool :=
  match f.ruleFor e.origin with
  | some (_, some least) => decide (least.rank ≤ e.level.rank)
  | _ => false

end EventFilter

end EnumFamily
