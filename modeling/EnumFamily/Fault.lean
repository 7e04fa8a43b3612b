/-!
# Faults

What can go wrong on the way from a directory to a report. A `Fault` says what
is wrong with one path. A `Failure` is what a whole operation ends with: a
cause under any number of contexts, the outermost first.
-/
namespace EnumFamily

inductive Fault where
  /-- the file or directory cannot be read -/
  | unreadable (path cause : String)
  /-- the source does not follow the grammar, at a position counted from 1 -/
  | malformed (path : String) (line column : Nat) (message : String)
  /-- a setting has a value that the rule cannot use -/
  | unusable (path message : String)
  /-- the packages below a directory cannot be listed -/
  | unlisted (path message : String)
deriving Repr, DecidableEq

namespace Fault

def path : Fault → String
  | unreadable p _ => p
  | malformed p .. => p
  | unusable p _ => p
  | unlisted p _ => p

def message : Fault → String
  | unreadable p cause => "cannot read " ++ p ++ ": " ++ cause
  | malformed p line column m =>
    p ++ ":" ++ toString line ++ ":" ++ toString column ++ ": " ++ m
  | unusable p m => "invalid configuration in " ++ p ++ ": " ++ m
  | unlisted p m => "workspace problem at " ++ p ++ ": " ++ m

/-- The fault concerns one file: the file is left out and the analysis goes on. -/
def isRecoverable : Fault → Bool
  | unreadable .. => true
  | malformed .. => true
  | unusable .. => false
  | unlisted .. => false

end Fault

/-- What lies at the bottom of a failure. -/
inductive Cause where
  | fault (f : Fault)
  /-- plain words, such as those of the operating system -/
  | words (text : String)
  /-- text that does not follow its format; its details are not kept -/
  | format
deriving Repr, DecidableEq

def Cause.message? : Cause → Option String
  | fault f => some f.message
  | words text => some text
  | format => none

structure Failure where
  contexts : List String
  cause : Cause
deriving Repr, DecidableEq

namespace Failure

def ofFault (f : Fault) : Failure := { contexts := [], cause := .fault f }

def ofWords (text : String) : Failure := { contexts := [], cause := .words text }

/-- Puts a context around a failure. -/
def within (context : String) (e : Failure) : Failure :=
  { e with contexts := context :: e.contexts }

/-- The failure's line: its outermost context, or its cause without one. -/
def headline (e : Failure) : String :=
  match e.contexts with
  | c :: _ => c
  | [] => e.cause.message?.getD ""

/-- All contexts and the cause, from the outside in. -/
def message (e : Failure) : String :=
  String.intercalate ": " (e.contexts ++ e.cause.message?.toList)

/-- The contexts and the cause as lines of their own: the headline, then what
stands behind it, numbered if there is more than one. -/
def lines (e : Failure) : List String :=
  match e.contexts ++ e.cause.message?.toList with
  | [] => ["Error: "]
  | [line] => ["Error: " ++ line]
  | [line, cause] => ["Error: " ++ line, "", "Caused by:", "    " ++ cause]
  | line :: causes =>
    ["Error: " ++ line, "", "Caused by:"] ++
      causes.zipIdx.map fun (cause, i) => "    " ++ toString i ++ ": " ++ cause

end Failure

end EnumFamily
