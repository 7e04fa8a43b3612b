import EnumFamily.Source.Item
import EnumFamily.Source.Reader

/-!
# Phrases

The kinds of phrases that hold each other, and what reading one of them gives. A
`Grammar` reads each kind. The readers of one kind take a grammar for the
phrases inside, so that each kind has a module of its own.

Of types and bounds only what an implementation block or a trait declaration
needs is kept; of expressions and patterns, only what decides how the text may
go on.
-/
namespace EnumFamily.Source

/-! ## Types -/

/-- A path as read; arguments are dropped. -/
structure ReadPath where
  segments : List String
  /-- colons stand before the first segment -/
  rooted : Bool
  /-- some segment has arguments -/
  hasArguments : Bool
  /-- the last segment has no arguments, or an empty list of them -/
  endsBare : Bool
deriving Repr, DecidableEq

inductive ReadType where
  /-- a path without a qualified self -/
  | path (p : ReadPath)
  | paren (inner : ReadType)
  /-- bounds without a keyword; `single` if it is one and no plus sign follows -/
  | bounds (single : Bool)
  | other
deriving Repr, DecidableEq

def ReadType.toSelf : ReadType → SelfType
  | path p => .path p.segments
  | paren inner => .paren inner.toSelf
  | bounds _ => .other
  | other => .other

inductive ReadBound where
  | supertrait (segments : List String)
  /-- a trait that has to be implemented by constant functions -/
  | constant
  | lifetime
  /-- a list of what a hidden type captures -/
  | capture
deriving Repr, DecidableEq

def ReadBound.toBound : ReadBound → Bound
  | supertrait segments => .supertrait segments
  | _ => .other

/-! ## Expressions and patterns -/

/-- How tightly an operator binds, the loosest first. -/
inductive Precedence where
  | jump | assign | range | or | and | compare | bitOr | bitXor | bitAnd | shift | sum | product
  | cast
deriving Repr, DecidableEq

def Precedence.rank : Precedence → Nat
  | jump => 0
  | assign => 1
  | range => 2
  | or => 3
  | and => 4
  | compare => 5
  | bitOr => 6
  | bitXor => 7
  | bitAnd => 8
  | shift => 9
  | sum => 10
  | product => 11
  | cast => 12

inductive Shape where
  | range
  /-- two operands and a comparison between them -/
  | comparison
  /-- a keyword with a block, or a block: a statement without a semicolon -/
  | block
  /-- a macro call with curly brackets -/
  | curlyMacro
  | other
deriving Repr, DecidableEq

inductive PatternShape where
  /-- a range without a lower or without an upper end, and where its dots stand -/
  | openRange (dots : Pos)
  | other
deriving Repr, DecidableEq

/-! ## Phrases -/

inductive Phrase where
  /-- with `plus`, bounds may follow a type behind plus signs -/
  | type (plus : Bool)
  /-- with `capture` it may be a capture list, with `constant` a constant trait -/
  | bound (capture constant : Bool)
  | pattern
  /-- without `structs`, a curly bracket behind a path belongs to what follows -/
  | expression (structs : Bool)
  /-- an expression where a statement or a case of a match starts -/
  | bounded
  /-- an expression without infix operators outside of brackets -/
  | operand (structs : Bool)
  /-- what follows a left operand: operators that bind at least as tightly as `least` -/
  | operation (structs : Bool) (least : Precedence) (left : Shape)
  /-- the inside of a block -/
  | statements
  | item

/-- What reading a phrase gives. -/
abbrev Phrase.Value : Phrase → Type
  | .type _ => ReadType
  | .bound .. => ReadBound
  | .pattern => PatternShape
  | .expression _ => Shape
  | .bounded => Shape
  | .operand _ => Shape
  | .operation .. => Shape
  | .statements => Unit
  | .item => Item

abbrev Grammar := (p : Phrase) → Reader p.Value

end EnumFamily.Source
