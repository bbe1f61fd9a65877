import SolrClause.Text.CharSet
import SolrClause.Text.Pattern.Fault

/-! Expressions: patterns as they are written, with the span of text of every part. What they mean
depends on the flags in force, so an expression is read before it is given a meaning. -/

namespace SolrClause.Text.Pattern

/-- A character, however it is written. -/
structure Literal where
  span : Span
  char : Char
  /-- Written as two hexadecimal digits after `x`, which may stand for a byte. -/
  isByte : Bool
  deriving DecidableEq, Repr

/-- A class with a one-letter name: its characters, or all others. -/
structure Shorthand where
  span : Span
  set : CharSet
  negated : Bool
  deriving DecidableEq, Repr

/-- A class by a property of the characters of all scripts. -/
structure Property where
  span : Span
  name : List Char
  /-- The name is followed by a value that the property should have. -/
  hasValue : Bool
  deriving DecidableEq, Repr

/-- A condition on a place, as it is written. -/
inductive Condition where
  | lineStart
  | lineEnd
  | textStart
  | textEnd
  | wordEdge
  | noWordEdge
  | wordStart
  | wordEnd
  | noWordBefore
  | noWordAfter
  deriving DecidableEq, Repr

/-- How the two sides of an operator between classes are combined. -/
inductive SetOperator where
  | both
  | without
  | oneOnly
  deriving DecidableEq, Repr

/-- What stands between the brackets of a class. -/
inductive ClassContent where
  | empty (span : Span)
  | literal (literal : Literal)
  | range (span : Span) (first last : Literal)
  | named (span : Span) (set : CharSet) (negated : Bool)
  | property (property : Property)
  | shorthand (shorthand : Shorthand)
  | bracketed (span : Span) (negated : Bool) (content : ClassContent)
  | union (span : Span) (items : List ClassContent)
  | operation (span : Span) (operator : SetOperator) (left right : ClassContent)
  deriving Repr

def ClassContent.span : ClassContent → Span
  | empty span => span
  | literal l => l.span
  | range span _ _ => span
  | named span _ _ => span
  | property p => p.span
  | shorthand s => s.span
  | bracketed span _ _ => span
  | union span _ => span
  | operation span _ _ _ => span

/-- The least and the most number of repetitions. -/
structure Counts where
  least : Nat
  most : Option Nat
  deriving DecidableEq, Repr

/-- A flag by its letter, turned on or off. -/
structure FlagChange where
  letter : Char
  on : Bool
  deriving DecidableEq, Repr

inductive Expression where
  | empty (span : Span)
  | flags (span : Span) (changes : List FlagChange)
  | literal (literal : Literal)
  | dot (span : Span)
  | condition (span : Span) (condition : Condition)
  | property (property : Property)
  | shorthand (shorthand : Shorthand)
  | bracketed (span : Span) (negated : Bool) (content : ClassContent)
  | repetition (span : Span) (counts : Counts) (body : Expression)
  | group (span : Span) (captures : Bool) (changes : List FlagChange) (body : Expression)
  | alternation (span : Span) (branches : List Expression)
  | concatenation (span : Span) (parts : List Expression)
  deriving Repr

def Expression.span : Expression → Span
  | empty span => span
  | flags span _ => span
  | literal l => l.span
  | dot span => span
  | condition span _ => span
  | property p => p.span
  | shorthand s => s.span
  | bracketed span _ _ => span
  | repetition span _ _ => span
  | group span _ _ _ => span
  | alternation span _ => span
  | concatenation span _ => span

/-! ### Nesting -/

/-- One level down, as long as the limit is not exceeded. -/
def descend (levels : Nat) (span : Span) : Except Fault Nat :=
  match levels with
  | 0 => .error (.of .tooDeep span.start span.stop)
  | levels + 1 => .ok levels

mutual

/-- Nothing in the class is nested deeper than the levels that are left. -/
def ClassContent.checkNesting : Nat → ClassContent → Except Fault Unit
  | levels, .bracketed span _ content => do
    let levels ← descend levels span
    content.checkNesting levels
  | levels, .union span items => do
    let levels ← descend levels span
    ClassContent.checkAll levels items
  | levels, .operation span _ left right => do
    let levels ← descend levels span
    left.checkNesting levels
    right.checkNesting levels
  | _, _ => .ok ()

def ClassContent.checkAll : Nat → List ClassContent → Except Fault Unit
  | _, [] => .ok ()
  | levels, item :: rest => do
    item.checkNesting levels
    ClassContent.checkAll levels rest

end

mutual

/-- Nothing in the expression is nested deeper than the levels that are left. -/
def Expression.checkNesting : Nat → Expression → Except Fault Unit
  | levels, .bracketed span _ content => do
    let levels ← descend levels span
    content.checkNesting levels
  | levels, .repetition span _ body => do
    let levels ← descend levels span
    body.checkNesting levels
  | levels, .group span _ _ body => do
    let levels ← descend levels span
    body.checkNesting levels
  | levels, .alternation span branches => do
    let levels ← descend levels span
    Expression.checkAll levels branches
  | levels, .concatenation span parts => do
    let levels ← descend levels span
    Expression.checkAll levels parts
  | _, _ => .ok ()

def Expression.checkAll : Nat → List Expression → Except Fault Unit
  | _, [] => .ok ()
  | levels, part :: rest => do
    part.checkNesting levels
    Expression.checkAll levels rest

end

end SolrClause.Text.Pattern
