import Std.Data.HashSet
import SolrClause.Text.CharSet

/-! Patterns: regular expressions over characters, with conditions on the place between two
characters. A text is searched in one pass that keeps what is left to be found of each attempt, so
the work is bounded by the length of the text and the size of the pattern. -/

namespace SolrClause.Text

/-- A place between two characters, either of which is missing at an end of the text. -/
structure Place where
  before : Option Char
  after : Option Char

/-- A condition on a place. With `crlf` a carriage return ends a line as well. -/
inductive Anchor where
  | start
  | finish
  | lineStart (crlf : Bool)
  | lineEnd (crlf : Bool)
  | wordStart
  | wordEnd
  | wordEdge
  | noWordEdge
  | noWordBefore
  | noWordAfter
  /-- A condition on words of all scripts, whose letters are not known here. It is never met. -/
  | unsettled
  deriving DecidableEq, Hashable, Repr

def isWordChar (c : Char) : Bool := c.isAlphanum || c = '_'

namespace Place

def afterWord (place : Place) : Bool := place.before.any isWordChar

def beforeWord (place : Place) : Bool := place.after.any isWordChar

def meets (place : Place) : Anchor → Bool
  | .start => place.before = none
  | .finish => place.after = none
  | .lineStart false => place.before = none || place.before = some '\n'
  | .lineStart true =>
    place.before = none || place.before = some '\n' ||
      place.before = some '\r' && place.after ≠ some '\n'
  | .lineEnd false => place.after = none || place.after = some '\n'
  | .lineEnd true =>
    place.after = none || place.after = some '\r' ||
      place.after = some '\n' && place.before ≠ some '\r'
  | .wordStart => !place.afterWord && place.beforeWord
  | .wordEnd => place.afterWord && !place.beforeWord
  | .wordEdge => place.afterWord != place.beforeWord
  | .noWordEdge => place.afterWord == place.beforeWord
  | .noWordBefore => !place.afterWord
  | .noWordAfter => !place.beforeWord
  | .unsettled => false

end Place

inductive Pattern where
  | nothing
  | one (set : CharSet)
  | anchor (condition : Anchor)
  | chain (a b : Pattern)
  | either (a b : Pattern)
  /-- At least `least` times, and at most `most` times if there is a limit. -/
  | repeated (a : Pattern) (least : Nat) (most : Option Nat)
  /-- A part whose place in the text could be asked for. -/
  | captured (a : Pattern)
  deriving DecidableEq, Hashable, Repr

namespace Pattern

/-- One after the other, where finding nothing leaves no trace. -/
def andThen : Pattern → Pattern → Pattern
  | nothing, next => next
  | p, nothing => p
  | p, next => chain p next

def sequence (patterns : List Pattern) : Pattern := patterns.foldr andThen nothing

/-- The pattern has no characters in it. A class without characters counts as one. -/
def takesNothing : Pattern → Bool
  | nothing => true
  | one _ => false
  | anchor _ => true
  | chain a b => a.takesNothing && b.takesNothing
  | either a b => a.takesNothing && b.takesNothing
  | repeated a _ _ => a.takesNothing
  | captured a => a.takesNothing

/-- The patterns of which one has to be found. -/
def branches : Pattern → List Pattern
  | either a b => a.branches ++ b.branches
  | p => [p]

/-- Some part waits for what is not known here. -/
def isUnsettled : Pattern → Bool
  | nothing => false
  | one _ => false
  | anchor condition => condition = .unsettled
  | chain a b => a.isUnsettled || b.isUnsettled
  | either a b => a.isUnsettled || b.isUnsettled
  | repeated a _ _ => a.isUnsettled
  | captured a => a.isUnsettled

def isEmptyAt (place : Place) : Pattern → Bool
  | nothing => true
  | one _ => false
  | anchor condition => place.meets condition
  | chain a b => a.isEmptyAt place && b.isEmptyAt place
  | either a b => a.isEmptyAt place || b.isEmptyAt place
  | repeated a least _ => least = 0 || a.isEmptyAt place
  | captured a => a.isEmptyAt place

/-- What is left of a repetition after one of its rounds. -/
def nextRound (a : Pattern) (least : Nat) : Option Nat → Pattern
  | none => repeated a (least - 1) none
  | some most => if most ≤ 1 then nothing else repeated a (least - 1) (some (most - 1))

/-- What may be left to be found after a character, which stands after the place. Where a round of a
repetition may be empty, all that have to come can be spent at the place. -/
def step (place : Place) (c : Char) : Pattern → List Pattern
  | nothing => []
  | one set => if set.contains c then [nothing] else []
  | anchor _ => []
  | chain a b =>
    (a.step place c).map (andThen · b) ++ if a.isEmptyAt place then b.step place c else []
  | either a b => a.step place c ++ b.step place c
  | repeated a least most =>
    let next := a.nextRound (if a.isEmptyAt place then 0 else least) most
    if most = some 0 then [] else (a.step place c).map (andThen · next)
  | captured a => a.step place c

/-- The patterns in some order, each of them once. -/
def distinct (patterns : List Pattern) : List Pattern := (Std.HashSet.ofList patterns).toList

/-- One of the attempts, or one that starts here or later, finds what it looks for. -/
def searchFrom (p : Pattern) (attempts : List Pattern) (before : Option Char) : List Char → Bool
  | [] => (p :: attempts).any (isEmptyAt ⟨before, none⟩)
  | c :: rest =>
    let place : Place := ⟨before, some c⟩
    let attempts := distinct (p :: attempts)
    attempts.any (isEmptyAt place) ||
      p.searchFrom (attempts.flatMap (step place c)) (some c) rest

def occursIn (p : Pattern) (text : List Char) : Bool := p.searchFrom [] none text

end Pattern

end SolrClause.Text
