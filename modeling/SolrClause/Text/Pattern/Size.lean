import SolrClause.Text.Encoded
import SolrClause.Text.Pattern

/-! The size of a pattern: what its automata take. One of them reads the bytes of a text forward,
the other one backward. Every state has a size of its own, and more for each way out of it where
there may be several: a branch, which is free to take, or a move, which takes a byte. -/

namespace SolrClause.Text.Pattern

inductive Direction where
  | forward
  | backward
  deriving DecidableEq, Repr

def stateSize : Nat := 32

def branchSize : Nat := 4

def moveSize : Nat := 8

/-- A state with two branches. -/
def forkSize : Nat := stateSize + 2 * branchSize

def total (sizes : List Nat) : Nat := sizes.foldr (· + ·) 0

/-- A state that moves on by one of several runs of bytes. -/
def movesSize (count : Nat) : Nat := stateSize + moveSize * count

/-- What may follow each of the first items of sequences, for different first items. -/
def groups [BEq α] (sequences : List (List α)) : List (List (List α)) :=
  (sequences.filterMap List.head?).eraseDups.map fun head =>
    sequences.filterMap fun
      | [] => none
      | item :: rest => if item == head then some rest else none

/-! ### Classes -/

/-- What may be left of the forms at the states that a forward automaton goes through. -/
def formStates : Nat → List (List ByteRun) → List (List (List ByteRun))
  | 0, _ => []
  | depth + 1, forms =>
    if forms.all (·.isEmpty) then [] else forms :: (groups forms).flatMap (formStates depth)

def longestForm : Nat := 4

/-- The states of a class, which are shared where the same is left of several forms. -/
def forwardClassSize (forms : List (List ByteRun)) : Nat :=
  stateSize + total ((formStates longestForm forms).eraseDups.map fun forms =>
    movesSize (groups forms).length)

/-- The states of a class, which are shared where several forms start with the same bytes. -/
def backwardClassSize (forms : List (List ByteRun)) : Nat :=
  let starts := forms.flatMap fun form =>
    (List.range form.length).map fun count => form.take (count + 1)
  2 * stateSize + branchSize * forms.length + stateSize * starts.eraseDups.length

def classSize (direction : Direction) (set : CharSet) : Nat :=
  if set.isSingle then stateSize * (total (set.forms.map List.length))
  else if set.isAscii then stateSize + movesSize set.runs.length
  else
    match direction with
    | .forward => forwardClassSize set.forms
    | .backward => backwardClassSize set.forms

/-! ### Literals -/

/-- The bytes of a pattern that finds one text only. -/
def literal? : Pattern → Option (List Nat)
  | one set => if set.isSingle then some (set.forms.flatten.map (·.1)) else none
  | chain a b => do
    let first ← a.literal?
    let rest ← b.literal?
    some (first ++ rest)
  | _ => none

/-- The sequences between the empty ones. -/
def betweenEmpty : List (List α) → List (List (List α))
  | [] => [[]]
  | sequence :: rest =>
    match sequence, betweenEmpty rest with
    | [], parts => [] :: parts
    | sequence, part :: parts => (sequence :: part) :: parts
    | sequence, [] => [[sequence]]

/-- The states for what is left of literals that have started with the same bytes. A literal that
ends here stands between those before it and those after it, each of which share their moves. -/
def literalStates : Nat → List (List Nat) → Nat
  | 0, _ => 0
  | depth + 1, literals =>
    if literals.all (·.isEmpty) then 0
    else
      let parts := betweenEmpty literals
      let moves := (parts.map groups).filter (!·.isEmpty)
      let branches := parts.length - 1 + moves.length
      stateSize + branchSize * branches + total (moves.map fun groups =>
        (if groups.length = 1 then stateSize else movesSize groups.length) +
          total (groups.map (literalStates depth)))

/-- The states of an automaton for one of several literals. -/
def literalsSize (literals : List (List Nat)) : Nat :=
  let depth := (literals.map List.length).foldr max 0
  stateSize + literalStates (depth + 1) literals

/-! ### Patterns -/

/-- Whether the pattern never finds the empty text; not known with a class without characters. -/
def takesBytes? : Pattern → Option Bool
  | nothing => some false
  | one set => if set.isEmpty then none else some true
  | anchor _ => some false
  | chain a b => do
    let first ← a.takesBytes?
    let second ← b.takesBytes?
    some (first || second)
  | either a b => do
    let first ← a.takesBytes?
    let second ← b.takesBytes?
    some (first && second)
  | repeated a least _ => a.takesBytes?.map (0 < least && ·)
  | captured a => a.takesBytes?

/-- The size of a repetition of a pattern, whose rounds are of one size. -/
def repeatedSize (p : Pattern) (round least : Nat) : Option Nat → Nat
  | none =>
    if 0 < least then least * round + forkSize
    else if p.takesBytes? = some true then round + forkSize
    else round + 2 * forkSize + stateSize
  | some most =>
    let optional := (most - least) * (round + forkSize)
    if least = most then least * round
    else if least = 0 && most = 1 then optional + stateSize
    else (if least = 0 then stateSize else least * round) + stateSize + optional

def wholeSize (direction : Direction) (p : Pattern) (parts : Nat) : Nat :=
  match p with
  | either _ _ =>
    match p.branches.mapM literal? with
    | some literals =>
      match direction with
      | .forward => literalsSize literals
      | .backward => literalsSize (literals.map List.reverse)
    | none => 2 * stateSize + branchSize * p.branches.length + parts
  | _ => parts

def partsSize (direction : Direction) : Pattern → Nat
  | nothing => stateSize
  | one set => classSize direction set
  | anchor _ => stateSize
  | chain a b =>
    a.wholeSize direction (a.partsSize direction) + b.wholeSize direction (b.partsSize direction)
  | either a b => a.partsSize direction + b.partsSize direction
  | repeated a least most =>
    a.repeatedSize (a.wholeSize direction (a.partsSize direction)) least most
  | captured a =>
    let inner := a.wholeSize direction (a.partsSize direction)
    if direction = .forward then inner + 2 * stateSize else inner

/-- What is found has to begin at the start of the text. -/
def opensAtStart : Pattern → Bool
  | anchor condition => condition = .start
  | chain a b => a.opensAtStart || a.takesNothing && b.opensAtStart
  | either a b => a.opensAtStart && b.opensAtStart
  | repeated a least _ => 0 < least && a.opensAtStart
  | captured a => a.opensAtStart
  | _ => false

/-- What is found has to end at the end of the text. -/
def closesAtFinish : Pattern → Bool
  | anchor condition => condition = .finish
  | chain a b => b.closesAtFinish || b.takesNothing && a.closesAtFinish
  | either a b => a.closesAtFinish && b.closesAtFinish
  | repeated a least _ => 0 < least && a.closesAtFinish
  | captured a => a.closesAtFinish
  | _ => false

/-- What goes before a pattern: any bytes, unless it is bound to the end where the automaton
starts. -/
def entrySize (isBound : Bool) : Nat :=
  if isBound then stateSize else forkSize + stateSize + movesSize 1

def size (direction : Direction) (p : Pattern) : Nat :=
  let whole := (captured p).partsSize direction
  let isBound := match direction with
    | .forward => p.opensAtStart
    | .backward => p.closesAtFinish
  entrySize isBound + whole + stateSize

end SolrClause.Text.Pattern
