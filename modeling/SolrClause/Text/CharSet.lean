/-! Sets of characters, as ascending runs with a gap between each two. The surrogates, which are no
characters, are left out of the count, so that the characters around them are neighbours. -/

namespace SolrClause.Text

def rank (c : Char) : Nat := if c.toNat < 0xD800 then c.toNat else c.toNat - 0x800

def rankCount : Nat := 0x10F800

structure CharSet where
  runs : List (Nat × Nat)
  deriving DecidableEq, Hashable, Repr

namespace CharSet

def contains (set : CharSet) (c : Char) : Bool :=
  set.runs.any fun (first, last) => first ≤ rank c && rank c ≤ last

def isEmpty (set : CharSet) : Bool := set.runs.isEmpty

/-- Adds a run to others, and joins it with those that it meets. -/
def insertRun (first last : Nat) : List (Nat × Nat) → List (Nat × Nat)
  | [] => [(first, last)]
  | (a, b) :: rest =>
    if last + 1 < a then (first, last) :: (a, b) :: rest
    else if b + 1 < first then (a, b) :: insertRun first last rest
    else insertRun (min a first) (max b last) rest

/-- The runs between others, from a rank on. -/
def gaps (start : Nat) : List (Nat × Nat) → List (Nat × Nat)
  | [] => if start < rankCount then [(start, rankCount - 1)] else []
  | (a, b) :: rest =>
    if start < a then (start, a - 1) :: gaps (b + 1) rest else gaps (b + 1) rest

def empty : CharSet := ⟨[]⟩

def run (first last : Char) : CharSet := ⟨[(rank first, rank last)]⟩

def single (c : Char) : CharSet := run c c

def union (a b : CharSet) : CharSet :=
  ⟨b.runs.foldl (fun runs (first, last) => insertRun first last runs) a.runs⟩

def complement (a : CharSet) : CharSet := ⟨gaps 0 a.runs⟩

def both (a b : CharSet) : CharSet := (a.complement.union b.complement).complement

def without (a b : CharSet) : CharSet := a.both b.complement

def ofRuns (runs : List (Char × Char)) : CharSet :=
  (runs.map fun (first, last) => run first last).foldl union empty

def ofChars (chars : List Char) : CharSet := (chars.map single).foldl union empty

/-- The letter in the other case, for a letter of ASCII. -/
def otherCase (c : Char) : Char := if c.isUpper then c.toLower else c.toUpper

def letters : List Char :=
  "ABCDEFGHIJKLMNOPQRSTUVWXYZabcdefghijklmnopqrstuvwxyz".toList

/-- The set together with the other cases of its ASCII letters. -/
def anyCase (a : CharSet) : CharSet :=
  a.union (ofChars ((letters.filter a.contains).map otherCase))

/-- The set has no characters but those of ASCII. -/
def isAscii (a : CharSet) : Bool := a.runs.all fun (_, last) => last < 0x80

def isSingle (a : CharSet) : Bool :=
  match a.runs with
  | [(first, last)] => first = last
  | _ => false

end CharSet

end SolrClause.Text
