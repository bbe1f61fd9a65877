import SolrClause.Text.Digits
import SolrClause.Text.Letters
import SolrClause.Text.Pattern.Expression

/-! Reading expressions from their text. The text is read from left to right, with the groups that
are open kept on a stack, and the first flaw in how it is written is reported. In a loose text,
blanks and comments may stand between the parts. -/

namespace SolrClause.Text.Pattern

structure Cursor where
  index : Nat
  rest : List Char

namespace Cursor

/-- The cursor after `count` characters, which leave `rest`. -/
def past (cursor : Cursor) (count : Nat) (rest : List Char) : Cursor :=
  ⟨cursor.index + count, rest⟩

/-- The place after blanks and comments. -/
def afterIgnored (inComment : Bool) (index : Nat) : List Char → Cursor
  | [] => ⟨index, []⟩
  | c :: rest =>
    if inComment then afterIgnored (c ≠ '\n') (index + 1) rest
    else if isBlank c then afterIgnored false (index + 1) rest
    else if c = '#' then afterIgnored true (index + 1) rest
    else ⟨index, c :: rest⟩

def skip (loose : Bool) (cursor : Cursor) : Cursor :=
  if loose then afterIgnored false cursor.index cursor.rest else cursor

/-- The place after blanks, which stand between the parts of a count in every text. -/
def skipBlanks (cursor : Cursor) : Cursor :=
  let rest := trimStart cursor.rest
  cursor.past (cursor.rest.length - rest.length) rest

def flaw (cursor : Cursor) (flaw : Flaw) (start : Nat) : Fault := .of flaw start cursor.index

/-- The flaw at the place of the cursor, between two characters. -/
def flawHere (cursor : Cursor) (flaw : Flaw) : Fault := .of flaw cursor.index cursor.index

def flawAt (cursor : Cursor) (flaw : Flaw) : Fault := .of flaw cursor.index (cursor.index + 1)

end Cursor

/-! ### Escapes -/

/-- What an escape or a single character stands for. -/
inductive Primitive where
  | literal (literal : Literal)
  | condition (span : Span) (condition : Condition)
  | property (property : Property)
  | shorthand (shorthand : Shorthand)
  deriving Repr

namespace Primitive

def span : Primitive → Span
  | literal l => l.span
  | condition span _ => span
  | property p => p.span
  | shorthand s => s.span

def toExpression : Primitive → Expression
  | literal l => .literal l
  | condition span c => .condition span c
  | property p => .property p
  | shorthand s => .shorthand s

end Primitive

def digitSet : CharSet := .run '0' '9'

def spaceSet : CharSet := .ofChars ['\t', '\n', '\x0b', '\x0c', '\r', ' ']

def wordSet : CharSet := .ofRuns [('0', '9'), ('A', 'Z'), ('_', '_'), ('a', 'z')]

/-- The class that a letter after a backslash names, and whether its other characters are meant. -/
def shorthand? : Char → Option (CharSet × Bool)
  | 'd' => some (digitSet, false)
  | 's' => some (spaceSet, false)
  | 'w' => some (wordSet, false)
  | 'D' => some (digitSet, true)
  | 'S' => some (spaceSet, true)
  | 'W' => some (wordSet, true)
  | _ => none

/-- The character that a letter after a backslash stands for. -/
def control? : Char → Option Char
  | 'a' => some '\x07'
  | 'f' => some '\x0c'
  | 't' => some '\t'
  | 'n' => some '\n'
  | 'r' => some '\r'
  | 'v' => some '\x0b'
  | _ => none

/-- The condition that a letter or bracket after a backslash names. -/
def condition? : Char → Option Condition
  | 'A' => some .textStart
  | 'z' => some .textEnd
  | 'b' => some .wordEdge
  | 'B' => some .noWordEdge
  | '<' => some .wordStart
  | '>' => some .wordEnd
  | _ => none

/-- The condition that a name in braces after `b` names. -/
def boundary? (name : List Char) : Option Condition :=
  if name = "start".toList then some .wordStart
  else if name = "end".toList then some .wordEnd
  else if name = "start-half".toList then some .noWordBefore
  else if name = "end-half".toList then some .noWordAfter
  else none

/-- A character that stands for itself after a backslash. -/
def isPlainEscape (c : Char) : Bool := c.toNat < 0x80 && !c.isAlphanum && c ≠ '<' && c ≠ '>'

/-- The character with a code point that hexadecimal digits write. -/
def charOfHex? (digits : List Char) : Option Char := do
  let values ← digits.mapM hexValue?
  let code := values.foldl (fun code value => 16 * code + value) 0
  if code < 0xD800 || 0xDFFF < code && code < 0x110000 then some (Char.ofNat code) else none

/-- The hexadecimal digits after the first `digits`, as many as `count` says. -/
def readHexDigits (loose : Bool) (start : Nat) (digits : List Char) :
    Nat → Cursor → Except Fault (Char × Cursor)
  | 0, cursor =>
    match charOfHex? digits with
    | some c => .ok (c, cursor)
    | none => .error (cursor.flaw .hexInvalid start)
  | count + 1, cursor =>
    match cursor.rest with
    | [] => .error (cursor.flawHere .escapeUnfinished)
    | c :: rest =>
      if (hexValue? c).isSome then
        readHexDigits loose start (digits ++ [c]) count ((cursor.past 1 rest).skip loose)
      else .error (cursor.flawAt .hexDigit)

/-- The hexadecimal digits up to a closing brace, where the opening one stands at `brace`. -/
def readHexBrace (loose : Bool) (brace : Nat) (digits : List Char) :
    Nat → Cursor → Except Fault (Char × Cursor)
  | 0, cursor => .error (cursor.flaw .escapeUnfinished brace)
  | fuel + 1, cursor =>
    match cursor.rest with
    | [] => .error (cursor.flaw .escapeUnfinished brace)
    | c :: rest =>
      let after := (cursor.past 1 rest).skip loose
      if c = '}' then
        if digits.isEmpty then .error (after.flaw .hexEmpty brace)
        else
          match charOfHex? digits with
          | some c => .ok (c, after)
          | none => .error (cursor.flaw .hexInvalid (brace + 1))
      else if (hexValue? c).isSome then readHexBrace loose brace (digits ++ [c]) fuel after
      else .error (cursor.flawAt .hexDigit)

/-- A code point after the letter at the cursor: in braces, or as a fixed number of digits. -/
def readHex (loose : Bool) (start : Nat) (cursor : Cursor) (letter : Char) :
    Except Fault (Literal × Cursor) := do
  let cursor := cursor.skip loose
  let count := if letter = 'x' then 2 else if letter = 'u' then 4 else 8
  match cursor.rest with
  | [] => .error (cursor.flawHere .escapeUnfinished)
  | '{' :: rest =>
    let first := (cursor.past 1 rest).skip loose
    let (c, after) ← readHexBrace loose cursor.index [] (rest.length + 1) first
    .ok (⟨⟨start, after.index⟩, c, false⟩, after)
  | _ =>
    let (c, after) ← readHexDigits loose cursor.index [] count cursor
    .ok (⟨⟨start, after.index⟩, c, letter = 'x'⟩, after)

def readBraced (loose : Bool) (content : List Char) :
    Nat → Cursor → Except Fault (List Char × Cursor)
  | 0, cursor => .error (cursor.flawHere .escapeUnfinished)
  | fuel + 1, cursor =>
    match cursor.rest with
    | [] => .error (cursor.flawHere .escapeUnfinished)
    | c :: rest =>
      if c = '}' then .ok (content.reverse, cursor.past 1 rest)
      else readBraced loose (c :: content) fuel ((cursor.past 1 rest).skip loose)

/-- The name before a colon or an equals sign, and whether there is one. -/
def splitProperty : List Char → List Char × Bool
  | [] => ([], false)
  | c :: rest =>
    if c = ':' || c = '=' then ([], true)
    else
      let (name, hasValue) := splitProperty rest
      (c :: name, hasValue)

/-- A property after the letter `p`: one letter, or a name in braces. -/
def readProperty (loose : Bool) (start : Nat) (cursor : Cursor) :
    Except Fault (Property × Cursor) := do
  let cursor := cursor.skip loose
  match cursor.rest with
  | [] => .error (cursor.flawHere .escapeUnfinished)
  | c :: rest =>
    let after := (cursor.past 1 rest).skip loose
    if c = '{' then
      let (content, after) ← readBraced loose [] (rest.length + 1) after
      let (name, hasValue) := splitProperty content
      .ok (⟨⟨start, after.index⟩, name, hasValue⟩, after)
    else if c = '\\' then .error (cursor.flawAt .propertyInvalid)
    else .ok (⟨⟨start, after.index⟩, [c], false⟩, after)

def isBoundaryLetter (c : Char) : Bool := c.isAlpha || c = '-'

def readBoundaryName (loose : Bool) (name : List Char) : Nat → Cursor → List Char × Cursor
  | 0, cursor => (name.reverse, cursor)
  | fuel + 1, cursor =>
    match cursor.rest with
    | [] => (name.reverse, cursor)
    | c :: rest =>
      if isBoundaryLetter c then
        readBoundaryName loose (c :: name) fuel ((cursor.past 1 rest).skip loose)
      else (name.reverse, cursor)

/-- A boundary of words whose `b` stands before the cursor and its backslash at `start`: with a name
in braces, or plain. Braces with a count belong to what follows. -/
def readBoundary (loose : Bool) (start : Nat) (cursor : Cursor) :
    Except Fault (Condition × Cursor) :=
  match cursor.rest with
  | '{' :: rest =>
    let first := (cursor.past 1 rest).skip loose
    match first.rest with
    | [] => .error (first.flaw .braceUnclosed start)
    | c :: _ =>
      if !isBoundaryLetter c then .ok (.wordEdge, cursor)
      else
        let (name, after) := readBoundaryName loose [] (rest.length + 1) first
        match after.rest with
        | '}' :: rest =>
          match boundary? name with
          | some condition => .ok (condition, after.past 1 rest)
          | none => .error (after.flaw .boundaryUnknown first.index)
        | _ => .error (after.flaw .boundaryUnclosed cursor.index)
  | _ => .ok (.wordEdge, cursor)

/-- What a backslash at `start` and the text after it stand for. -/
def readEscape (loose : Bool) (start : Nat) (cursor : Cursor) :
    Except Fault (Primitive × Cursor) := do
  match cursor.rest with
  | [] => .error (cursor.flaw .escapeUnfinished start)
  | c :: rest =>
    let after := cursor.past 1 rest
    let span : Span := ⟨start, after.index⟩
    if isDigit c then .error (after.flaw .backreference start)
    else if c = 'x' || c = 'u' || c = 'U' then
      let (l, after) ← readHex loose start after c
      .ok (.literal l, after)
    else if c = 'p' || c = 'P' then
      let (p, after) ← readProperty loose start after
      .ok (.property p, after)
    else if isPlainEscape c then .ok (.literal ⟨span, c, false⟩, after)
    else if c = 'b' then
      let (condition, after) ← readBoundary loose start after
      .ok (.condition ⟨start, after.index⟩ condition, after)
    else
      match shorthand? c, control? c, condition? c with
      | some (set, negated), _, _ => .ok (.shorthand ⟨span, set, negated⟩, after)
      | _, some c, _ => .ok (.literal ⟨span, c, false⟩, after)
      | _, _, some condition => .ok (.condition span condition, after)
      | _, _, _ => .error (after.flaw .escapeUnknown start)

/-! ### Classes -/

/-- The names of the ASCII classes that brackets and colons enclose. -/
def namedSet? (name : String) : Option CharSet :=
  match name with
  | "alnum" => some (.ofRuns [('0', '9'), ('A', 'Z'), ('a', 'z')])
  | "alpha" => some (.ofRuns [('A', 'Z'), ('a', 'z')])
  | "ascii" => some (.run '\x00' '\x7f')
  | "blank" => some (.ofChars ['\t', ' '])
  | "cntrl" => some (.ofRuns [('\x00', '\x1f'), ('\x7f', '\x7f')])
  | "digit" => some digitSet
  | "graph" => some (.run '!' '~')
  | "lower" => some (.run 'a' 'z')
  | "print" => some (.run ' ' '~')
  | "punct" => some (.ofRuns [('!', '/'), (':', '@'), ('[', '\x60'), ('{', '~')])
  | "space" => some spaceSet
  | "upper" => some (.run 'A' 'Z')
  | "word" => some wordSet
  | "xdigit" => some (.ofRuns [('0', '9'), ('A', 'F'), ('a', 'f')])
  | _ => none

/-- The named class whose opening bracket the cursor is at, if there is one. -/
def readNamed? (cursor : Cursor) : Option (ClassContent × Cursor) := do
  let '[' :: ':' :: rest := cursor.rest | none
  let (negated, rest) := match rest with
    | '^' :: rest => (true, rest)
    | rest => (false, rest)
  let (name, after) := rest.span (· ≠ ':')
  let ':' :: ']' :: after := after | none
  let set ← namedSet? (String.ofList name)
  let stop := cursor.past (cursor.rest.length - after.length) after
  some (.named ⟨cursor.index, stop.index⟩ set negated, stop)

def readClassPrimitive (loose : Bool) (cursor : Cursor) (c : Char) (rest : List Char) :
    Except Fault (Primitive × Cursor) :=
  let after := cursor.past 1 rest
  if c = '\\' then readEscape loose cursor.index after
  else .ok (.literal ⟨⟨cursor.index, after.index⟩, c, false⟩, after)

/-- An item of a class, which may not be a condition. -/
def classItem : Primitive → Except Fault ClassContent
  | .literal l => .ok (.literal l)
  | .property p => .ok (.property p)
  | .shorthand s => .ok (.shorthand s)
  | .condition span _ => .error (.of .classEscape span.start span.stop)

/-- The boundary of a range, which has to be a character. -/
def rangeBoundary : Primitive → Except Fault Literal
  | .literal l => .ok l
  | p => .error (.of .classRangeBoundary p.span.start p.span.stop)

/-- The character that comes first after blanks, and after a number sign among them. -/
def firstShown? (inComment : Bool) : List Char → Option Char
  | [] => none
  | c :: rest =>
    if isBlank c then firstShown? inComment rest
    else if !inComment && c = '#' then firstShown? true rest
    else some c

/-- The character after a dash that decides whether the dash makes a range. -/
def afterDash? (loose : Bool) (rest : List Char) : Option Char :=
  if loose then (firstShown? false rest).orElse fun _ => rest.head? else rest.head?

def readRange (loose : Bool) (unclosed : Fault) (cursor : Cursor) (c : Char) (rest : List Char) :
    Except Fault (ClassContent × Cursor) := do
  let (first, after) ← readClassPrimitive loose cursor c rest
  let next := after.skip loose
  let single : Except Fault (ClassContent × Cursor) := do
    let item ← classItem first
    .ok (item, next)
  match next.rest with
  | [] => .error unclosed
  | '-' :: rest =>
    if afterDash? loose rest = some ']' || afterDash? loose rest = some '-' then single
    else
      let second := (next.past 1 rest).skip loose
      match second.rest with
      | [] => .error unclosed
      | d :: rest =>
        let (last, stop) ← readClassPrimitive loose second d rest
        let span : Span := ⟨first.span.start, last.span.stop⟩
        let low ← rangeBoundary first
        let high ← rangeBoundary last
        if high.char < low.char then .error (.of .classRange span.start span.stop)
        else .ok (.range span low high, stop)
  | _ => single

/-- An operator between classes at the front of a text. -/
def setOperator? : List Char → Option (SetOperator × List Char)
  | '&' :: '&' :: rest => some (.both, rest)
  | '-' :: '-' :: rest => some (.without, rest)
  | '~' :: '~' :: rest => some (.oneOnly, rest)
  | _ => none

/-- Items of a class that are joined, with the last one first. -/
structure Union where
  start : Nat
  items : List ClassContent

namespace Union

def push (union : Union) (item : ClassContent) : Union :=
  { union with items := item :: union.items }

def content (union : Union) : ClassContent :=
  match union.items.reverse with
  | [] => .empty ⟨union.start, union.start⟩
  | [item] => item
  | first :: rest =>
    let stop := match union.items with
      | last :: _ => last.span.stop
      | [] => first.span.stop
    .union ⟨first.span.start, stop⟩ (first :: rest)

end Union

/-- The dashes at the front of a class, which stand for themselves. -/
def readDashes (loose : Bool) (start : Nat) (union : Union) :
    Nat → Cursor → Except Fault (Union × Cursor)
  | 0, cursor => .ok (union, cursor)
  | fuel + 1, cursor =>
    match cursor.rest with
    | [] => .error (.of .classUnclosed start start)
    | '-' :: rest =>
      let after := cursor.past 1 rest
      let dash : Literal := ⟨⟨cursor.index, after.index⟩, '-', false⟩
      readDashes loose start (union.push (.literal dash)) fuel (after.skip loose)
    | _ => .ok (union, cursor)

/-- What a class starts with: whether it is negated, and the dashes or the bracket that stand for
themselves. Its opening bracket stands at `start`, before the cursor. -/
def readClassStart (loose : Bool) (start : Nat) (cursor : Cursor) :
    Except Fault (Bool × Union × Cursor) := do
  let cursor := cursor.skip loose
  let (negated, cursor) := match cursor.rest with
    | '^' :: rest => (true, (cursor.past 1 rest).skip loose)
    | _ => (false, cursor)
  if cursor.rest.isEmpty then .error (cursor.flaw .classUnclosed start)
  else
    let fuel := cursor.rest.length + 1
    let (union, after) ← readDashes loose start ⟨cursor.index, []⟩ fuel cursor
    match union.items, after.rest with
    | [], ']' :: rest =>
      let next := after.past 1 rest
      let bracket : Literal := ⟨⟨after.index, next.index⟩, ']', false⟩
      let next := next.skip loose
      if next.rest.isEmpty then .error (next.flaw .classUnclosed start)
      else .ok (negated, union.push (.literal bracket), next)
    | _, _ => .ok (negated, union, after)

/-- The left side of an operator that waits for its right side. -/
abbrev Pending := Option (SetOperator × ClassContent)

/-- The content of both sides of the operator, if one is waiting. -/
def Pending.complete (pending : Pending) (right : ClassContent) : ClassContent :=
  match pending with
  | some (operator, left) => .operation ⟨left.span.start, right.span.stop⟩ operator left right
  | none => right

mutual

/-- The class whose opening bracket stands at `start`, before the cursor. -/
def readClass (loose : Bool) : Nat → Nat → Cursor → Except Fault (Bool × ClassContent × Cursor)
  | 0, start, cursor => .error (cursor.flaw .classUnclosed start)
  | fuel + 1, start, cursor => do
    let (negated, union, cursor) ← readClassStart loose start cursor
    let (content, after) ←
      readClassRest loose fuel (cursor.flaw .classUnclosed start) none union cursor
    .ok (negated, content, after)

def readClassRest (loose : Bool) :
    Nat → Fault → Pending → Union → Cursor → Except Fault (ClassContent × Cursor)
  | 0, unclosed, _, _, _ => .error unclosed
  | fuel + 1, unclosed, pending, union, cursor => do
    let cursor := cursor.skip loose
    match cursor.rest with
    | [] => .error unclosed
    | ']' :: rest => .ok (pending.complete union.content, cursor.past 1 rest)
    | c :: rest =>
      match setOperator? (c :: rest) with
      | some (operator, rest) =>
        let after := cursor.past 2 rest
        let pending := some (operator, pending.complete union.content)
        readClassRest loose fuel unclosed pending ⟨after.index, []⟩ after
      | none =>
        if c = '[' then
          match readNamed? cursor with
          | some (item, after) => readClassRest loose fuel unclosed pending (union.push item) after
          | none =>
            let (negated, inner, after) ← readClass loose fuel cursor.index (cursor.past 1 rest)
            let item := ClassContent.bracketed ⟨cursor.index, after.index⟩ negated inner
            readClassRest loose fuel unclosed pending (union.push item) after
        else
          let (item, after) ← readRange loose unclosed cursor c rest
          readClassRest loose fuel unclosed pending (union.push item) after

end

/-! ### Repetitions -/

def largestCount : Nat := 4294967295

/-- The digits of a number, between which blanks and comments may stand in a loose text. -/
def readCountDigits (loose : Bool) (digits : List Char) : Nat → Cursor → List Char × Cursor
  | 0, cursor => (digits.reverse, cursor)
  | fuel + 1, cursor =>
    match cursor.rest with
    | [] => (digits.reverse, cursor)
    | c :: rest =>
      if isDigit c then readCountDigits loose (c :: digits) fuel ((cursor.past 1 rest).skip loose)
      else (digits.reverse, cursor)

/-- A number or what is wrong with it, and the place after it. -/
def readCount (loose : Bool) (cursor : Cursor) : Except Fault Nat × Cursor :=
  let start := cursor.skipBlanks
  let (digits, stop) := readCountDigits loose [] (start.rest.length + 1) start
  let count : Except Fault Nat :=
    if digits.isEmpty then .error (stop.flaw .countMissing start.index)
    else if largestCount < decimalValue digits then
      .error (stop.flaw .decimalInvalid start.index)
    else .ok (decimalValue digits)
  (count, stop.skipBlanks)

/-- The cursor after a question mark, which makes no difference to what is found. -/
def skipLazy (cursor : Cursor) : Cursor :=
  match cursor.rest with
  | '?' :: rest => cursor.past 1 rest
  | _ => cursor

/-- The counts whose opening brace stands at `start`, before the cursor. -/
def readCounts (loose : Bool) (start : Nat) (cursor : Cursor) :
    Except Fault (Counts × Cursor) := do
  let unclosed (cursor : Cursor) : Fault := cursor.flaw .countUnclosed start
  let cursor := cursor.skip loose
  if cursor.rest.isEmpty then .error (unclosed cursor)
  else
    let (least, next) := readCount loose cursor
    let (counts, stop) ← match next.rest with
      | [] => .error (unclosed next)
      | ',' :: rest =>
        let after := (next.past 1 rest).skip loose
        match after.rest with
        | [] => .error (unclosed after)
        | '}' :: _ => do
          let least ← least
          .ok (Counts.mk least none, after)
        | _ => do
          let least ← least
          let (most, after) := readCount loose after
          let most ← most
          .ok (Counts.mk least (some most), after)
      | _ => do
        let least ← least
        .ok (Counts.mk least (some least), next)
    match stop.rest with
    | '}' :: rest =>
      let after := skipLazy ((stop.past 1 rest).skip loose)
      if counts.most.any (· < counts.least) then .error (after.flaw .countOrder start)
      else .ok (counts, after)
    | _ => .error (unclosed stop)

/-! ### Groups -/

/-- The alternatives of a group so far, and the parts of the last one, each with the last first. -/
structure Level where
  start : Nat := 0
  branches : List Expression := []
  branchStart : Nat := 0
  parts : List Expression := []

namespace Level

def startingAt (index : Nat) : Level := { start := index, branchStart := index }

def push (level : Level) (part : Expression) : Level := { level with parts := part :: level.parts }

def branch (level : Level) (stop : Nat) : Expression :=
  match level.parts with
  | [] => .empty ⟨level.branchStart, stop⟩
  | [part] => part
  | parts => .concatenation ⟨level.branchStart, stop⟩ parts.reverse

/-- Goes on to the next alternative after the bar at `stop`. -/
def nextBranch (level : Level) (stop : Nat) : Level :=
  { level with
    branches := level.branch stop :: level.branches, branchStart := stop + 1, parts := [] }

/-- The expression of all alternatives, which end at `stop`. -/
def expression (level : Level) (stop : Nat) : Expression :=
  match level.branches with
  | [] => level.branch stop
  | branches => .alternation ⟨level.start, stop⟩ (level.branch stop :: branches).reverse

end Level

/-- A group that has not been closed yet, with what is taken up again after it. -/
structure OpenGroup where
  start : Nat
  captures : Bool
  changes : List FlagChange
  outer : Level
  loose : Bool

structure Progress where
  loose : Bool := false
  level : Level := {}
  groups : List OpenGroup := []
  names : List (List Char × Span) := []

namespace Progress

def push (progress : Progress) (part : Expression) : Progress :=
  { progress with level := progress.level.push part }

/-- The last part, which can be repeated, and the progress without it; the operator stands at
`index`. -/
def popRepeatable (progress : Progress) (index : Nat) : Except Fault (Expression × Progress) :=
  match progress.level.parts with
  | [] | .flags _ _ :: _ => .error (.of .repetitionMissing index index)
  | part :: parts => .ok (part, { progress with level := { progress.level with parts := parts } })

/-- The part as often as the counts say, up to `stop`. -/
def pushRepetition (progress : Progress) (counts : Counts) (part : Expression) (stop : Nat) :
    Progress :=
  progress.push (.repetition ⟨part.span.start, stop⟩ counts part)

/-- Opens a group whose bracket stands at `start` and whose content starts at `index`. -/
def openGroup (progress : Progress) (start : Nat) (captures : Bool) (changes : List FlagChange)
    (loose : Bool) (index : Nat) : Progress :=
  { progress with
    loose := loose
    level := .startingAt index
    groups := ⟨start, captures, changes, progress.level, progress.loose⟩ :: progress.groups }

/-- Closes the innermost group with a bracket at `index`. -/
def closeGroup (progress : Progress) (index : Nat) : Except Fault Progress :=
  match progress.groups with
  | [] => .error (.of .groupUnopened index (index + 1))
  | group :: groups =>
    let body := progress.level.expression index
    let part := Expression.group ⟨group.start, index + 1⟩ group.captures group.changes body
    .ok { progress with loose := group.loose, level := group.outer.push part, groups := groups }

end Progress

def isNameChar (isFirst : Bool) (c : Char) : Bool :=
  if isFirst then c = '_' || isAlphabetic c
  else c = '_' || c = '.' || c = '[' || c = ']' || isAlphabetic c || isNumeric c

/-- The name up to a closing angle bracket, which the cursor is left at. -/
def readName (isFirst : Bool) (name : List Char) (index : Nat) :
    List Char → Except Fault (List Char × Cursor)
  | [] => .error (.of .nameUnclosed index index)
  | c :: rest =>
    if c = '>' then .ok (name.reverse, ⟨index, c :: rest⟩)
    else if isNameChar isFirst c then readName false (c :: name) (index + 1) rest
    else .error (.of .nameInvalid index (index + 1))

/-- Opens a group whose name starts at the cursor. -/
def openNamed (progress : Progress) (start : Nat) (cursor : Cursor) :
    Except Fault (Progress × Cursor) := do
  let (name, stop) ← readName true [] cursor.index cursor.rest
  let after := stop.past 1 (stop.rest.drop 1)
  let span : Span := ⟨cursor.index, stop.index⟩
  if name.isEmpty then .error (cursor.flawHere .nameEmpty)
  else
    match progress.names.find? (·.1 = name) with
    | some (_, earlier) => .error (.located .nameDuplicate [earlier, span])
    | none =>
      let progress := { progress with names := (name, span) :: progress.names }
      .ok (progress.openGroup start true [] progress.loose after.index, after)

def flagLetters : List Char := ['i', 'm', 's', 'R', 'u', 'x', 'U']

/-- Flags up to a colon or a closing bracket. -/
structure FlagsRead where
  changes : List FlagChange
  /-- Nothing stands there, not even a dash. -/
  isEmpty : Bool
  /-- A closing bracket ends the flags. -/
  isClosed : Bool
  cursor : Cursor

/-- The flags from here on, where `seen` holds the earlier ones with their places, the last one
first, and `dangling` the place of a negation that nothing has followed yet. -/
def readFlags (changes : List FlagChange) (seen : List (Char × Nat)) (dangling : Option Nat)
    (index : Nat) : List Char → Except Fault FlagsRead
  | [] => .error (.of .flagMissing index index)
  | c :: rest =>
    if c = ':' || c = ')' then
      match dangling with
      | some k => .error (.of .flagDangling k (k + 1))
      | none => .ok ⟨changes.reverse, seen.isEmpty, c = ')', ⟨index + 1, rest⟩⟩
    else if c ≠ '-' && c ∉ flagLetters then .error (.of .flagUnknown index (index + 1))
    else
      match seen.find? (·.1 = c) with
      | some (_, k) =>
        .error (.located (if c = '-' then .flagNegationRepeated else .flagDuplicate)
          [⟨k, k + 1⟩, ⟨index, index + 1⟩])
      | none =>
        let seenNow := (c, index) :: seen
        if c = '-' then readFlags changes seenNow (some index) (index + 1) rest
        else
          let change : FlagChange := ⟨c, seen.all (·.1 ≠ '-')⟩
          readFlags (change :: changes) seenNow none (index + 1) rest

/-- Whether a text is loose after the changes. -/
def looseAfter (loose : Bool) (changes : List FlagChange) : Bool :=
  match changes.find? (·.letter = 'x') with
  | some change => change.on
  | none => loose

/-- How many characters of a text ask for a look around. -/
def lookAround? : List Char → Option Nat
  | '?' :: '=' :: _ => some 2
  | '?' :: '!' :: _ => some 2
  | '?' :: '<' :: '=' :: _ => some 3
  | '?' :: '<' :: '!' :: _ => some 3
  | _ => none

/-- Opens the group whose bracket stands at `start`, before the cursor, or changes the flags. -/
def readGroup (progress : Progress) (start : Nat) (cursor : Cursor) :
    Except Fault (Progress × Cursor) := do
  let cursor := cursor.skip progress.loose
  match lookAround? cursor.rest with
  | some count => .error (.of .lookAround start (cursor.index + count))
  | none =>
    match cursor.rest with
    | '?' :: 'P' :: '<' :: rest => openNamed progress start (cursor.past 3 rest)
    | '?' :: '<' :: rest => openNamed progress start (cursor.past 2 rest)
    | '?' :: rest =>
      if rest.isEmpty then .error (.of .groupUnclosed start (start + 1))
      else
        let read ← readFlags [] [] none (cursor.index + 1) rest
        let loose := looseAfter progress.loose read.changes
        if !read.isClosed then
          .ok (progress.openGroup start false read.changes loose read.cursor.index, read.cursor)
        else if read.isEmpty then .error (cursor.flawHere .repetitionMissing)
        else
          let part := Expression.flags ⟨start, read.cursor.index⟩ read.changes
          .ok ({ progress.push part with loose := loose }, read.cursor)
    | _ => .ok (progress.openGroup start true [] progress.loose cursor.index, cursor)

/-! ### Expressions -/

/-- Takes up the part of an expression that starts with a character at the cursor. -/
def advance (progress : Progress) (cursor : Cursor) (c : Char) (rest : List Char) :
    Except Fault (Progress × Cursor) := do
  let start := cursor.index
  let after := cursor.past 1 rest
  let span : Span := ⟨start, after.index⟩
  let loose := progress.loose
  if c = '(' then readGroup progress start after
  else if c = ')' then
    let progress ← progress.closeGroup start
    .ok (progress, after)
  else if c = '|' then .ok ({ progress with level := progress.level.nextBranch start }, after)
  else if c = '[' then
    let (negated, content, after) ← readClass loose (2 * rest.length + 2) start after
    .ok (progress.push (.bracketed ⟨start, after.index⟩ negated content), after)
  else if c = '?' || c = '*' || c = '+' then
    let (part, progress) ← progress.popRepeatable start
    let counts : Counts := ⟨if c = '+' then 1 else 0, if c = '?' then some 1 else none⟩
    let after := skipLazy after
    .ok (progress.pushRepetition counts part after.index, after)
  else if c = '{' then
    let (part, progress) ← progress.popRepeatable start
    let (counts, after) ← readCounts loose start after
    .ok (progress.pushRepetition counts part after.index, after)
  else if c = '.' then .ok (progress.push (.dot span), after)
  else if c = '^' then .ok (progress.push (.condition span .lineStart), after)
  else if c = '$' then .ok (progress.push (.condition span .lineEnd), after)
  else if c = '\\' then
    let (p, after) ← readEscape loose start after
    .ok (progress.push p.toExpression, after)
  else .ok (progress.push (.literal ⟨span, c, false⟩), after)

/-- Takes up the rest of an expression. Every part has a character, so one step for each is enough.
-/
def advanceAll : Nat → Progress → Cursor → Except Fault Expression
  | 0, progress, cursor => .ok (progress.level.expression cursor.index)
  | fuel + 1, progress, cursor => do
    let cursor := cursor.skip progress.loose
    match cursor.rest with
    | [] =>
      match progress.groups with
      | group :: _ => .error (.of .groupUnclosed group.start (group.start + 1))
      | [] => .ok (progress.level.expression cursor.index)
    | c :: rest =>
      let (progress, cursor) ← advance progress cursor c rest
      advanceAll fuel progress cursor

/-- The expression of a text, which does not nest too deep. -/
def Expression.ofText (text : List Char) : Except Fault Expression := do
  let e ← advanceAll (text.length + 1) {} ⟨0, text⟩
  e.checkNesting nestingLimit
  .ok e

end SolrClause.Text.Pattern
