import SolrClause.Text.Pattern.Reading
import SolrClause.Text.Pattern.Size

/-! The meaning of expressions: the patterns that they stand for. A flag holds from where it is set
to the end of the group around it. Properties and cases are known for the characters of ASCII only,
so an expression that asks for those of all scripts has no meaning. Neither has one that could find
a byte of a character without the others. -/

namespace SolrClause.Text.Pattern

structure Flags where
  caseless : Bool := false
  multiLine : Bool := false
  /-- A dot stands for the end of a line as well. -/
  dotAll : Bool := false
  crlf : Bool := false
  /-- Bytes are meant, of which only those of ASCII are characters. -/
  bytes : Bool := false

namespace Flags

def change (flags : Flags) (change : FlagChange) : Flags :=
  match change.letter with
  | 'i' => { flags with caseless := change.on }
  | 'm' => { flags with multiLine := change.on }
  | 's' => { flags with dotAll := change.on }
  | 'R' => { flags with crlf := change.on }
  | 'u' => { flags with bytes := !change.on }
  | _ => flags

def changeAll (flags : Flags) (changes : List FlagChange) : Flags := changes.foldl change flags

end Flags

def Span.fault (span : Span) (flaw : Flaw) : Fault := .of flaw span.start span.stop

def isAscii (c : Char) : Bool := c.toNat < 0x80

/-! ### Parts of one character -/

/-- A byte that is not a character of ASCII is not text on its own. -/
def Literal.checkText (flags : Flags) (literal : Literal) : Except Fault Unit :=
  if flags.bytes && literal.isByte && !isAscii literal.char then
    .error (literal.span.fault .notText)
  else .ok ()

def Literal.set (flags : Flags) (literal : Literal) : Except Fault CharSet := do
  literal.checkText flags
  let set := CharSet.single literal.char
  if !flags.caseless then .ok set
  else if flags.bytes then .ok set.anyCase
  else .error (literal.span.fault .noCaseData)

def dotSet (flags : Flags) (span : Span) : Except Fault CharSet :=
  if flags.bytes then .error (span.fault .notText)
  else if flags.dotAll then .ok CharSet.empty.complement
  else if flags.crlf then .ok (CharSet.ofChars ['\r', '\n']).complement
  else .ok (CharSet.single '\n').complement

/-- A set or all other characters. Among bytes, the others are not text. -/
def complementIf (flags : Flags) (span : Span) (negated : Bool) (set : CharSet) :
    Except Fault CharSet :=
  if !negated then .ok set
  else if flags.bytes then .error (span.fault .notText)
  else .ok set.complement

/-- The characters of a class with a one-letter name. -/
def Shorthand.meaning (flags : Flags) (shorthand : Shorthand) : Except Fault CharSet :=
  if flags.bytes then complementIf flags shorthand.span shorthand.negated shorthand.set
  else .error (shorthand.span.fault .noClassData)

/-- The letters of a property's name, in lower case and without `is` before them. -/
def plainName (name : List Char) : List Char :=
  let name := match name with
    | i :: s :: rest => if i.toLower = 'i' && s.toLower = 's' then rest else name
    | _ => name
  (name.filter fun c => isAscii c && c ∉ [' ', '_', '-']).map Char.toLower

/-- Short names that are those of values of a property, before they are those of properties. -/
def valueNames : List (List Char) := [['c', 'f'], ['s', 'c'], ['l', 'c']]

def Property.fault (flags : Flags) (property : Property) : Fault :=
  property.span.fault <|
    if flags.bytes then .notAllowed
    else if !property.hasValue && plainName property.name ∈ valueNames then .noPropertyValue
    else .noProperty

def Condition.anchor (flags : Flags) (condition : Condition) : Anchor :=
  let onWords (anchor : Anchor) : Anchor := if flags.bytes then anchor else .unsettled
  match condition with
  | .lineStart => if flags.multiLine then .lineStart flags.crlf else .start
  | .lineEnd => if flags.multiLine then .lineEnd flags.crlf else .finish
  | .textStart => .start
  | .textEnd => .finish
  | .wordEdge => onWords .wordEdge
  | .noWordEdge => onWords .noWordEdge
  | .wordStart => onWords .wordStart
  | .wordEnd => onWords .wordEnd
  | .noWordBefore => onWords .noWordBefore
  | .noWordAfter => onWords .noWordAfter

/-! ### Classes -/

/-- A set of characters on its way to being a class. -/
structure Draft where
  set : CharSet
  /-- The set is known to hold the other cases of its characters as well. -/
  isClosed : Bool

namespace Draft

def empty : Draft := ⟨.empty, true⟩

/-- A set of which nothing is known. -/
def ofSet (set : CharSet) : Draft := ⟨set, set.isEmpty⟩

/-- Adds characters, of whose cases nothing is known. -/
def insert (draft : Draft) (first last : Char) : Draft :=
  ⟨draft.set.union (.run first last), false⟩

def union (a b : Draft) : Draft :=
  if b.set.isEmpty || a.set = b.set then a else ⟨a.set.union b.set, a.isClosed && b.isClosed⟩

def both (a b : Draft) : Draft :=
  if a.set.isEmpty then a
  else if b.set.isEmpty then empty
  else ⟨a.set.both b.set, a.isClosed && b.isClosed⟩

def without (a b : Draft) : Draft :=
  if a.set.isEmpty || b.set.isEmpty then a
  else ⟨a.set.without b.set, a.isClosed && b.isClosed⟩

def combine (a b : Draft) : SetOperator → Draft
  | .both => a.both b
  | .without => a.without b
  | .oneOnly => (a.union b).without (a.both b)

def complement (draft : Draft) : Draft :=
  ⟨draft.set.complement, draft.set.isEmpty || draft.isClosed⟩

/-- Adds the other cases, if cases make no difference. -/
def fold (flags : Flags) (span : Span) (draft : Draft) : Except Fault Draft :=
  if !flags.caseless then .ok draft
  else if flags.bytes then .ok ⟨draft.set.anyCase, true⟩
  else if draft.set.isEmpty || draft.isClosed then .ok draft
  else .error (span.fault .noCaseData)

/-- What stands in brackets, or all other characters. -/
def close (flags : Flags) (span : Span) (negated : Bool) (draft : Draft) : Except Fault Draft := do
  let draft ← draft.fold flags span
  let draft := if negated then draft.complement else draft
  if flags.bytes && !draft.set.isAscii then .error (span.fault .notText) else .ok draft

end Draft

/-- An end of a range or a single character of a class. -/
def Literal.classChar (flags : Flags) (literal : Literal) : Except Fault Char := do
  literal.checkText flags
  if flags.bytes && !isAscii literal.char then .error (literal.span.fault .notAllowed)
  else .ok literal.char

mutual

/-- The draft together with what stands in a class. -/
def ClassContent.addTo (flags : Flags) (draft : Draft) : ClassContent → Except Fault Draft
  | .empty _ => .ok draft
  | .literal l => do
    let c ← l.classChar flags
    .ok (draft.insert c c)
  | .range _ first last => do
    let first ← first.classChar flags
    let last ← last.classChar flags
    .ok (draft.insert first last)
  | .named span set negated => do
    let named ← (Draft.ofSet set).close flags span negated
    .ok (draft.union named)
  | .property p => .error (p.fault flags)
  | .shorthand s => do
    let set ← s.meaning flags
    .ok (draft.union (.ofSet set))
  | .bracketed span negated content => do
    let inner ← content.addTo flags .empty
    let inner ← inner.close flags span negated
    .ok (draft.union inner)
  | .union _ items => ClassContent.addAllTo flags draft items
  | .operation _ operator left right => do
    let a ← left.addTo flags .empty
    let b ← right.addTo flags .empty
    let b ← b.fold flags right.span
    let a ← a.fold flags left.span
    .ok (draft.union (a.combine b operator))

def ClassContent.addAllTo (flags : Flags) (draft : Draft) :
    List ClassContent → Except Fault Draft
  | [] => .ok draft
  | item :: rest => do
    let draft ← item.addTo flags draft
    ClassContent.addAllTo flags draft rest

end

/-! ### Patterns -/

/-- One of several patterns. Single characters make a class, and so do classes. -/
def alternatives (patterns : List Pattern) : Pattern :=
  let patterns := patterns.flatMap branches
  let sets := patterns.filterMap fun
    | one set => some set
    | _ => none
  let areSingle := sets.map CharSet.isSingle
  if sets.length = patterns.length && (areSingle.all id || !areSingle.any id) then
    one (sets.foldl CharSet.union .empty)
  else
    match patterns.reverse with
    | [] => one .empty
    | last :: others => others.foldl (fun rest p => either p rest) last

/-- The pattern as often as the counts say. What finds no characters is found once or not at all. -/
def times (counts : Counts) (p : Pattern) : Pattern :=
  let counts : Counts :=
    if p.takesNothing then ⟨min 1 counts.least, some (min 1 (counts.most.getD 1))⟩ else counts
  if counts.most = some 0 then nothing
  else if counts = ⟨1, some 1⟩ then p
  else repeated p counts.least counts.most

mutual

/-- The pattern that an expression stands for, and the flags after it. -/
def Expression.meaning (flags : Flags) : Expression → Except Fault (Pattern × Flags)
  | .empty _ => .ok (nothing, flags)
  | .flags _ changes => .ok (nothing, flags.changeAll changes)
  | .literal l => do
    let set ← l.set flags
    .ok (one set, flags)
  | .dot span => do
    let set ← dotSet flags span
    .ok (one set, flags)
  | .condition _ c => .ok (anchor (c.anchor flags), flags)
  | .property p => .error (p.fault flags)
  | .shorthand s => do
    let set ← s.meaning flags
    .ok (one set, flags)
  | .bracketed span negated content => do
    let draft ← content.addTo flags .empty
    let draft ← draft.close flags span negated
    .ok (one draft.set, flags)
  | .repetition _ counts body => do
    let (p, flags) ← body.meaning flags
    .ok (p.times counts, flags)
  | .group _ captures changes body => do
    let (p, _) ← body.meaning (flags.changeAll changes)
    .ok (if captures then .captured p else p, flags)
  | .alternation _ branches => do
    let (patterns, flags) ← Expression.meanings flags branches
    .ok (alternatives patterns, flags)
  | .concatenation _ parts => do
    let (patterns, flags) ← Expression.meanings flags parts
    .ok (sequence patterns, flags)

def Expression.meanings (flags : Flags) : List Expression → Except Fault (List Pattern × Flags)
  | [] => .ok ([], flags)
  | e :: rest => do
    let (p, flags) ← e.meaning flags
    let (patterns, flags) ← Expression.meanings flags rest
    .ok (p :: patterns, flags)

end

/-- The pattern can be searched for: its automata are not too large, and all it asks for is
known. -/
def check (p : Pattern) : Except Fault Unit :=
  if sizeLimit < p.size .forward then .error .tooLarge
  else if p.isUnsettled then .error .noWordData
  else if sizeLimit < p.size .backward then .error .tooLarge
  else .ok ()

def ofText (text : List Char) : Except Fault Pattern := do
  let e ← Expression.ofText text
  let (p, _) ← e.meaning {}
  p.check
  .ok p

end SolrClause.Text.Pattern
