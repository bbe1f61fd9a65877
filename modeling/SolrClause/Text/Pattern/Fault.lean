import SolrClause.Text.Blank

/-! What can be wrong with the text of a pattern, and how it is said: the text is shown with marks
under the characters that are meant. A text of several lines is shown with their numbers. -/

namespace SolrClause.Text.Pattern

inductive Flaw where
  | classEscape
  | classRange
  | classRangeBoundary
  | classUnclosed
  | decimalInvalid
  | hexEmpty
  | hexInvalid
  | hexDigit
  | escapeUnfinished
  | escapeUnknown
  | flagDangling
  | flagDuplicate
  | flagNegationRepeated
  | flagMissing
  | flagUnknown
  | nameDuplicate
  | nameEmpty
  | nameInvalid
  | nameUnclosed
  | groupUnclosed
  | groupUnopened
  | tooDeep
  | countOrder
  | countMissing
  | countUnclosed
  | repetitionMissing
  | boundaryUnclosed
  | boundaryUnknown
  | braceUnclosed
  | propertyInvalid
  | backreference
  | lookAround
  | notAllowed
  | notText
  | noProperty
  | noPropertyValue
  | noClassData
  | noCaseData
  deriving DecidableEq, Repr

def nestingLimit : Nat := 250

def Flaw.message : Flaw → String
  | .classEscape => "invalid escape sequence found in character class"
  | .classRange => "invalid character class range, the start must be <= the end"
  | .classRangeBoundary => "invalid range boundary, must be a literal"
  | .classUnclosed => "unclosed character class"
  | .decimalInvalid => "decimal literal invalid"
  | .hexEmpty => "hexadecimal literal empty"
  | .hexInvalid => "hexadecimal literal is not a Unicode scalar value"
  | .hexDigit => "invalid hexadecimal digit"
  | .escapeUnfinished => "incomplete escape sequence, reached end of pattern prematurely"
  | .escapeUnknown => "unrecognized escape sequence"
  | .flagDangling => "dangling flag negation operator"
  | .flagDuplicate => "duplicate flag"
  | .flagNegationRepeated => "flag negation operator repeated"
  | .flagMissing => "expected flag but got end of regex"
  | .flagUnknown => "unrecognized flag"
  | .nameDuplicate => "duplicate capture group name"
  | .nameEmpty => "empty capture group name"
  | .nameInvalid => "invalid capture group character"
  | .nameUnclosed => "unclosed capture group name"
  | .groupUnclosed => "unclosed group"
  | .groupUnopened => "unopened group"
  | .tooDeep =>
    "exceed the maximum number of nested parentheses/brackets (" ++ toString nestingLimit ++ ")"
  | .countOrder => "invalid repetition count range, the start must be <= the end"
  | .countMissing => "repetition quantifier expects a valid decimal"
  | .countUnclosed => "unclosed counted repetition"
  | .repetitionMissing => "repetition operator missing expression"
  | .boundaryUnclosed =>
    "special word boundary assertion is either unclosed or contains an invalid character"
  | .boundaryUnknown =>
    "unrecognized special word boundary assertion, valid choices are: " ++
      "start, end, start-half or end-half"
  | .braceUnclosed =>
    "found either the beginning of a special word boundary or a bounded repetition on a \\b " ++
      "with an opening brace, but no closing brace"
  | .propertyInvalid => "invalid Unicode character class"
  | .backreference => "backreferences are not supported"
  | .lookAround => "look-around, including look-ahead and look-behind, is not supported"
  | .notAllowed => "Unicode not allowed here"
  | .notText => "pattern can match invalid UTF-8"
  | .noProperty => "Unicode property not found"
  | .noPropertyValue => "Unicode property value not found"
  | .noClassData =>
    "Unicode-aware Perl class not found (make sure the unicode-perl feature is enabled)"
  | .noCaseData =>
    "Unicode-aware case insensitivity matching is not available " ++
      "(make sure the unicode-case feature is enabled)"

/-- The characters of a pattern from `start` up to `stop`, counted from zero. -/
structure Span where
  start : Nat
  stop : Nat
  deriving DecidableEq, Repr

def sizeLimit : Nat := 10485760

inductive Fault where
  /-- A flaw at the spans, which are in ascending order. -/
  | located (flaw : Flaw) (spans : List Span)
  /-- A word boundary asks for the letters of all scripts, which are not known here. -/
  | noWordData
  | tooLarge
  deriving DecidableEq, Repr

namespace Fault

/-- A flaw at the characters from `start` up to `stop`. -/
def of (flaw : Flaw) (start stop : Nat) : Fault := located flaw [⟨start, stop⟩]

/-- A place in a text by its line and its column, both counted from zero. -/
structure Spot where
  line : Nat
  column : Nat
  deriving DecidableEq, Repr

def spot (text : List Char) (index : Nat) : Spot :=
  let before := text.take index
  ⟨before.count '\n', (before.reverse.takeWhile (· ≠ '\n')).length⟩

/-- Marks from a column on for the columns between each two spots of a line, and one at least. -/
def marks (column : Nat) : List (Spot × Spot) → List Char
  | [] => []
  | (start, stop) :: rest =>
    let width := max 1 (stop.column - start.column)
    List.replicate (start.column - column) ' ' ++ List.replicate width '^' ++
      marks (max column start.column + width) rest

/-- The line with what stands before it, and below it the marks for the spans that lie in it. -/
def markedLine (label : String) (spans : List (Spot × Spot)) (line : Nat) (content : List Char) :
    List String :=
  let own := spans.filter fun (start, stop) => start.line = line && stop.line = line
  let shown := label ++ String.ofList content
  if own.isEmpty then [shown]
  else [shown, String.ofList (List.replicate label.length ' ' ++ marks 0 own)]

/-- A number at the end of as many columns as `width` says. -/
def padded (width n : Nat) : String :=
  let digits := toString n
  String.ofList (List.replicate (width - digits.length) ' ') ++ digits

def describeSpan (span : Spot × Spot) : String :=
  let (start, stop) := span
  "on line " ++ toString (start.line + 1) ++ " (column " ++ toString (start.column + 1) ++
    ") through line " ++ toString (stop.line + 1) ++ " (column " ++ toString stop.column ++ ")"

/-- A text of several lines with marks, between two rules. -/
def markedLines (text : List Char) (spans : List (Spot × Spot)) : List String :=
  let contents := lines text
  let count := contents.length + if text.getLast? = some '\n' then 1 else 0
  let width := (toString count).length
  let rule := String.ofList (List.replicate 79 '~')
  let marked := contents.zipIdx.flatMap fun (content, line) =>
    markedLine (padded width (line + 1) ++ ": ") spans line content
  let wide := spans.filter fun (start, stop) => start.line ≠ stop.line
  rule :: marked ++ rule :: wide.map describeSpan

def message (text : List Char) : Fault → String
  | located flaw spans =>
    let spots := spans.map fun span => (spot text span.start, spot text span.stop)
    let shown :=
      if text.contains '\n' then markedLines text spots else markedLine "    " spots 0 text
    "\n".intercalate ("regex parse error:" :: shown ++ ["error: " ++ flaw.message])
  | noWordData => "error building NFA"
  | tooLarge => "Compiled regex exceeds size limit of " ++ toString sizeLimit ++ " bytes."

end Fault

end SolrClause.Text.Pattern
