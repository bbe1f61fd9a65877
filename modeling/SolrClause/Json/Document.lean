import SolrClause.Json.Numeral
import SolrClause.Json.Quotation

/-! Documents: JSON texts as they are written, with members in their order and repeated keys kept. A
text that is not JSON has a document as well: it says what stands at the spot where the text stops
being JSON. The faults that a reader reports depend on what it looks for, so a document holds causes
and no messages. -/

namespace SolrClause.Json

/-- Why there is no value where one belongs. -/
inductive Flaw where
  /-- A character that no value starts with. -/
  | noValue
  | ended
  | cutWord
  | misspeltWord
  | cutNumeral
  | malformedNumeral
  /-- Another character where the colon after a key belongs. -/
  | noColon
  | endedBeforeColon
  deriving DecidableEq, Repr

inductive ArrayEnd where
  | closed
  | closedAfterComma
  | cutShort
  | cutShortAfterComma
  | stray
  deriving DecidableEq, Repr

inductive ObjectEnd where
  | closed
  | closedAfterComma
  | cutShort
  | cutShortAfterComma
  | stray
  | strayKey
  deriving DecidableEq, Repr

inductive Document where
  | null
  | boolean (value : Bool)
  | number (numeral : Numeral)
  | string (quotation : Quotation)
  | array (items : List Document) (close : ArrayEnd)
  | object (members : List (Quotation × Document)) (close : ObjectEnd)
  | broken (flaw : Flaw)
  deriving Repr

/-- The blanks between the tokens of a JSON text. -/
def isSpace (c : Char) : Bool := c = ' ' || c = '\t' || c = '\n' || c = '\r'

def skipSpaces (text : List Char) : List Char := text.dropWhile isSpace

namespace Document

/-- The rest of a word whose first letter has been seen. -/
def readWord (value : Document) : List Char → List Char → Document × List Char
  | [], text => (value, text)
  | _ :: _, [] => (.broken .cutWord, [])
  | c :: word, d :: text =>
    if c = d then readWord value word text else (.broken .misspeltWord, [])

def readNumeral (text : List Char) : Document × List Char :=
  match Numeral.read text with
  | .ok (numeral, rest) => (.number numeral, rest)
  | .error .cutShort => (.broken .cutNumeral, [])
  | .error .malformed => (.broken .malformedNumeral, [])

mutual

/-- The value at the front of a text and what follows it. -/
def readValue : Nat → List Char → Document × List Char
  | 0, _ => (.broken .ended, [])
  | fuel + 1, text =>
    match skipSpaces text with
    | [] => (.broken .ended, [])
    | c :: rest =>
      if c = '\"' then
        let (quotation, after) := Quotation.read rest
        (.string quotation, after)
      else if c = '[' then
        let (items, close, after) := readItems fuel true rest
        (.array items close, after)
      else if c = '{' then
        let (members, close, after) := readMembers fuel true rest
        (.object members close, after)
      else if c = '-' || Text.isDigit c then readNumeral (c :: rest)
      else if c = 'n' then readWord .null ['u', 'l', 'l'] rest
      else if c = 't' then readWord (.boolean true) ['r', 'u', 'e'] rest
      else if c = 'f' then readWord (.boolean false) ['a', 'l', 's', 'e'] rest
      else (.broken .noValue, [])

/-- The items of an array from here on. A comma belongs before each but the first. -/
def readItems : Nat → Bool → List Char → List Document × ArrayEnd × List Char
  | 0, _, _ => ([], .cutShort, [])
  | fuel + 1, isFirst, text =>
    match skipSpaces text with
    | [] => ([], .cutShort, [])
    | c :: rest =>
      if c = ']' then ([], .closed, rest)
      else if isFirst then
        let (item, after) := readValue fuel (c :: rest)
        let (items, close, after) := readItems fuel false after
        (item :: items, close, after)
      else if c = ',' then
        match skipSpaces rest with
        | [] => ([], .cutShortAfterComma, [])
        | d :: next =>
          if d = ']' then ([], .closedAfterComma, next)
          else
            let (item, after) := readValue fuel (d :: next)
            let (items, close, after) := readItems fuel false after
            (item :: items, close, after)
      else ([], .stray, [])

/-- The members of an object from here on. A comma belongs before each but the first. -/
def readMembers : Nat → Bool → List Char → List (Quotation × Document) × ObjectEnd × List Char
  | 0, _, _ => ([], .cutShort, [])
  | fuel + 1, isFirst, text =>
    match skipSpaces text with
    | [] => ([], .cutShort, [])
    | c :: rest =>
      if c = '}' then ([], .closed, rest)
      else if isFirst then
        if c = '\"' then readMember fuel rest else ([], .strayKey, [])
      else if c = ',' then
        match skipSpaces rest with
        | [] => ([], .cutShortAfterComma, [])
        | d :: next =>
          if d = '\"' then readMember fuel next
          else if d = '}' then ([], .closedAfterComma, next)
          else ([], .strayKey, [])
      else ([], .stray, [])

/-- A member whose opening quote has been seen, and the members after it. -/
def readMember : Nat → List Char → List (Quotation × Document) × ObjectEnd × List Char
  | 0, _ => ([], .cutShort, [])
  | fuel + 1, text =>
    let (key, after) := Quotation.read text
    let (value, after) := match skipSpaces after with
      | [] => (.broken .endedBeforeColon, [])
      | c :: rest => if c = ':' then readValue fuel rest else (.broken .noColon, [])
    let (members, close, after) := readMembers fuel false after
    ((key, value) :: members, close, after)

end

/-- The document at the front of a text and what follows it. Every step takes a character or goes
down one level after taking one, so three steps for each character are enough. -/
def read (text : List Char) : Document × List Char := readValue (3 * text.length + 3) text

end Document

end SolrClause.Json
