import SolrClause.Json.Document

/-! Reading documents: what each kind of reader reports, in the order of the text, so that the first
problem met is the one reported. A value can be read in full, skipped, or taken apart item by item.
-/

namespace SolrClause.Json

/-- A reader of values, given how many levels of nesting are left. -/
abbrev Reading (α : Type) := Nat → Document → Except Fault α

/-- One more than the deepest nesting of arrays and objects. -/
def levelLimit : Nat := 128

/-- The levels left inside an array or object. -/
def descend (levels : Nat) : Except Fault Nat :=
  if levels ≤ 1 then .error .tooDeep else .ok (levels - 1)

namespace Flaw

/-- What a reader of the value reports. -/
def fault : Flaw → Fault
  | .noValue => .noValue
  | .ended => .endOfText .value
  | .cutWord => .endOfText .value
  | .misspeltWord => .misspeltWord
  | .cutNumeral => .endOfText .value
  | .malformedNumeral => .malformedNumber
  | .noColon => .noColon
  | .endedBeforeColon => .endOfText .object

/-- What is reported when the value is skipped. -/
def faultSkipped : Flaw → Fault
  | .cutNumeral => .malformedNumber
  | flaw => flaw.fault

end Flaw

namespace ArrayEnd

/-- What is wrong with the end of an array that was read up to it. -/
def check : ArrayEnd → Except Fault Unit
  | .closed => .ok ()
  | .closedAfterComma => .error .trailingComma
  | .cutShort => .error (.endOfText .list)
  | .cutShortAfterComma => .error (.endOfText .value)
  | .stray => .error .noCommaInList

def checkSkipped : ArrayEnd → Except Fault Unit
  | .closedAfterComma => .error .noValue
  | close => close.check

end ArrayEnd

namespace ObjectEnd

def check : ObjectEnd → Except Fault Unit
  | .closed => .ok ()
  | .closedAfterComma => .error .trailingComma
  | .cutShort => .error (.endOfText .object)
  | .cutShortAfterComma => .error (.endOfText .value)
  | .stray => .error .noCommaInObject
  | .strayKey => .error .keyNotString

def checkSkipped : ObjectEnd → Except Fault Unit
  | .closedAfterComma => .error .keyNotString
  | .cutShortAfterComma => .error (.endOfText .object)
  | close => close.check

end ObjectEnd

namespace Numeral

def number (n : Numeral) : Except Fault Number :=
  match n.value? with
  | some number => .ok number
  | none => .error .numberOutOfRange

end Numeral

namespace Document

mutual

/-- The value of a document that is read in full. -/
def value : Reading Value
  | _, .null => .ok .null
  | _, .boolean b => .ok (.boolean b)
  | _, .number numeral => numeral.number.map .number
  | _, .string quotation => quotation.text.map .string
  | levels, .array items close => do
    let levels ← descend levels
    let items ← values levels items
    close.check
    .ok (.array items)
  | levels, .object members close => do
    let levels ← descend levels
    let members ← memberValues levels members
    close.check
    .ok (.object members)
  | _, .broken flaw => .error flaw.fault

def values : Nat → List Document → Except Fault (List Value)
  | _, [] => .ok []
  | levels, item :: rest => do
    let first ← item.value levels
    let others ← values levels rest
    .ok (first :: others)

def memberValues : Nat → List (Quotation × Document) → Except Fault (List (String × Value))
  | _, [] => .ok []
  | levels, (key, document) :: rest => do
    let name ← key.text
    let first ← document.value levels
    let others ← memberValues levels rest
    .ok ((name, first) :: others)

end

mutual

/-- A document that is skipped has to be JSON, but it may nest to any depth, its numbers may be too
large, and its strings may hold half a surrogate pair. -/
def skip : Document → Except Fault Unit
  | .null => .ok ()
  | .boolean _ => .ok ()
  | .number _ => .ok ()
  | .string quotation => quotation.skip
  | .array items close => do
    skipItems items
    close.checkSkipped
  | .object members close => do
    skipMembers members
    close.checkSkipped
  | .broken flaw => .error flaw.faultSkipped

def skipItems : List Document → Except Fault Unit
  | [] => .ok ()
  | item :: rest => do
    item.skip
    skipItems rest

def skipMembers : List (Quotation × Document) → Except Fault Unit
  | [] => .ok ()
  | (key, document) :: rest => do
    key.skip
    document.skip
    skipMembers rest

end

/-- The fault of a document that has another type than the expected one. A number or string is read
for the report, an array or object is not. -/
def wrongType (expected : String) (document : Document) : Fault :=
  match document with
  | .null => .wrongType .null expected
  | .boolean b => .wrongType (.boolean b) expected
  | .number numeral =>
    match numeral.number with
    | .ok n => .wrongType n.found expected
    | .error fault => fault
  | .string quotation =>
    match quotation.text with
    | .ok text => .wrongType (.string text) expected
    | .error fault => fault
  | .array _ _ => .wrongType .sequence expected
  | .object _ _ => .wrongType .map expected
  | .broken flaw => flaw.fault

def readBoolean : Document → Except Fault Bool
  | .boolean b => .ok b
  | document => .error (document.wrongType "a boolean")

def readString : Document → Except Fault String
  | .string quotation => quotation.text
  | document => .error (document.wrongType "a string")

/-- An unsigned integer of 64 bits. -/
def readSize (document : Document) : Except Fault UInt64 :=
  match document with
  | .number numeral =>
    match numeral.number with
    | .ok (.integer n) =>
      if 0 ≤ n then .ok (UInt64.ofNat n.toNat) else .error (.wrongValue (.integer n) "usize")
    | .ok (.float x) => .error (.wrongType (.float x) "usize")
    | .error fault => .error fault
  | document => .error (document.wrongType "usize")

def readList (reading : Reading α) : Reading (List α)
  | levels, .array items close => do
    let levels ← descend levels
    let values ← items.mapM (reading levels)
    close.check
    .ok values
  | _, document => .error (document.wrongType "a sequence")

def readOptional (reading : Reading α) : Reading (Option α)
  | _, .null => .ok none
  | levels, document => (reading levels document).map some

/-- What may follow the one member of an object that names a choice. -/
def checkChoiceEnd (members : List (Quotation × Document)) (close : ObjectEnd) :
    Except Fault Unit :=
  match members, close with
  | [], .closed => .ok ()
  | [], .cutShort => .error (.endOfText .object)
  | _, _ => .error .noValue

/-- The fault of an object that should name a choice and has no key. -/
def noChoice : ObjectEnd → Fault
  | .cutShort => .endOfText .object
  | .closed => .noValue
  | _ => .keyNotString

def pickChoice (choose : String → Option α) (names : List String) (name : String) :
    Except Fault α :=
  match choose name with
  | some choice => .ok choice
  | none => .error (.unknownVariant name names)

/-- One of several named choices, as a string. -/
def readName (choose : String → Option α) (names : List String) (document : Document) :
    Except Fault α :=
  match document with
  | .string quotation => do
    let name ← quotation.text
    pickChoice choose names name
  | document => .error (document.wrongType "variant identifier")

/-- One of several named choices, as a string or as the one key of an object whose value is
`null`. -/
def readChoice (choose : String → Option α) (names : List String) : Reading α
  | _, .string quotation => do
    let name ← quotation.text
    pickChoice choose names name
  | levels, .object members close => do
    let _ ← descend levels
    match members with
    | [] => .error (noChoice close)
    | (key, document) :: rest => do
      let name ← key.text
      let choice ← pickChoice choose names name
      match document with
      | .null => do
        checkChoiceEnd rest close
        .ok choice
      | document => .error (document.wrongType "unit")
  | _, .broken .ended => .error (.endOfText .value)
  | _, .broken .noColon => .error .noColon
  | _, .broken .endedBeforeColon => .error (.endOfText .object)
  | _, _ => .error .noValue

end Document

/-- What is left of an array that is taken apart. -/
structure Elements where
  items : List Document
  close : ArrayEnd

namespace Elements

/-- The next item, if there is one, and what is left. -/
def take (elements : Elements) (read : Document → Except Fault α) :
    Except Fault (Option α × Elements) :=
  match elements.items with
  | [] => do
    elements.close.check
    .ok (none, elements)
  | item :: rest => do
    let value ← read item
    .ok (some value, ⟨rest, elements.close⟩)

/-- The next item, which must be there; otherwise the array has only `length` of them. -/
def require (elements : Elements) (length : Nat) (expected : String)
    (read : Document → Except Fault α) : Except Fault (α × Elements) := do
  let (value, rest) ← elements.take read
  match value with
  | some value => .ok (value, rest)
  | none => .error (.wrongLength length expected)

def finish (elements : Elements) : Except Fault Unit :=
  match elements.items, elements.close with
  | [], .closed => .ok ()
  | [], .closedAfterComma => .error .trailingComma
  | [], .cutShort => .error (.endOfText .list)
  | _, _ => .error .trailingCharacters

end Elements

/-- Reads a record: an array of its fields in order, or an object whose members are taken up one
after the other. -/
def readRecord (name : String) (ofElements : Nat → Elements → Except Fault (α × Elements))
    (start : σ) (takeUp : Nat → σ → String → Document → Except Fault σ)
    (ofMembers : σ → Except Fault α) : Reading α
  | levels, .array items close => do
    let levels ← descend levels
    let (record, rest) ← ofElements levels ⟨items, close⟩
    rest.finish
    .ok record
  | levels, .object members close => do
    let levels ← descend levels
    let read ← members.foldlM (fun read (key, document) => do
      takeUp levels read (← key.text) document) start
    close.check
    ofMembers read
  | _, document => .error (document.wrongType name)

/-- A field that has not been read yet is read, and a second one is a fault. -/
def setField (field : String) (old : Option α) (value : Except Fault α) :
    Except Fault (Option α) :=
  match old with
  | some _ => .error (.duplicateField field)
  | none => value.map some

def requireField (field : String) (value : Option α) : Except Fault α :=
  match value with
  | some value => .ok value
  | none => .error (.missingField field)

/-- The value that a text holds, with nothing but blanks around it. -/
def parse (reading : Reading α) (text : List Char) : Except Fault α := do
  let (document, rest) := Document.read text
  let value ← reading levelLimit document
  if (skipSpaces rest).isEmpty then .ok value else .error .trailingCharacters

end SolrClause.Json
