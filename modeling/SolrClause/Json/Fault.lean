import SolrClause.Number.Notation
import SolrClause.Scalar
import SolrClause.Text.Quoted

/-! What can be wrong with a JSON text, and how it is said, the place in the text apart: the text
ends too early, it is not JSON, or it is JSON of another form than the one asked for. -/

namespace SolrClause.Json

open SolrClause.Number

inductive Category where
  | eof
  | grammar
  | data
  deriving DecidableEq, Repr

inductive Unfinished where
  | value
  | string
  | list
  | object
  deriving DecidableEq, Repr

/-- What stands where something else was asked for. -/
inductive Found where
  | null
  | boolean (value : Bool)
  | integer (value : Int)
  | float (value : Binary64)
  | string (value : String)
  | sequence
  | map
  deriving DecidableEq, Repr

inductive Fault where
  | endOfText (unfinished : Unfinished)
  | noValue
  | misspeltWord
  | malformedNumber
  | numberOutOfRange
  | trailingCharacters
  | trailingComma
  | keyNotString
  | noColon
  | noCommaInObject
  | noCommaInList
  | badEscape
  | cutSurrogatePair
  | loneSurrogate
  | controlCharacter
  | tooDeep
  | missingField (field : String)
  | duplicateField (field : String)
  | unknownVariant (name : String) (known : List String)
  | wrongType (found : Found) (expected : String)
  | wrongValue (found : Found) (expected : String)
  | wrongLength (length : Nat) (expected : String)
  | noScalar
  deriving DecidableEq, Repr

namespace Unfinished

def describe : Unfinished → String
  | .value => "a value"
  | .string => "a string"
  | .list => "a list"
  | .object => "an object"

end Unfinished

/-- A finite number as JSON writes it. -/
def floatText (value : Binary64) : String :=
  match value.content with
  | .finite negative significand exponent =>
    String.ofList (Style.json.writeFinite negative significand exponent)
  | _ => "null"

namespace Found

def describe : Found → String
  | .null => "null"
  | .boolean value => "boolean `" ++ Scalar.booleanText value ++ "`"
  | .integer value => "integer `" ++ Scalar.integerText value ++ "`"
  | .float value => "floating point `" ++ floatText value ++ "`"
  | .string value => "string " ++ Text.quoted value
  | .sequence => "sequence"
  | .map => "map"

end Found

namespace Fault

def category : Fault → Category
  | .endOfText _ => .eof
  | .missingField _ | .duplicateField _ | .unknownVariant _ _ | .wrongType _ _ | .wrongValue _ _
  | .wrongLength _ _ | .noScalar => .data
  | _ => .grammar

/-- Two names are joined by `or`, more are listed after `one of`. -/
def listNames (known : List String) : String :=
  match known.map fun name => "`" ++ name ++ "`" with
  | [] => "there are no variants"
  | [a] => "expected " ++ a
  | [a, b] => "expected " ++ a ++ " or " ++ b
  | names => "expected one of " ++ ", ".intercalate names

/-- What is said of a fault, without where it was met: a full message ends with
` at line L column C`, and that is left out. -/
def message : Fault → String
  | .endOfText unfinished => "EOF while parsing " ++ unfinished.describe
  | .noValue => "expected value"
  | .misspeltWord => "expected ident"
  | .malformedNumber => "invalid number"
  | .numberOutOfRange => "number out of range"
  | .trailingCharacters => "trailing characters"
  | .trailingComma => "trailing comma"
  | .keyNotString => "key must be a string"
  | .noColon => "expected `:`"
  | .noCommaInObject => r"expected `,` or `}`"
  | .noCommaInList => "expected `,` or `]`"
  | .badEscape => "invalid escape"
  | .cutSurrogatePair => "unexpected end of hex escape"
  | .loneSurrogate => "lone leading surrogate in hex escape"
  | .controlCharacter => "control character (\\u0000-\\u001F) found while parsing a string"
  | .tooDeep => "recursion limit exceeded"
  | .missingField field => "missing field `" ++ field ++ "`"
  | .duplicateField field => "duplicate field `" ++ field ++ "`"
  | .unknownVariant name known => "unknown variant `" ++ name ++ "`, " ++ listNames known
  | .wrongType found expected => "invalid type: " ++ found.describe ++ ", expected " ++ expected
  | .wrongValue found expected => "invalid value: " ++ found.describe ++ ", expected " ++ expected
  | .wrongLength length expected =>
    "invalid length " ++ toString length ++ ", expected " ++ expected
  | .noScalar => "data did not match any variant of untagged enum Scalar"

end Fault

end SolrClause.Json
