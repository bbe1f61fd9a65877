import SolrClause.Number.Notation
import SolrClause.Timestamp.Text

/-! Scalars: the typed values that predicates test for, and the text of each in a query. Scalars of
different types are never equal, and numbers with a fraction are equal when their bits are. -/

namespace SolrClause

open SolrClause.Number

inductive Scalar where
  | boolean (value : Bool)
  | integer (value : Int64)
  | float (value : Binary64)
  | timestamp (value : Timestamp)
  | text (value : String)
  deriving DecidableEq

namespace Scalar

def booleanText (value : Bool) : String := if value then "true" else "false"

/-- A sign if negative, and digits. -/
def integerText (value : Int) : String :=
  String.ofList ((if value < 0 then ['-'] else []) ++ digits value.natAbs)

/-- All digits in their places, or the name of a number that has none. -/
def floatText (value : Binary64) : String :=
  match value.content with
  | .notANumber => "NaN"
  | .infinite negative => if negative then "-inf" else "inf"
  | .finite negative significand exponent =>
    String.ofList (Style.plain.writeFinite negative significand exponent)

def display : Scalar → String
  | .boolean value => booleanText value
  | .integer value => integerText value.toInt
  | .float value => floatText value
  | .timestamp value => value.text
  | .text value => value

def asText? : Scalar → Option String
  | .text value => some value
  | _ => none

/-- The digits of a number of either kind. -/
def asNumeric? : Scalar → Option String
  | .integer value => some (integerText value.toInt)
  | .float value => some (floatText value)
  | _ => none

def asBoolean? : Scalar → Option Bool
  | .boolean value => some value
  | _ => none

def asTimestamp? : Scalar → Option Timestamp
  | .timestamp value => some value
  | _ => none

end Scalar

end SolrClause
