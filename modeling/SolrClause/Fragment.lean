import SolrClause.Literal
import SolrClause.Predicate

/-! Fragments: the part of a clause that one predicate contributes. Wildcards and brackets come from
the operation, and scalars are sanitized except in raw expressions. -/

namespace SolrClause.Fragment

def wildcard : String := "*"

def rangeSeparator : String := " TO "

def literal (value : Scalar) : String := Literal.sanitize value.display

def ofComparison (value : Scalar) : Comparison → String
  | .equals => literal value
  | .contains => wildcard ++ literal value ++ wildcard
  | .startsWith => literal value ++ wildcard
  | .endsWith => wildcard ++ literal value
  | .expression => value.display

def ofBound : Option Scalar → String
  | some value => literal value
  | none => wildcard

/-- Square brackets include a bound and braces exclude it. -/
def ofRange (range : Range) : String :=
  (if range.includeLower then "[" else r"{") ++ ofBound range.lower ++ rangeSeparator ++
    ofBound range.upper ++ (if range.includeUpper then "]" else r"}")

def ofPredicate : Predicate → String
  | .compare comparison value => ofComparison value comparison
  | .between range => ofRange range

end SolrClause.Fragment
