import SolrClause.Compiler.Config
import SolrClause.Criteria
import SolrClause.Fragment
import SolrClause.Log
import SolrClause.Text.Bytes

/-! Clauses: criteria compiled to query text. A clause is the field, marked if it is negated, and
its fragments; the canonical order of fragments does not depend on the order of the set. -/

namespace SolrClause.Compiler

/-- The value of a clause without predicates: the field has any value. -/
def matchAny : String := "[* TO *]"

/-- A fragment and the operation that it comes from. -/
structure Entry where
  operation : Operation
  fragment : String
  deriving DecidableEq

namespace Entry

def ofPredicate (p : Predicate) : Entry := ⟨p.operation, Fragment.ofPredicate p⟩

/-- By the declaration order of the operations, then by the bytes of the fragments. -/
def le (a b : Entry) : Bool :=
  a.operation.rank < b.operation.rank ||
    (a.operation.rank == b.operation.rank && Text.bytesLe a.fragment b.fragment)

end Entry

/-- The fragments of predicates, in the order in which a clause holds them. -/
def fragments (config : Config) (predicates : List Predicate) : List String :=
  let entries := predicates.map Entry.ofPredicate
  (if config.canonicalOrder then entries.mergeSort Entry.le else entries).map Entry.fragment

/-- What stands after the field: one fragment is bare, and several are grouped. -/
def body : List String → String
  | [] => matchAny
  | [fragment] => fragment
  | several => "(" ++ " ".intercalate several ++ ")"

/-- The clause of a field, a flag and predicates in a given order. -/
def clauseOf (config : Config) (field : String) (negating : Bool) (predicates : List Predicate) :
    String :=
  (if negating then "-" else "") ++ field ++ ":" ++ body (fragments config predicates)

def clause (config : Config) (c : Criteria) : String :=
  clauseOf config c.field c.negating c.predicates.toList

/-! ### Log events -/

def target : String := "ckan_solr::query::compiler"

def clauseEvents (config : Config) (c : Criteria) : List Log.Event :=
  (if c.field.isEmpty then [⟨.warn, target, "Compiling criteria with an empty field name"⟩]
    else []) ++
    [⟨.trace, target, "Compiled criteria on '" ++ c.field ++ "': " ++ clause config c⟩]

end SolrClause.Compiler
