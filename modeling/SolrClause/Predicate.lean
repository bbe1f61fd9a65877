import SolrClause.Scalar

/-! Predicates: one operation with the payload that it takes. Five operations compare with a single
scalar, and one takes a range. -/

namespace SolrClause

/-- The ways to compare a field with a single scalar. -/
inductive Comparison where
  | equals
  | contains
  | startsWith
  | endsWith
  | expression
  deriving DecidableEq, Repr

inductive Operation where
  | compare (comparison : Comparison)
  | between
  deriving DecidableEq, Repr

namespace Operation

def all : List Operation :=
  [.compare .equals, .compare .contains, .compare .startsWith, .compare .endsWith,
    .compare .expression, .between]

def name : Operation → String
  | .compare .equals => "EQUALS"
  | .compare .contains => "CONTAINS"
  | .compare .startsWith => "STARTS_WITH"
  | .compare .endsWith => "ENDS_WITH"
  | .compare .expression => "EXPRESSION"
  | .between => "BETWEEN"

def rank : Operation → Nat
  | .compare .equals => 0
  | .compare .contains => 1
  | .compare .startsWith => 2
  | .compare .endsWith => 3
  | .compare .expression => 4
  | .between => 5

def ofName? (name : String) : Option Operation := all.find? fun operation => operation.name = name

theorem mem_all (operation : Operation) : operation ∈ all := by
  rcases operation with comparison | _
  · cases comparison <;> decide
  · decide

@[simp] theorem ofName?_name (operation : Operation) : ofName? operation.name = some operation := by
  rcases operation with comparison | _
  · cases comparison <;> rfl
  · rfl

end Operation

/-- A range of scalars. A missing bound leaves its side open, whatever its flag says. -/
structure Range where
  lower : Option Scalar := none
  upper : Option Scalar := none
  includeLower : Bool := false
  includeUpper : Bool := false
  deriving DecidableEq

namespace Range

def inclusive (lower upper : Option Scalar) : Range := ⟨lower, upper, true, true⟩

def exclusive (lower upper : Option Scalar) : Range := ⟨lower, upper, false, false⟩

def atLeast (value : Scalar) : Range := inclusive (some value) none

def atMost (value : Scalar) : Range := inclusive none (some value)

end Range

inductive Predicate where
  | compare (comparison : Comparison) (value : Scalar)
  | between (range : Range)
  deriving DecidableEq

/-- What an operation is applied to, where the operation is known only later. -/
inductive Payload where
  | scalar (value : Scalar)
  | range (range : Range)
  deriving DecidableEq

/-- A payload that does not have the shape its operation takes. -/
structure MalformedPredicate where
  operation : Operation
  expected : String
  deriving DecidableEq

namespace Predicate

def operation : Predicate → Operation
  | .compare comparison _ => .compare comparison
  | .between _ => .between

def payload : Predicate → Payload
  | .compare _ value => .scalar value
  | .between range => .range range

def scalar? : Predicate → Option Scalar
  | .compare _ value => some value
  | .between _ => none

def range? : Predicate → Option Range
  | .compare _ _ => none
  | .between range => some range

def scalars : Predicate → List Scalar
  | .compare _ value => [value]
  | .between range => range.lower.toList ++ range.upper.toList

/-- The predicate of an operation and a payload, provided that the one takes the other. -/
def ofPayload : Operation → Payload → Except MalformedPredicate Predicate
  | .compare comparison, .scalar value => .ok (.compare comparison value)
  | .between, .range range => .ok (.between range)
  | .between, .scalar _ => .error ⟨.between, "a range payload"⟩
  | .compare comparison, .range _ => .error ⟨.compare comparison, "a single scalar"⟩

theorem mem_scalars_between {range : Range} {value : Scalar} :
    value ∈ (between range).scalars ↔ value ∈ range.lower ∨ value ∈ range.upper := by
  simp [scalars]

@[simp] theorem ofPayload_payload (p : Predicate) : ofPayload p.operation p.payload = .ok p := by
  cases p <;> rfl

end Predicate

end SolrClause
