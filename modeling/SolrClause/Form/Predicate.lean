import SolrClause.Form.Range

/-! The JSON form of predicates: a record of the operation's name and the payload, in either order.
A payload that comes first is read in full, and taken for what it should be once the operation is
known. -/

namespace SolrClause

open SolrClause.Json

namespace Operation

def toJson (operation : Operation) : Value := .string operation.name

/-- The name of an operation, which alone is taken as the first item of an array. -/
def ofDocument (document : Document) : Except Fault Operation :=
  document.readName ofName? (all.map name)

def ofJson : Reading Operation := Document.readChoice ofName? (all.map name)

end Operation

namespace Payload

def toJson : Payload → Value
  | .scalar value => value.toJson
  | .range bounds => bounds.toJson

end Payload

namespace Predicate

def toJson (p : Predicate) : Value :=
  .object [("operation", p.operation.toJson), ("value", p.payload.toJson)]

def expected : String := "adjacently tagged enum Predicate"

/-- The predicate of an operation and the payload that a document holds. -/
def ofContent (levels : Nat) (document : Document) : Operation → Except Fault Predicate
  | .compare comparison => (Scalar.ofJson levels document).map (.compare comparison)
  | .between => (Range.ofJson levels document).map .between

/-- The predicate of an operation and the payload that a value holds. -/
def ofValue (value : Value) : Operation → Except Fault Predicate
  | .compare comparison => (Scalar.ofValue value).map (.compare comparison)
  | .between => (Range.ofValue value).map .between

inductive Part where
  | operation
  | value
  deriving DecidableEq, Repr

namespace Part

def name : Part → String
  | .operation => "operation"
  | .value => "value"

def ofName? (name : String) : Option Part :=
  if name = Part.operation.name then some .operation
  else if name = Part.value.name then some .value
  else none

end Part

/-- The first member that makes up a predicate, and the members after it. Others are skipped. -/
def findPart (close : ObjectEnd) :
    List (Quotation × Document) →
      Except Fault (Option (Part × Document × List (Quotation × Document)))
  | [] => do
    close.check
    .ok none
  | (key, document) :: rest => do
    match Part.ofName? (← key.text) with
    | some part => .ok (some (part, document, rest))
    | none => do
      document.skip
      findPart close rest

/-- Neither part comes a second time. -/
def checkRest (close : ObjectEnd) (members : List (Quotation × Document)) : Except Fault Unit := do
  match ← findPart close members with
  | none => .ok ()
  | some (part, _) => .error (.duplicateField part.name)

def ofMembers (levels : Nat) (members : List (Quotation × Document)) (close : ObjectEnd) :
    Except Fault Predicate := do
  match ← findPart close members with
  | none => .error (.missingField Part.operation.name)
  | some (.operation, document, rest) => do
    let operation ← Operation.ofJson levels document
    match ← findPart close rest with
    | none => .error (.missingField Part.value.name)
    | some (.operation, _, _) => .error (.duplicateField Part.operation.name)
    | some (.value, document, rest) => do
      let p ← ofContent levels document operation
      checkRest close rest
      .ok p
  | some (.value, document, rest) => do
    let value ← document.value levels
    match ← findPart close rest with
    | none => .error (.missingField Part.operation.name)
    | some (.value, _, _) => .error (.duplicateField Part.value.name)
    | some (.operation, document, rest) => do
      let operation ← Operation.ofJson levels document
      let p ← ofValue value operation
      checkRest close rest
      .ok p

def ofElements (levels : Nat) (elements : Elements) : Except Fault (Predicate × Elements) := do
  let (operation, elements) ← elements.require 0 expected Operation.ofDocument
  elements.require 1 expected fun document => ofContent levels document operation

def ofJson : Reading Predicate
  | levels, .array items close => do
    let levels ← descend levels
    let (p, rest) ← ofElements levels ⟨items, close⟩
    rest.finish
    .ok p
  | levels, .object members close => do
    let levels ← descend levels
    ofMembers levels members close
  | _, document => .error (document.wrongType expected)

end Predicate

end SolrClause
