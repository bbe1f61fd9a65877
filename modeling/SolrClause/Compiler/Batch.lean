import SolrClause.Compiler.Clause

/-! Batches: the clauses of several criteria, in their order. A large batch is divided among the
workers of a pool, and however it is divided, the clauses are those of a small one. -/

namespace SolrClause.Compiler

/-- How a pool divides a batch. A piece is done by one worker, and a cut leaves so many items in
front. -/
inductive Division where
  | piece
  | cut (size : Nat) (front back : Division)
  deriving DecidableEq, Repr

namespace Division

/-- The results of a function at the items. A worker leaves those of its piece in order, and those
of the two sides of a cut are joined, the front first. -/
def map (f : α → β) : Division → List α → List β
  | .piece, items => items.map f
  | .cut size front back, items => front.map f (items.take size) ++ back.map f (items.drop size)

/-- So many items, cut in halves again and again to a depth. -/
def halves : Nat → Nat → Division
  | 0, _ => .piece
  | depth + 1, size => .cut (size / 2) (halves depth (size / 2)) (halves depth (size - size / 2))

theorem map_eq (f : α → β) (division : Division) (items : List α) :
    division.map f items = items.map f := by
  induction division generalizing items with
  | piece => rfl
  | cut size front back hfront hback =>
    rw [map, hfront, hback, ← List.map_append, List.take_append_drop]

end Division

/-- The batch is large enough to be divided. -/
def isLarge (config : Config) (criteria : List Criteria) : Bool :=
  config.parallelThreshold.toNat ≤ criteria.length

/-- The clauses of a batch that is divided in this way if it is large. -/
def clausesBy (division : Division) (config : Config) (criteria : List Criteria) : List String :=
  if isLarge config criteria then division.map (clause config) criteria
  else criteria.map (clause config)

/-- The clauses of a batch, a large one in pieces of one or two criteria. -/
def clauses (config : Config) (criteria : List Criteria) : List String :=
  clausesBy (.halves criteria.length.log2 criteria.length) config criteria

/-- Neither the threshold nor the division makes a difference. -/
theorem clausesBy_eq (division : Division) (config : Config) (criteria : List Criteria) :
    clausesBy division config criteria = criteria.map (clause config) := by
  rw [clausesBy]
  split
  · exact division.map_eq (clause config) criteria
  · rfl

theorem clauses_eq (config : Config) (criteria : List Criteria) :
    clauses config criteria = criteria.map (clause config) :=
  clausesBy_eq _ config criteria

/-- What a batch leaves in the log, the events of the criteria in their order. The workers of a pool
may leave them in another order. -/
def batchEvents (config : Config) (criteria : List Criteria) : List Log.Event :=
  let manner := if isLarge config criteria then " criteria in parallel" else " criteria"
  ⟨.debug, target, "Compiling " ++ toString criteria.length ++ manner⟩ ::
    criteria.flatMap (clauseEvents config)

end SolrClause.Compiler
