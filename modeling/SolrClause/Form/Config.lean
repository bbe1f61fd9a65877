import SolrClause.Compiler.Config
import SolrClause.Json.Reading

/-! The JSON form of compiler settings: a record whose fields may all be left out. -/

namespace SolrClause.Compiler.Config

open SolrClause.Json

def toJson (config : Config) : Value :=
  .object
    [("canonical_order", .boolean config.canonicalOrder),
      ("parallel_threshold", .number (.integer config.parallelThreshold.toNat))]

def expected : String := "struct CompilerConfig"

structure Draft where
  canonicalOrder : Option Bool := none
  parallelThreshold : Option UInt64 := none

namespace Draft

/-- Takes up one member; others than the two settings are skipped. -/
def takeUp (_levels : Nat) (draft : Draft) (name : String) (document : Document) :
    Except Fault Draft :=
  if name = "canonical_order" then do
    let canonicalOrder ← setField name draft.canonicalOrder document.readBoolean
    .ok { draft with canonicalOrder }
  else if name = "parallel_threshold" then do
    let parallelThreshold ← setField name draft.parallelThreshold document.readSize
    .ok { draft with parallelThreshold }
  else do
    document.skip
    .ok draft

/-- What was left out has its default. -/
def finish (draft : Draft) : Config :=
  let default : Config := {}
  ⟨draft.canonicalOrder.getD default.canonicalOrder,
    draft.parallelThreshold.getD default.parallelThreshold⟩

end Draft

def ofElements (_levels : Nat) (elements : Elements) : Except Fault (Config × Elements) := do
  let (canonicalOrder, elements) ← elements.take Document.readBoolean
  let (parallelThreshold, elements) ← elements.take Document.readSize
  .ok (Draft.finish ⟨canonicalOrder, parallelThreshold⟩, elements)

def ofJson : Reading Config :=
  readRecord expected ofElements {} Draft.takeUp fun draft => .ok draft.finish

end SolrClause.Compiler.Config
