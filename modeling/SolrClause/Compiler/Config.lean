/-! Settings of the compiler. -/

namespace SolrClause.Compiler

structure Config where
  /-- Fragments are put in canonical order instead of the order of the set. -/
  canonicalOrder : Bool := false
  /-- The number of criteria from which on a batch counts as large. -/
  parallelThreshold : UInt64 := 64
  deriving DecidableEq, Repr

def Config.problem? (config : Config) : Option String :=
  if config.parallelThreshold = 0 then some "parallel_threshold must be at least 1" else none

end SolrClause.Compiler
