/-! Tables of characters: ascending runs of code points, given by the first and the last of each. -/

namespace SolrClause.Text

def isIn (runs : List (Nat × Nat)) (c : Char) : Bool :=
  runs.any fun (first, last) => first ≤ c.toNat && c.toNat ≤ last

end SolrClause.Text
