/-! The order of texts by the bytes of their UTF-8 form. -/

namespace SolrClause.Text

def utf8 (text : String) : List UInt8 := text.toByteArray.data.toList

/-- The bytes of one text come before those of another, or are the same. -/
def bytesLe (a b : String) : Bool := decide (utf8 a ≤ utf8 b)

end SolrClause.Text
