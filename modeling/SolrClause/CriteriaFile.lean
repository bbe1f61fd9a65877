import SolrClause.Error
import SolrClause.Form.Criteria
import SolrClause.Text.Blank

/-! Criteria files: either one JSON array, or one JSON object on each line. The first character that
is not blank tells which. -/

namespace SolrClause.CriteriaFile

open SolrClause.Text

def isArray (content : List Char) : Bool := (trimStart content).head? = some '['

def readArray (content : List Char) : Except Error (List Criteria) :=
  match Json.parse (Json.Document.readList Criteria.ofJson) content with
  | .ok criteria => .ok criteria
  | .error fault => .error (.json fault)

/-- The criteria on one line. A fault is named with the number of the line in the file; the place on
that line, which ends a full message, is left out. -/
def readLine (number : Nat) (line : List Char) : Except Error Criteria :=
  match Json.parse Criteria.ofJson line with
  | .ok criteria => .ok criteria
  | .error fault => .error (.invalidArgument ("line " ++ toString number ++ ": " ++ fault.message))

/-- The criteria on lines that are numbered from `number` on. Blank lines count and are skipped. -/
def readLines (number : Nat) : List (List Char) → Except Error (List Criteria)
  | [] => .ok []
  | line :: rest =>
    if (trim line).isEmpty then readLines (number + 1) rest
    else do
      let first ← readLine number (trim line)
      let others ← readLines (number + 1) rest
      .ok (first :: others)

def readChars (content : List Char) : Except Error (List Criteria) :=
  if isArray content then readArray content else readLines 1 (lines content)

def read (content : String) : Except Error (List Criteria) := readChars content.toList

end SolrClause.CriteriaFile
