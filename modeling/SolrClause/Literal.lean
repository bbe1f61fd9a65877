/-! Literal tokens: the reserved tokens of the query grammar, escaping them in a value, and quoting
a value that would otherwise fall apart at a space or be read as an operator word. -/

namespace SolrClause.Literal

/-- The characters that are reserved on their own. -/
def reservedChars : List Char :=
  ['\"', '+', '-', '!', '(', ')', '{', '}', '[', ']', '^', '~', '*', '?', ':', '\\']

/-- The characters that are reserved only when doubled. -/
def pairedChars : List Char := ['&', '|']

def reservedTokens : List (List Char) :=
  [['\"'], ['+'], ['-'], ['&', '&'], ['|', '|'], ['!'], ['('], [')'], ['{'], ['}'], ['['], [']'],
    ['^'], ['~'], ['*'], ['?'], [':'], ['\\']]

/-- The words that the query grammar reads as operators. -/
def operatorWords : List String := ["NOT", "AND", "OR"]

def isReserved (c : Char) : Bool := reservedChars.contains c

/-- Left to right, a backslash goes before each character of a reserved token. A pair is taken as
soon as it is met, so the third `&` of three starts afresh. -/
def escapeChars : List Char → List Char
  | '&' :: '&' :: rest => '\\' :: '&' :: '\\' :: '&' :: escapeChars rest
  | '|' :: '|' :: rest => '\\' :: '|' :: '\\' :: '|' :: escapeChars rest
  | c :: rest => if isReserved c then '\\' :: c :: escapeChars rest else c :: escapeChars rest
  | [] => []

def escape (text : String) : String := String.ofList (escapeChars text.toList)

/-- A text stays one token without quotes unless it holds a space or is an operator word. -/
def needsQuoting (text : String) : Bool :=
  text.toList.contains ' ' || operatorWords.contains text

/-- The text between double quotes if it needs them, and as it is otherwise. -/
def quote (text : String) : String :=
  if needsQuoting text then "\"" ++ text ++ "\"" else text

def sanitize (text : String) : String := quote (escape text)

@[simp] theorem escapeChars_nil : escapeChars [] = [] := rfl

@[simp] theorem toList_escape (text : String) :
    (escape text).toList = escapeChars text.toList := by
  simp [escape]

end SolrClause.Literal
