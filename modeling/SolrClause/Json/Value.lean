import SolrClause.Json.Fault

/-! JSON values, and writing them on one line or indented. -/

namespace SolrClause.Json

open SolrClause.Number

/-- A number is an integer if it is written as one and fits. -/
inductive Number where
  | integer (value : Int)
  | float (value : Binary64)
  deriving DecidableEq, Repr

inductive Value where
  | null
  | boolean (value : Bool)
  | number (value : Number)
  | string (value : String)
  | array (items : List Value)
  | object (members : List (String × Value))
  deriving Repr

/-- A character inside a string. Only quotes, backslashes and controls are escaped. -/
def escapedChar (c : Char) : List Char :=
  if c = '\"' then ['\\', '\"']
  else if c = '\\' then ['\\', '\\']
  else if c.toNat = 0x08 then ['\\', 'b']
  else if c.toNat = 0x09 then ['\\', 't']
  else if c.toNat = 0x0A then ['\\', 'n']
  else if c.toNat = 0x0C then ['\\', 'f']
  else if c.toNat = 0x0D then ['\\', 'r']
  else if c.toNat < 0x20 then
    '\\' :: 'u' :: '0' :: '0' :: (if c.toNat < 0x10 then ['0'] else []) ++ Text.hexDigits c.toNat
  else [c]

def stringChars (text : String) : List Char :=
  '\"' :: text.toList.flatMap escapedChar ++ ['\"']

/-- A number that is not finite has no JSON form and becomes `null`. -/
def numberChars : Number → List Char
  | .integer value => (Scalar.integerText value).toList
  | .float value => (floatText value).toList

def wordChars : Bool → List Char
  | true => ['t', 'r', 'u', 'e']
  | false => ['f', 'a', 'l', 's', 'e']

mutual

def Value.compactChars : Value → List Char
  | .null => ['n', 'u', 'l', 'l']
  | .boolean value => wordChars value
  | .number value => numberChars value
  | .string value => stringChars value
  | .array items => '[' :: [','].intercalate (compactItems items) ++ [']']
  | .object members => '{' :: [','].intercalate (compactMembers members) ++ ['}']

def compactItems : List Value → List (List Char)
  | [] => []
  | item :: rest => item.compactChars :: compactItems rest

def compactMembers : List (String × Value) → List (List Char)
  | [] => []
  | (key, value) :: rest =>
    (stringChars key ++ ':' :: value.compactChars) :: compactMembers rest

end

def lineStart (level : Nat) : List Char := '\n' :: List.replicate (2 * level) ' '

/-- Parts between brackets, each on a line of its own. -/
def block (level : Nat) (first last : Char) (parts : List (List Char)) : List Char :=
  if parts.isEmpty then [first, last]
  else
    first :: [','].intercalate (parts.map (lineStart (level + 1) ++ ·)) ++ lineStart level ++ [last]

mutual

def Value.prettyChars (level : Nat) : Value → List Char
  | .null => ['n', 'u', 'l', 'l']
  | .boolean value => wordChars value
  | .number value => numberChars value
  | .string value => stringChars value
  | .array items => block level '[' ']' (prettyItems (level + 1) items)
  | .object members => block level '{' '}' (prettyMembers (level + 1) members)

def prettyItems (level : Nat) : List Value → List (List Char)
  | [] => []
  | item :: rest => item.prettyChars level :: prettyItems level rest

def prettyMembers (level : Nat) : List (String × Value) → List (List Char)
  | [] => []
  | (key, value) :: rest =>
    (stringChars key ++ ':' :: ' ' :: value.prettyChars level) :: prettyMembers level rest

end

namespace Number

def found : Number → Found
  | .integer n => .integer n
  | .float x => .float x

end Number

namespace Value

def found : Value → Found
  | .null => .null
  | .boolean b => .boolean b
  | .number n => n.found
  | .string text => .string text
  | .array _ => .sequence
  | .object _ => .map

def compact (value : Value) : String := String.ofList value.compactChars

def pretty (value : Value) : String := String.ofList (value.prettyChars 0)

end Value

end SolrClause.Json
