import SolrClause.Text.Runs

/-! Blank characters: the `White_Space` property of Unicode, trimming by it, and the lines of a
text. -/

namespace SolrClause.Text

/-- The first and last code points of each run of `White_Space` characters. -/
def blankRuns : List (Nat × Nat) :=
  [(0x9, 0xD), (0x20, 0x20), (0x85, 0x85), (0xA0, 0xA0), (0x1680, 0x1680), (0x2000, 0x200A),
    (0x2028, 0x2029), (0x202F, 0x202F), (0x205F, 0x205F), (0x3000, 0x3000)]

def isBlank (c : Char) : Bool := isIn blankRuns c

/-- The text without the blank characters that it starts with. -/
def trimStart (text : List Char) : List Char := text.dropWhile isBlank

/-- The text without the blank characters around it. -/
def trim (text : List Char) : List Char :=
  ((trimStart text).reverse.dropWhile isBlank).reverse

/-- The lines that follow, where `line` holds the current line's characters, last one first. A line
break takes the carriage return before it along. -/
def linesFrom (line : List Char) : List Char → List (List Char)
  | [] => if line.isEmpty then [] else [line.reverse]
  | c :: rest =>
    if c = '\n' then
      (match line with
        | '\r' :: before => before.reverse
        | _ => line.reverse) :: linesFrom [] rest
    else linesFrom (c :: line) rest

/-- The lines of a text without their line breaks. A break at the very end starts no further line.
-/
def lines (text : List Char) : List (List Char) := linesFrom [] text

end SolrClause.Text
