import SolrClause.Text.CharSet

/-! The UTF-8 forms of the characters of a set, as sequences of runs of bytes: a form is in the set
if each of its bytes is in the run at its place in one of the sequences. -/

namespace SolrClause.Text

/-- Bytes, by the first and the last of them. -/
abbrev ByteRun := Nat × Nat

/-- How many values the bytes after the first can tell apart. -/
def valueCount : Nat → Nat
  | 0 => 1
  | bytes + 1 => 64 * valueCount bytes

/-- The forms of the values from one to another, with a number of bytes after the first one, which
counts from `lead` on. Values whose first bytes are the same are told apart by the others; in
between, where the others are free, the first bytes make a run. -/
def formsBetween (lead : Nat) : Nat → Nat → Nat → List (List ByteRun)
  | 0, first, last => [[(lead + first, lead + last)]]
  | bytes + 1, first, last =>
    let count := valueCount (bytes + 1)
    let under (head first last : Nat) :=
      (formsBetween 0x80 bytes first last).map ((lead + head, lead + head) :: ·)
    let low := first / count
    let high := last / count
    let isFrontWhole := first % count = 0
    let isBackWhole := last % count = count - 1
    if low = high then under low (first % count) (last % count)
    else
      let front := if isFrontWhole then [] else under low (first % count) (count - 1)
      let back := if isBackWhole then [] else under high 0 (last % count)
      let low := if isFrontWhole then low else low + 1
      let high := if isBackWhole then high else high - 1
      let middle :=
        if high < low then []
        else [(lead + low, lead + high) :: List.replicate (bytes + 1) (0x80, 0xBF)]
      front ++ middle ++ back

/-- Characters whose forms have equally many bytes. -/
structure FormBlock where
  first : Nat
  last : Nat
  /-- What the code points are ahead of the ranks. -/
  ahead : Nat
  lead : Nat
  bytes : Nat

def formBlocks : List FormBlock :=
  [⟨0, 0x7F, 0, 0, 0⟩, ⟨0x80, 0x7FF, 0, 0xC0, 1⟩, ⟨0x800, 0xD7FF, 0, 0xE0, 2⟩,
    ⟨0xD800, 0xF7FF, 0x800, 0xE0, 2⟩, ⟨0xF800, rankCount - 1, 0x800, 0xF0, 3⟩]

namespace CharSet

def forms (set : CharSet) : List (List ByteRun) :=
  set.runs.flatMap fun (first, last) =>
    formBlocks.flatMap fun block =>
      let first := max first block.first
      let last := min last block.last
      if last < first then []
      else formsBetween block.lead block.bytes (first + block.ahead) (last + block.ahead)

end CharSet

end SolrClause.Text
