import Mathlib.Data.List.Basic
import SolrClause.Proofs.Query.Split

/-! Query text as a reader of it sees it that knows of backslashes and quotes only. It can read
every text, and says of each character whether it is taken literally and whether it is between
quotes. The reader that also knows of ranges stands in the same way wherever it gets to. -/

namespace SolrClause.Query

/-- What the characters before one say about it. -/
structure Stance where
  /-- The character before is a backslash that takes this one literally. -/
  escaped : Bool
  quoted : Bool
  deriving DecidableEq, Repr

namespace Stance

/-- Outside quotes, and after no backslash. -/
def outside : Stance := ⟨false, false⟩

/-- The stance after one more character. -/
def next (s : Stance) (c : Char) : Stance :=
  if s.escaped then { s with escaped := false }
  else if c = '\\' then { s with escaped := true }
  else if c = '\"' then { s with quoted := !s.quoted }
  else s

end Stance

/-- The characters of a text, each with the stance in which a reader meets it. -/
def readings : Stance → List Char → List (Stance × Char)
  | _, [] => []
  | s, c :: rest => (s, c) :: readings (s.next c) rest

def after (s : Stance) (text : List Char) : Stance := text.foldl Stance.next s

/-- Whether a character is one of some marks and stands outside quotes and after no backslash. -/
def isActive (marks : List Char) (reading : Stance × Char) : Bool :=
  reading.1 == .outside && marks.contains reading.2

/-- Whether a character is a mark outside quotes. -/
def isUnquoted (mark : Char) (reading : Stance × Char) : Bool :=
  !reading.1.quoted && reading.2 == mark

/-- Where marks stand in a text outside quotes and after no backslash, counted from 0. -/
def activePositions (marks text : List Char) : List Nat :=
  (readings .outside text).findIdxs (isActive marks)

/-- Where a mark stands in a text outside quotes, counted from 0. -/
def unquotedPositions (mark : Char) (text : List Char) : List Nat :=
  (readings .outside text).findIdxs (isUnquoted mark)

variable {s : Stance} {c : Char} {text rest : List Char}

@[simp] theorem readings_nil : readings s [] = [] := rfl

theorem readings_append (s : Stance) (text rest : List Char) :
    readings s (text ++ rest) = readings s text ++ readings (after s text) rest := by
  induction text generalizing s with
  | nil => rfl
  | cons c text ih => exact congrArg ((s, c) :: ·) (ih (s.next c))

@[simp] theorem length_readings (s : Stance) (text : List Char) :
    (readings s text).length = text.length := by
  induction text generalizing s with
  | nil => rfl
  | cons c text ih => exact congrArg (· + 1) (ih (s.next c))

/-- A backslash and the character after it leave a reader in its stance. -/
theorem readings_backslash (hs : s.escaped = false) (c : Char) (rest : List Char) :
    readings s ('\\' :: c :: rest) =
      (s, '\\') :: ({ s with escaped := true }, c) :: readings s rest := by
  have hback : ({ s with escaped := false } : Stance) = s := by rw [← hs]
  simp [readings, Stance.next, hs, hback]

theorem readings_quote (hs : s.escaped = false) (rest : List Char) :
    readings s ('\"' :: rest) = (s, '\"') :: readings { s with quoted := !s.quoted } rest := by
  simp [readings, Stance.next, hs]

/-- Any other character leaves a reader in its stance. -/
theorem readings_plain (hs : s.escaped = false) (hback : c ≠ '\\') (hquote : c ≠ '\"')
    (rest : List Char) : readings s (c :: rest) = (s, c) :: readings s rest := by
  simp [readings, Stance.next, hs, hback, hquote]

/-! ### Readers that know of ranges -/

/-- A place without the knowledge of ranges. -/
def Place.stance (p : Place) : Stance := ⟨p.escaped, p.quoted⟩

theorem Place.stance_of_step {p q : Place} (h : p.step c = some q) :
    q.stance = p.stance.next c := by
  grind [Place.step, Stance.next, Place.stance]

theorem after_of_pass {separator : Char} {p q : Place} (h : pass separator p text = some q) :
    after p.stance text = q.stance := by
  induction text generalizing p with
  | nil =>
    cases h
    rfl
  | cons c text ih =>
    obtain ⟨-, next, hstep, hnext⟩ := pass_cons_eq_some h
    rw [after, List.foldl_cons, ← Place.stance_of_step hstep]
    exact ih hnext

end SolrClause.Query
