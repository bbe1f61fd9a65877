import SolrClause.Json.Reading
import SolrClause.Proofs.Json.Document
import SolrClause.Proofs.Json.Float

/-! The text of a value on one line is read as the document of that value, whatever the value is. -/

namespace SolrClause.Json

open Document

/-- The document that the text of a number is read as. -/
def Number.document : Number → Document
  | .integer n => .number (.ofInt n)
  | .float x =>
    match x.content with
    | .finite negative significand exponent => .number (.ofFinite negative significand exponent)
    | _ => .null

theorem writes_numberChars (n : Number) : Writes (numberChars n) n.document := by
  cases n with
  | integer n =>
    rw [numberChars, ← Numeral.chars_ofInt]
    exact .number (Numeral.writes_chars (Numeral.wellFormed_ofInt n))
  | float x =>
    have hnull : "null".toList = ['n', 'u', 'l', 'l'] := by decide
    rw [numberChars, floatText, Number.document]
    cases x.content with
    | finite negative significand exponent =>
      rw [String.toList_ofList, ← Numeral.chars_ofFinite]
      exact .number
        (Numeral.writes_chars (Numeral.wellFormed_ofFinite negative significand exponent))
    | infinite negative => exact hnull ▸ .null
    | notANumber => exact hnull ▸ .null

mutual

/-- The document that the text of a value is read as. -/
def Value.document : Value → Document
  | .null => .null
  | .boolean value => .boolean value
  | .number value => value.document
  | .string value => .string (.ofText value)
  | .array items => .array (itemDocuments items) .closed
  | .object members => .object (memberDocuments members) .closed

def itemDocuments : List Value → List Document
  | [] => []
  | item :: rest => item.document :: itemDocuments rest

def memberDocuments : List (String × Value) → List (Quotation × Document)
  | [] => []
  | (key, value) :: rest => (.ofText key, value.document) :: memberDocuments rest

end

/-- Parts after the first have the separator in front of them. -/
theorem intercalate_cons (separator : Char) (part : List Char) (parts : List (List Char)) :
    [separator].intercalate (part :: parts) = part ++ parts.flatMap (separator :: ·) := by
  induction parts generalizing part with
  | nil => simp
  | cons next parts ih =>
    rw [List.intercalate_cons_cons, ih, List.flatMap_cons]
    simp

mutual

theorem Value.writes_compactChars (v : Value) : Writes v.compactChars v.document := by
  cases v with
  | null => exact .null
  | boolean value => exact .boolean value
  | number value => exact writes_numberChars value
  | string value => exact .ofText value
  | array items =>
    rw [Value.compactChars, List.cons_append]
    refine .array ?_
    cases items with
    | nil => exact .close blanks_nil
    | cons item rest =>
      rw [compactItems, intercalate_cons, List.append_assoc]
      exact .first_tight item.writes_compactChars (writes_compactItems rest)
  | object members =>
    rw [Value.compactChars, List.cons_append]
    refine .object ?_
    cases members with
    | nil => exact .close blanks_nil
    | cons member rest =>
      rw [compactMembers, intercalate_cons, List.append_assoc, List.append_assoc, List.cons_append]
      exact .first_tight (.tight member.1 member.2.writes_compactChars (writes_compactMembers rest))

theorem writes_compactItems (items : List Value) :
    WritesItems false ((compactItems items).flatMap (',' :: ·) ++ [']']) (itemDocuments items) := by
  cases items with
  | nil => exact .close blanks_nil
  | cons item rest =>
    rw [compactItems, List.flatMap_cons, List.append_assoc, List.cons_append]
    exact .next_tight item.writes_compactChars (writes_compactItems rest)

theorem writes_compactMembers (members : List (String × Value)) :
    WritesMembers false ((compactMembers members).flatMap (',' :: ·) ++ ['}'])
      (memberDocuments members) := by
  cases members with
  | nil => exact .close blanks_nil
  | cons member rest =>
    rw [compactMembers, List.flatMap_cons, List.append_assoc, List.cons_append, List.append_assoc,
      List.cons_append]
    exact .next_tight (.tight member.1 member.2.writes_compactChars (writes_compactMembers rest))

end

/-- Parsing a text that writes a document, with blanks around it, comes down to reading the
document. -/
theorem parse_writes {α : Type} (reading : Reading α) {gap text gap' : List Char} {d : Document}
    (hgap : Blanks gap) (h : Writes text d) (hgap' : Blanks gap') :
    parse reading (gap ++ (text ++ gap')) = reading levelLimit d := by
  have hrest : skipSpaces gap' = [] := by
    rw [← List.append_nil gap', skipSpaces_append hgap']
    rfl
  rw [parse, read_writes hgap h (ends_blanks hgap')]
  simp only [hrest]
  show (reading levelLimit d >>= fun value => .ok value) = _
  cases reading levelLimit d <;> rfl

theorem parse_writes_tight {α : Type} (reading : Reading α) {text : List Char} {d : Document}
    (h : Writes text d) : parse reading text = reading levelLimit d := by
  have hparse := parse_writes reading blanks_nil h blanks_nil
  rwa [List.nil_append, List.append_nil] at hparse

/-- The text holds the document: it writes it, with nothing but blanks around it. -/
inductive Document.Holds : List Char → Document → Prop
  | mk {gap text gap' : List Char} {d : Document} (hgap : Blanks gap) (h : Writes text d)
      (hgap' : Blanks gap') : Holds (gap ++ (text ++ gap')) d

theorem Document.Writes.holds {text : List Char} {d : Document} (h : Writes text d) :
    Holds text d := by
  have hmk := Holds.mk blanks_nil h blanks_nil
  rwa [List.nil_append, List.append_nil] at hmk

theorem parse_holds {α : Type} (reading : Reading α) {text : List Char} {d : Document}
    (h : Holds text d) : parse reading text = reading levelLimit d := by
  cases h with
  | mk hgap h hgap' => exact parse_writes reading hgap h hgap'

theorem Value.holds_compact (v : Value) : Document.Holds v.compact.toList v.document := by
  rw [compact, String.toList_ofList]
  exact v.writes_compactChars.holds

/-- Parsing the text of a value on one line comes down to reading its document. -/
theorem parse_compact {α : Type} (reading : Reading α) (v : Value) :
    parse reading v.compact.toList = reading levelLimit v.document :=
  parse_holds reading v.holds_compact

end SolrClause.Json
