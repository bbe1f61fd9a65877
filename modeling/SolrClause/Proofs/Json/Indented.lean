import SolrClause.Proofs.Json.Value

/-! The indented text of a value writes the same document as its text on one line: line starts stand
between tokens only, where a reader takes them for blanks. -/

namespace SolrClause.Json

open Document

theorem blanks_lineStart (level : Nat) : Blanks (lineStart level) := by
  intro c hc
  rcases List.mem_cons.mp hc with rfl | hc
  · decide
  · rw [(List.mem_replicate.mp hc).2]
    decide

theorem blanks_space : Blanks [' '] := by
  intro c hc
  rw [List.mem_singleton.mp hc]
  decide

/-- Each part stands on a line of its own, and so does the closing bracket. -/
theorem block_cons (level : Nat) (first last : Char) (part : List Char) (parts : List (List Char)) :
    block level first last (part :: parts) =
      first :: (lineStart (level + 1) ++ (part ++
        (parts.flatMap (fun part => ',' :: (lineStart (level + 1) ++ part)) ++
          (lineStart level ++ [last])))) := by
  rw [block, if_neg (by simp), List.map_cons, intercalate_cons, List.flatMap_map]
  simp

-- The closing bracket stands further out than the items, so what is in front of it is left open.
mutual

theorem Value.writes_prettyChars (level : Nat) (v : Value) :
    Writes (v.prettyChars level) v.document := by
  cases v with
  | null => exact .null
  | boolean value => exact .boolean value
  | number value => exact writes_numberChars value
  | string value => exact .ofText value
  | array items =>
    cases items with
    | nil => exact .array (.close blanks_nil)
    | cons item rest =>
      rw [Value.prettyChars, prettyItems, block_cons]
      apply Writes.array
      apply WritesItems.first (blanks_lineStart (level + 1))
      · exact item.writes_prettyChars (level + 1)
      · exact writes_prettyItems (level + 1) (blanks_lineStart level) rest
  | object members =>
    cases members with
    | nil => exact .object (.close blanks_nil)
    | cons member rest =>
      rw [Value.prettyChars, prettyMembers, block_cons, List.append_assoc, List.cons_append,
        List.cons_append]
      apply Writes.object
      apply WritesMembers.first (blanks_lineStart (level + 1))
      apply WritesMember.mk (Quotation.writes_ofText member.1) blanks_nil blanks_space
      · exact member.2.writes_prettyChars (level + 1)
      · exact writes_prettyMembers (level + 1) (blanks_lineStart level) rest

theorem writes_prettyItems (level : Nat) {gap : List Char} (hgap : Blanks gap)
    (items : List Value) :
    WritesItems false
      ((prettyItems level items).flatMap (fun part => ',' :: (lineStart level ++ part)) ++
        (gap ++ [']'])) (itemDocuments items) := by
  cases items with
  | nil => exact .close hgap
  | cons item rest =>
    rw [prettyItems, List.flatMap_cons, List.append_assoc, List.cons_append, List.append_assoc]
    apply WritesItems.next blanks_nil (blanks_lineStart level)
    · exact item.writes_prettyChars level
    · exact writes_prettyItems level hgap rest

theorem writes_prettyMembers (level : Nat) {gap : List Char} (hgap : Blanks gap)
    (members : List (String × Value)) :
    WritesMembers false
      ((prettyMembers level members).flatMap (fun part => ',' :: (lineStart level ++ part)) ++
        (gap ++ ['}'])) (memberDocuments members) := by
  cases members with
  | nil => exact .close hgap
  | cons member rest =>
    rw [prettyMembers, List.flatMap_cons, List.append_assoc, List.cons_append, List.append_assoc,
      List.append_assoc, List.cons_append, List.cons_append]
    apply WritesMembers.next blanks_nil (blanks_lineStart level)
    apply WritesMember.mk (Quotation.writes_ofText member.1) blanks_nil blanks_space
    · exact member.2.writes_prettyChars level
    · exact writes_prettyMembers level hgap rest

end

end SolrClause.Json
