import SolrClause.Json.Document
import SolrClause.Proofs.Json.Numeral
import SolrClause.Proofs.Json.Quotation

/-! The texts that write a document, with any blanks between the tokens, and the reader on them: it
gives the document back and stops where the text ends. -/

namespace SolrClause.Json.Document

/-- The characters are blanks between tokens. -/
def Blanks (gap : List Char) : Prop := ∀ c ∈ gap, isSpace c = true

mutual

/-- The text writes the document, from its first token to its last. -/
inductive Writes : List Char → Document → Prop
  | null : Writes ['n', 'u', 'l', 'l'] .null
  | boolean (b : Bool) : Writes (wordChars b) (.boolean b)
  | number {text : List Char} {n : Numeral} (h : n.Writes text) : Writes text (.number n)
  | string {text : List Char} {q : Quotation} (h : q.Writes text) :
      Writes ('\"' :: text) (.string q)
  | array {text : List Char} {items : List Document} (h : WritesItems true text items) :
      Writes ('[' :: text) (.array items .closed)
  | object {text : List Char} {members : List (Quotation × Document)}
      (h : WritesMembers true text members) : Writes ('{' :: text) (.object members .closed)

/-- The text holds the items of an array from here on and the closing bracket. A comma stands before
each item but the first. -/
inductive WritesItems : Bool → List Char → List Document → Prop
  | close {isFirst : Bool} {gap : List Char} (hgap : Blanks gap) :
      WritesItems isFirst (gap ++ [']']) []
  | first {gap text rest : List Char} {item : Document} {items : List Document}
      (hgap : Blanks gap) (hitem : Writes text item) (hrest : WritesItems false rest items) :
      WritesItems true (gap ++ (text ++ rest)) (item :: items)
  | next {gap gap' text rest : List Char} {item : Document} {items : List Document}
      (hgap : Blanks gap) (hgap' : Blanks gap') (hitem : Writes text item)
      (hrest : WritesItems false rest items) :
      WritesItems false (gap ++ ',' :: (gap' ++ (text ++ rest))) (item :: items)

/-- The text holds the members of an object from here on and the closing brace. -/
inductive WritesMembers : Bool → List Char → List (Quotation × Document) → Prop
  | close {isFirst : Bool} {gap : List Char} (hgap : Blanks gap) :
      WritesMembers isFirst (gap ++ ['}']) []
  | first {gap text : List Char} {members : List (Quotation × Document)}
      (hgap : Blanks gap) (hmember : WritesMember text members) :
      WritesMembers true (gap ++ text) members
  | next {gap gap' text : List Char} {members : List (Quotation × Document)}
      (hgap : Blanks gap) (hgap' : Blanks gap') (hmember : WritesMember text members) :
      WritesMembers false (gap ++ ',' :: (gap' ++ text)) members

/-- The text starts with a member, and holds the members after it and the closing brace. -/
inductive WritesMember : List Char → List (Quotation × Document) → Prop
  | mk {name gap gap' text rest : List Char} {key : Quotation} {value : Document}
      {members : List (Quotation × Document)} (hkey : key.Writes name) (hgap : Blanks gap)
      (hgap' : Blanks gap') (hvalue : Writes text value)
      (hrest : WritesMembers false rest members) :
      WritesMember ('\"' :: (name ++ (gap ++ ':' :: (gap' ++ (text ++ rest)))))
        ((key, value) :: members)

end

theorem blanks_nil : Blanks [] := fun _ h => absurd h List.not_mem_nil

/-! ### Without blanks -/

section Tight

variable {text rest : List Char} {d : Document} {items : List Document}
  {members : List (Quotation × Document)}

theorem WritesItems.first_tight (hitem : Writes text d) (hrest : WritesItems false rest items) :
    WritesItems true (text ++ rest) (d :: items) :=
  .first blanks_nil hitem hrest

theorem WritesItems.next_tight (hitem : Writes text d) (hrest : WritesItems false rest items) :
    WritesItems false (',' :: (text ++ rest)) (d :: items) :=
  .next blanks_nil blanks_nil hitem hrest

theorem WritesMember.tight (key : String) (hvalue : Writes text d)
    (hrest : WritesMembers false rest members) :
    WritesMember (stringChars key ++ ':' :: (text ++ rest)) ((.ofText key, d) :: members) :=
  .mk (Quotation.writes_ofText key) blanks_nil blanks_nil hvalue hrest

theorem Writes.ofText (s : String) : Writes (stringChars s) (.string (.ofText s)) :=
  .string (Quotation.writes_ofText s)

theorem WritesMembers.first_tight (hmember : WritesMember text members) :
    WritesMembers true text members :=
  .first blanks_nil hmember

theorem WritesMembers.next_tight (hmember : WritesMember text members) :
    WritesMembers false (',' :: text) members :=
  .next blanks_nil blanks_nil hmember

end Tight

/-! ### Blanks and first characters -/

section Blanks

variable {gap rest : List Char} {c : Char}

theorem skipSpaces_append (hgap : Blanks gap) : skipSpaces (gap ++ rest) = skipSpaces rest :=
  List.dropWhile_append_of_pos hgap

theorem skipSpaces_cons (hc : isSpace c = false) : skipSpaces (c :: rest) = c :: rest :=
  List.dropWhile_cons_of_neg (by simp [hc])

theorem skipSpaces_gap (hgap : Blanks gap) (hc : isSpace c = false) :
    skipSpaces (gap ++ c :: rest) = c :: rest := by
  rw [skipSpaces_append hgap, skipSpaces_cons hc]

theorem ends_blank {c : Char} (hc : isSpace c = true) : Numeral.Ends (c :: rest) := by
  simp only [isSpace, Bool.or_eq_true, decide_eq_true_eq] at hc
  rcases hc with ((rfl | rfl) | rfl) | rfl <;>
    exact Numeral.ends_cons (by decide) (by decide) (by decide) (by decide)

theorem ends_blanks (hgap : Blanks gap) : Numeral.Ends gap := by
  cases gap with
  | nil => exact Numeral.ends_nil
  | cons d gap => exact ends_blank (hgap d List.mem_cons_self)

/-- No numeral goes on in a blank, a comma or a closing bracket. -/
theorem ends_gap (hgap : Blanks gap) (hc : c ∈ [',', ']', '}']) :
    Numeral.Ends (gap ++ c :: rest) := by
  cases gap with
  | nil =>
    simp only [List.mem_cons, List.not_mem_nil, or_false] at hc
    rcases hc with rfl | rfl | rfl <;>
      exact Numeral.ends_cons (by decide) (by decide) (by decide) (by decide)
  | cons d gap => exact ends_blank (hgap d List.mem_cons_self)

theorem WritesItems.ends {text : List Char} {items : List Document}
    (h : WritesItems false text items) (rest : List Char) : Numeral.Ends (text ++ rest) := by
  cases h with
  | close hgap =>
    rw [List.append_assoc]
    exact ends_gap hgap (by decide)
  | next hgap =>
    rw [List.append_assoc]
    exact ends_gap hgap (by decide)

theorem WritesMembers.ends {text : List Char} {members : List (Quotation × Document)}
    (h : WritesMembers false text members) (rest : List Char) : Numeral.Ends (text ++ rest) := by
  cases h with
  | close hgap =>
    rw [List.append_assoc]
    exact ends_gap hgap (by decide)
  | next hgap =>
    rw [List.append_assoc]
    exact ends_gap hgap (by decide)

end Blanks

/-- The first character of a value is no blank, and cannot be taken for the end of an array. -/
structure Opens (c : Char) : Prop where
  not_space : isSpace c = false
  ne_bracket : c ≠ ']'

theorem opens_of_isDigit {c : Char} (h : Text.isDigit c = true) : Opens c := by
  constructor
  · rw [← Bool.not_eq_true]
    intro hspace
    simp only [isSpace, Bool.or_eq_true, decide_eq_true_eq] at hspace
    rcases hspace with ((rfl | rfl) | rfl) | rfl <;> exact absurd h (by decide)
  · rintro rfl
    exact absurd h (by decide)

theorem opens_of_numeral {c : Char} (h : c = '-' ∨ Text.isDigit c = true) : Opens c := by
  rcases h with rfl | h
  · exact ⟨by decide, by decide⟩
  · exact opens_of_isDigit h

theorem Writes.opens {text : List Char} {d : Document} (h : Writes text d) :
    ∃ c rest, text = c :: rest ∧ Opens c := by
  cases h with
  | null => exact ⟨'n', _, rfl, by decide, by decide⟩
  | boolean b =>
    cases b with
    | true => exact ⟨'t', _, rfl, by decide, by decide⟩
    | false => exact ⟨'f', _, rfl, by decide, by decide⟩
  | number h =>
    obtain ⟨c, rest, hcons, hc⟩ := Numeral.exists_cons_of_writes h
    exact ⟨c, rest, hcons, opens_of_numeral hc⟩
  | string h => exact ⟨'\"', _, rfl, by decide, by decide⟩
  | array h => exact ⟨'[', _, rfl, by decide, by decide⟩
  | object h => exact ⟨'{', _, rfl, by decide, by decide⟩

theorem WritesMember.opens {text : List Char} {members : List (Quotation × Document)}
    (h : WritesMember text members) : ∃ rest, text = '\"' :: rest := by
  cases h with
  | mk => exact ⟨_, rfl⟩

theorem WritesMembers.exists_brace {isFirst : Bool} {text : List Char}
    {members : List (Quotation × Document)} (h : WritesMembers isFirst text members) :
    ∃ inner, text = inner ++ ['}'] := by
  induction members generalizing text isFirst with
  | nil =>
    cases h with
    | close hgap => exact ⟨_, rfl⟩
    | first hgap hmember => cases hmember
    | next hgap hgap' hmember => cases hmember
  | cons member members ih =>
    have hmember {text : List Char} (h : WritesMember text (member :: members)) :
        ∃ inner, text = inner ++ ['}'] := by
      cases h with
      | @mk name gap gap' text rest key value members hkey hgap hgap' hvalue hrest =>
        obtain ⟨inner, rfl⟩ := ih hrest
        exact ⟨'\"' :: (name ++ (gap ++ ':' :: (gap' ++ (text ++ inner)))), by simp⟩
    cases h with
    | first hgap h =>
      obtain ⟨inner, rfl⟩ := hmember h
      exact ⟨_, (List.append_assoc ..).symm⟩
    | @next gap gap' text members hgap hgap' h =>
      obtain ⟨inner, rfl⟩ := hmember h
      exact ⟨gap ++ ',' :: (gap' ++ inner), by simp⟩

/-- An object is written between braces. -/
theorem Writes.exists_braces {text : List Char} {members : List (Quotation × Document)}
    {close : ObjectEnd} (h : Writes text (.object members close)) :
    ∃ inner, text = '{' :: (inner ++ ['}']) := by
  cases h with
  | object h =>
    obtain ⟨inner, rfl⟩ := h.exists_brace
    exact ⟨inner, rfl⟩

/-! ### The reader, branch by branch -/

section Branches

variable {fuel : Nat} {gap gap' rest : List Char}

theorem readValue_gap (hgap : Blanks gap) : readValue fuel (gap ++ rest) = readValue fuel rest := by
  cases fuel with
  | zero => rfl
  | succ fuel => simp only [readValue, skipSpaces_append hgap]

theorem readValue_null : readValue (fuel + 1) (['n', 'u', 'l', 'l'] ++ rest) = (.null, rest) := by
  rfl

theorem readValue_boolean (b : Bool) :
    readValue (fuel + 1) (wordChars b ++ rest) = (.boolean b, rest) := by
  cases b <;> rfl

theorem readValue_number {text : List Char} {n : Numeral} (h : n.Writes text)
    (hrest : Numeral.Ends rest) : readValue (fuel + 1) (text ++ rest) = (.number n, rest) := by
  have hread := Numeral.read_writes h hrest
  obtain ⟨c, tail, hcons, hc⟩ := Numeral.exists_cons_of_writes h
  have hspace := (opens_of_numeral hc).not_space
  have hquote : c ≠ '\"' := by
    rintro rfl
    exact absurd hc (by decide)
  have hbracket : c ≠ '[' := by
    rintro rfl
    exact absurd hc (by decide)
  have hbrace : c ≠ '{' := by
    rintro rfl
    exact absurd hc (by decide)
  have hnumeral : (decide (c = '-') || Text.isDigit c) = true := by simpa using hc
  rw [hcons, List.cons_append] at hread ⊢
  simp only [readValue, skipSpaces_cons hspace, if_neg hquote, if_neg hbracket, if_neg hbrace,
    if_pos hnumeral, readNumeral, hread]

theorem readValue_string {text : List Char} {q : Quotation} (h : q.Writes text) :
    readValue (fuel + 1) ('\"' :: text ++ rest) = (.string q, rest) := by
  rw [List.cons_append]
  simp only [readValue, skipSpaces_cons (show isSpace '\"' = false by decide),
    Quotation.read_writes h]
  rfl

theorem readValue_array {items : List Document} {close : ArrayEnd} {after : List Char}
    (h : readItems fuel true rest = (items, close, after)) :
    readValue (fuel + 1) ('[' :: rest) = (.array items close, after) := by
  simp only [readValue, skipSpaces_cons (show isSpace '[' = false by decide), h]
  rfl

theorem readValue_object {members : List (Quotation × Document)} {close : ObjectEnd}
    {after : List Char} (h : readMembers fuel true rest = (members, close, after)) :
    readValue (fuel + 1) ('{' :: rest) = (.object members close, after) := by
  simp only [readValue, skipSpaces_cons (show isSpace '{' = false by decide), h]
  rfl

theorem readItems_close {isFirst : Bool} (hgap : Blanks gap) :
    readItems (fuel + 1) isFirst (gap ++ ']' :: rest) = ([], .closed, rest) := by
  simp only [readItems, skipSpaces_gap hgap (show isSpace ']' = false by decide), if_true]

variable {c : Char} {after rest' : List Char} {item value : Document} {items : List Document}
  {key : Quotation} {members : List (Quotation × Document)} {close : ArrayEnd} {ending : ObjectEnd}

theorem readItems_first (hgap : Blanks gap) (hc : Opens c)
    (hitem : readValue fuel (c :: rest) = (item, after))
    (hitems : readItems fuel false after = (items, close, rest')) :
    readItems (fuel + 1) true (gap ++ c :: rest) = (item :: items, close, rest') := by
  simp only [readItems, skipSpaces_gap hgap hc.not_space, if_neg hc.ne_bracket, if_true, hitem,
    hitems]

theorem readItems_next (hgap : Blanks gap) (hgap' : Blanks gap') (hc : Opens c)
    (hitem : readValue fuel (c :: rest) = (item, after))
    (hitems : readItems fuel false after = (items, close, rest')) :
    readItems (fuel + 1) false (gap ++ ',' :: (gap' ++ c :: rest)) =
      (item :: items, close, rest') := by
  simp only [readItems, skipSpaces_gap hgap (show isSpace ',' = false by decide),
    if_neg (show ',' ≠ ']' by decide), Bool.false_eq_true, if_false, if_true,
    skipSpaces_gap hgap' hc.not_space, if_neg hc.ne_bracket, hitem, hitems]

theorem readMembers_close {isFirst : Bool} (hgap : Blanks gap) :
    readMembers (fuel + 1) isFirst (gap ++ '}' :: rest) = ([], .closed, rest) := by
  simp only [readMembers, skipSpaces_gap hgap (show isSpace '}' = false by decide), if_true]

theorem readMembers_first (hgap : Blanks gap) :
    readMembers (fuel + 1) true (gap ++ '\"' :: rest) = readMember fuel rest := by
  simp only [readMembers, skipSpaces_gap hgap (show isSpace '\"' = false by decide), if_true,
    if_neg (show '\"' ≠ '}' by decide)]

theorem readMembers_next (hgap : Blanks gap) (hgap' : Blanks gap') :
    readMembers (fuel + 1) false (gap ++ ',' :: (gap' ++ '\"' :: rest)) =
      readMember fuel rest := by
  simp only [readMembers, skipSpaces_gap hgap (show isSpace ',' = false by decide),
    if_neg (show ',' ≠ '}' by decide), Bool.false_eq_true, if_false, if_true,
    skipSpaces_gap hgap' (show isSpace '\"' = false by decide)]

theorem readMember_eq (hkey : Quotation.read rest = (key, gap ++ ':' :: after))
    (hgap : Blanks gap) (hvalue : readValue fuel after = (value, gap'))
    (hmembers : readMembers fuel false gap' = (members, ending, rest')) :
    readMember (fuel + 1) rest = ((key, value) :: members, ending, rest') := by
  simp only [readMember, hkey, skipSpaces_gap hgap (show isSpace ':' = false by decide), if_true,
    hvalue, hmembers]

end Branches

/-! ### Reading what is written -/

-- The induction is on how the text writes the document. A value needs two steps for each of its
-- characters, and what follows the opening bracket one more.
mutual

/-- The reader takes a document from the front of a text, unless a numeral goes on after it. -/
theorem readValue_writes {fuel : Nat} {text : List Char} (rest : List Char) {d : Document}
    (h : Writes text d) (hfuel : 2 * text.length ≤ fuel) (hrest : Numeral.Ends rest) :
    readValue fuel (text ++ rest) = (d, rest) := by
  obtain ⟨c, tail, hcons, -⟩ := h.opens
  have hlength : 0 < text.length := by simp [hcons]
  obtain ⟨fuel, rfl⟩ : ∃ k, fuel = k + 1 := ⟨fuel - 1, by omega⟩
  cases h with
  | null => exact readValue_null
  | boolean b => exact readValue_boolean b
  | number h => exact readValue_number h hrest
  | string h => exact readValue_string h
  | array h =>
    rw [List.length_cons] at hfuel
    exact readValue_array (readItems_writes rest h (by omega))
  | object h =>
    rw [List.length_cons] at hfuel
    exact readValue_object (readMembers_writes rest h (by omega))

theorem readItems_writes {fuel : Nat} {text : List Char} (rest : List Char) {isFirst : Bool}
    {items : List Document} (h : WritesItems isFirst text items)
    (hfuel : 2 * text.length + 1 ≤ fuel) :
    readItems fuel isFirst (text ++ rest) = (items, .closed, rest) := by
  obtain ⟨fuel, rfl⟩ : ∃ k, fuel = k + 1 := ⟨fuel - 1, by omega⟩
  cases h with
  | close hgap =>
    rw [List.append_assoc]
    exact readItems_close hgap
  | @first gap text more item items hgap hitem hmore =>
    obtain ⟨c, tail, hcons, hc⟩ := hitem.opens
    have hlength : 0 < text.length := by simp [hcons]
    rw [List.length_append, List.length_append] at hfuel
    have hvalue := readValue_writes (more ++ rest) hitem (show 2 * text.length ≤ fuel by omega)
      (hmore.ends rest)
    have hitems := readItems_writes rest hmore (show 2 * more.length + 1 ≤ fuel by omega)
    rw [hcons, List.cons_append] at hvalue
    rw [List.append_assoc, List.append_assoc, hcons, List.cons_append]
    exact readItems_first hgap hc hvalue hitems
  | @next gap gap' text more item items hgap hgap' hitem hmore =>
    obtain ⟨c, tail, hcons, hc⟩ := hitem.opens
    have hlength : 0 < text.length := by simp [hcons]
    rw [List.length_append, List.length_cons, List.length_append, List.length_append] at hfuel
    have hvalue := readValue_writes (more ++ rest) hitem (show 2 * text.length ≤ fuel by omega)
      (hmore.ends rest)
    have hitems := readItems_writes rest hmore (show 2 * more.length + 1 ≤ fuel by omega)
    rw [hcons, List.cons_append] at hvalue
    rw [List.append_assoc, List.cons_append, List.append_assoc, List.append_assoc, hcons,
      List.cons_append]
    exact readItems_next hgap hgap' hc hvalue hitems

theorem readMembers_writes {fuel : Nat} {text : List Char} (rest : List Char) {isFirst : Bool}
    {members : List (Quotation × Document)} (h : WritesMembers isFirst text members)
    (hfuel : 2 * text.length + 1 ≤ fuel) :
    readMembers fuel isFirst (text ++ rest) = (members, .closed, rest) := by
  obtain ⟨fuel, rfl⟩ : ∃ k, fuel = k + 1 := ⟨fuel - 1, by omega⟩
  cases h with
  | close hgap =>
    rw [List.append_assoc]
    exact readMembers_close hgap
  | @first gap text members hgap hmember =>
    obtain ⟨tail, hcons⟩ := hmember.opens
    rw [List.length_append] at hfuel
    have hread := readMember_writes rest hmember (show 2 * text.length ≤ fuel by omega)
    rw [hcons, List.tail_cons] at hread
    rw [List.append_assoc, hcons, List.cons_append, readMembers_first hgap]
    exact hread
  | @next gap gap' text members hgap hgap' hmember =>
    obtain ⟨tail, hcons⟩ := hmember.opens
    rw [List.length_append, List.length_cons, List.length_append] at hfuel
    have hread := readMember_writes rest hmember (show 2 * text.length ≤ fuel by omega)
    rw [hcons, List.tail_cons] at hread
    rw [List.append_assoc, List.cons_append, List.append_assoc, hcons, List.cons_append,
      readMembers_next hgap hgap']
    exact hread

theorem readMember_writes {fuel : Nat} {text : List Char} (rest : List Char)
    {members : List (Quotation × Document)} (h : WritesMember text members)
    (hfuel : 2 * text.length ≤ fuel) :
    readMember fuel (text.tail ++ rest) = (members, .closed, rest) := by
  cases h with
  | @mk name gap gap' text more key value members hkey hgap hgap' hvalue hmore =>
    simp only [List.length_append, List.length_cons] at hfuel
    obtain ⟨fuel, rfl⟩ : ∃ k, fuel = k + 1 := ⟨fuel - 1, by omega⟩
    have hread := readValue_writes (more ++ rest) hvalue (show 2 * text.length ≤ fuel by omega)
      (hmore.ends rest)
    have hmembers := readMembers_writes rest hmore (show 2 * more.length + 1 ≤ fuel by omega)
    have hafter : ('\"' :: (name ++ (gap ++ ':' :: (gap' ++ (text ++ more))))).tail ++ rest =
        name ++ (gap ++ ':' :: (gap' ++ (text ++ (more ++ rest)))) := by
      simp
    rw [hafter]
    refine readMember_eq (Quotation.read_writes hkey) hgap ?_ hmembers
    rw [readValue_gap hgap', hread]

end

/-- The document of a text that writes one after blanks, with nothing after it that a numeral could
go on in. -/
theorem read_writes {gap text rest : List Char} {d : Document} (hgap : Blanks gap)
    (h : Writes text d) (hrest : Numeral.Ends rest) : read (gap ++ (text ++ rest)) = (d, rest) := by
  rw [read, readValue_gap hgap]
  refine readValue_writes rest h ?_ hrest
  rw [List.length_append, List.length_append]
  omega

end SolrClause.Json.Document
