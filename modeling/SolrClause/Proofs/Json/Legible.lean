import SolrClause.Proofs.Json.Depth

/-! Legible documents: what is written to the end, with strings that stand for texts and numbers
that are allowed. Such a document is skipped without a fault, and it is read in full where the
reader can hold its numbers and it does not nest too deep. -/

namespace SolrClause.Json

/-- Each half of a surrogate pair has the other half beside it. -/
def paired : List Piece → Bool
  | [] => true
  | .plain _ :: rest => paired rest
  | .escaped _ :: rest => paired rest
  | .unit unit :: rest =>
    if isHighSurrogate unit then
      match rest with
      | .unit low :: more => isLowSurrogate low && paired more
      | _ => false
    else !isLowSurrogate unit && paired rest

theorem not_low_of_high {unit : Nat} (h : isHighSurrogate unit = true) :
    isLowSurrogate unit = false := by
  simp only [isHighSurrogate, isLowSurrogate, Bool.and_eq_true, Bool.and_eq_false_iff,
    decide_eq_true_eq, decide_eq_false_iff_not] at *
  omega

theorem exists_decode {pieces : List Piece} (h : paired pieces = true) :
    ∃ chars, decode .closed pieces = .ok chars := by
  induction pieces using paired.induct with
  | case1 => exact ⟨[], rfl⟩
  | case2 c rest ih =>
    obtain ⟨chars, hchars⟩ := ih h
    exact ⟨c :: chars, by rw [decode, hchars, map_ok]⟩
  | case3 c rest ih =>
    obtain ⟨chars, hchars⟩ := ih h
    exact ⟨c :: chars, by rw [decode, hchars, map_ok]⟩
  | case4 unit hhigh low more ih =>
    simp only [paired, hhigh, if_true, Bool.and_eq_true] at h
    obtain ⟨chars, hchars⟩ := ih h.2
    refine ⟨surrogatePair unit low :: chars, ?_⟩
    rw [decode.eq_def]
    simp [not_low_of_high hhigh, hhigh, h.1, hchars]
  | case5 unit rest hhigh hrest =>
    rw [paired.eq_def] at h
    simp [hhigh] at h
  | case6 unit rest hhigh ih =>
    rw [paired.eq_def] at h
    simp only [hhigh, Bool.false_eq_true, if_false, Bool.and_eq_true, Bool.not_eq_true'] at h
    obtain ⟨chars, hchars⟩ := ih h.2
    refine ⟨Char.ofNat unit :: chars, ?_⟩
    rw [decode.eq_def]
    simp [h.1, hhigh, hchars]

namespace Quotation

def legible (q : Quotation) : Bool := q.close = .closed && paired q.pieces

theorem exists_text {q : Quotation} (h : q.legible = true) : ∃ s, q.text = .ok s := by
  obtain ⟨pieces, close⟩ := q
  simp only [legible, Bool.and_eq_true, decide_eq_true_eq] at h
  obtain ⟨rfl, hpaired⟩ := h
  obtain ⟨chars, hchars⟩ := exists_decode hpaired
  exact ⟨String.ofList chars, by rw [text, hchars, map_ok]⟩

theorem skip_of_legible {q : Quotation} (h : q.legible = true) : q.skip = .ok () := by
  simp only [legible, Bool.and_eq_true, decide_eq_true_eq] at h
  rw [skip, h.1]
  rfl

end Quotation

/-- The reader takes the number: it is not too large for a float. -/
def Numeral.held (n : Numeral) : Bool := n.value?.isSome

theorem Numeral.exists_number {n : Numeral} (h : n.held = true) :
    ∃ number, n.number = .ok number := by
  obtain ⟨number, hnumber⟩ := Option.isSome_iff_exists.mp h
  exact ⟨number, by rw [Numeral.number, hnumber]⟩

namespace Document

mutual

/-- The document is written to the end, each string stands for a text, and the numbers are allowed.
-/
def legible (allowed : Numeral → Bool) : Document → Bool
  | .null => true
  | .boolean _ => true
  | .number n => allowed n
  | .string q => q.legible
  | .array items close => close = .closed && legibleItems allowed items
  | .object members close => close = .closed && legibleMembers allowed members
  | .broken _ => false

def legibleItems (allowed : Numeral → Bool) : List Document → Bool
  | [] => true
  | item :: rest => item.legible allowed && legibleItems allowed rest

def legibleMembers (allowed : Numeral → Bool) : List (Quotation × Document) → Bool
  | [] => true
  | (key, document) :: rest =>
    key.legible && document.legible allowed && legibleMembers allowed rest

end

theorem legible_of_mem {allowed : Numeral → Bool} {members : List (Quotation × Document)}
    (h : legibleMembers allowed members = true) {m : Quotation × Document} (hm : m ∈ members) :
    m.2.legible allowed = true := by
  induction members with
  | nil => exact absurd hm List.not_mem_nil
  | cons member rest ih =>
    rw [legibleMembers, Bool.and_eq_true, Bool.and_eq_true] at h
    rcases List.mem_cons.mp hm with rfl | hm
    · exact h.1.2
    · exact ih h.2 hm

mutual

theorem skip_of_legible {allowed : Numeral → Bool} {d : Document}
    (h : d.legible allowed = true) : d.skip = .ok () := by
  cases d with
  | null => rfl
  | boolean b => rfl
  | number n => rfl
  | string q => exact q.skip_of_legible h
  | array items close =>
    simp only [legible, Bool.and_eq_true, decide_eq_true_eq] at h
    rw [skip, skipItems_of_legible h.2, h.1]
    rfl
  | object members close =>
    simp only [legible, Bool.and_eq_true, decide_eq_true_eq] at h
    rw [skip, skipMembers_of_legible h.2, h.1]
    rfl
  | broken flaw => cases h

theorem skipItems_of_legible {allowed : Numeral → Bool} {items : List Document}
    (h : legibleItems allowed items = true) : skipItems items = .ok () := by
  cases items with
  | nil => rfl
  | cons item rest =>
    rw [legibleItems, Bool.and_eq_true] at h
    rw [skipItems, skip_of_legible h.1, skipItems_of_legible h.2]
    rfl

theorem skipMembers_of_legible {allowed : Numeral → Bool} {members : List (Quotation × Document)}
    (h : legibleMembers allowed members = true) : skipMembers members = .ok () := by
  cases members with
  | nil => rfl
  | cons member rest =>
    obtain ⟨key, d⟩ := member
    rw [legibleMembers, Bool.and_eq_true, Bool.and_eq_true] at h
    rw [skipMembers, key.skip_of_legible h.1.1, skip_of_legible h.1.2,
      skipMembers_of_legible h.2]
    rfl

end

mutual

theorem exists_value {levels : Nat} {d : Document} (h : d.legible Numeral.held = true)
    (hdepth : d.depth < levels) : ∃ v, d.value levels = .ok v := by
  cases d with
  | null => exact ⟨.null, rfl⟩
  | boolean b => exact ⟨.boolean b, rfl⟩
  | number n =>
    obtain ⟨number, hnumber⟩ := n.exists_number h
    exact ⟨.number number, by rw [value, hnumber, map_ok]⟩
  | string q =>
    obtain ⟨s, hs⟩ := q.exists_text h
    exact ⟨.string s, by rw [value, hs, map_ok]⟩
  | array items close =>
    rw [depth] at hdepth
    simp only [legible, Bool.and_eq_true, decide_eq_true_eq] at h
    obtain ⟨values, hvalues⟩ :=
      exists_values h.2 (show itemsDepth items < levels - 1 by omega)
    refine ⟨.array values, ?_⟩
    rw [value, descend_eq (by omega), ok_bind, hvalues, h.1]
    rfl
  | object members close =>
    rw [depth] at hdepth
    simp only [legible, Bool.and_eq_true, decide_eq_true_eq] at h
    obtain ⟨values, hvalues⟩ :=
      exists_memberValues h.2 (show membersDepth members < levels - 1 by omega)
    refine ⟨.object values, ?_⟩
    rw [value, descend_eq (by omega), ok_bind, hvalues, h.1]
    rfl
  | broken flaw => cases h

theorem exists_values {levels : Nat} {items : List Document}
    (h : legibleItems Numeral.held items = true) (hdepth : itemsDepth items < levels) :
    ∃ values, Document.values levels items = .ok values := by
  cases items with
  | nil => exact ⟨[], rfl⟩
  | cons item rest =>
    rw [itemsDepth] at hdepth
    rw [legibleItems, Bool.and_eq_true] at h
    obtain ⟨hitem, hrest⟩ := Nat.max_lt.mp hdepth
    obtain ⟨v, hv⟩ := exists_value h.1 hitem
    obtain ⟨values, hvalues⟩ := exists_values h.2 hrest
    exact ⟨v :: values, by rw [Document.values, hv, ok_bind, hvalues, ok_bind]⟩

theorem exists_memberValues {levels : Nat} {members : List (Quotation × Document)}
    (h : legibleMembers Numeral.held members = true) (hdepth : membersDepth members < levels) :
    ∃ values, memberValues levels members = .ok values := by
  cases members with
  | nil => exact ⟨[], rfl⟩
  | cons member rest =>
    obtain ⟨key, d⟩ := member
    rw [membersDepth] at hdepth
    rw [legibleMembers, Bool.and_eq_true, Bool.and_eq_true] at h
    obtain ⟨hd, hrest⟩ := Nat.max_lt.mp hdepth
    obtain ⟨s, hs⟩ := key.exists_text h.1.1
    obtain ⟨v, hv⟩ := exists_value h.1.2 hd
    obtain ⟨values, hvalues⟩ := exists_memberValues h.2 hrest
    exact ⟨(s, v) :: values,
      by rw [memberValues, hs, ok_bind, hv, ok_bind, hvalues, ok_bind]⟩

end

end Document

end SolrClause.Json
