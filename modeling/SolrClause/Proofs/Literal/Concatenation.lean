import Mathlib.Algebra.Ring.Parity
import Mathlib.Data.List.DropRight
import SolrClause.Proofs.Literal.Normal

/-! Escaping two texts that are joined. The scan of the first is not changed by what comes after it,
unless its last character waits for its double and the second text starts with that. A character
waits exactly at the end of a run of odd length, so escaping can be done in parts exactly where no
pair is split. -/

namespace SolrClause.Literal

/-- The scan of the text ends in a bare character. One that is reserved when doubled makes a token
with the character after it, if that is the same. -/
def Pending (c : Char) (text : List Char) : Prop := (scan text).getLast? = some (.plain c)

/-- How many times in a row a character stands at the end of a text. -/
def endRun (c : Char) (text : List Char) : Nat := (text.rtakeWhile (· = c)).length

variable {c d : Char} {front text rest : List Char} {pieces next : List Piece}

/-! ### Scanning joined texts -/

theorem Normal.append (h : Normal pieces) (hnext : Normal next)
    (hjoin : ∀ p ∈ pieces.getLast?, ∀ q ∈ next.head?, p.Precedes q) : Normal (pieces ++ next) := by
  refine ⟨fun p hp => ?_, h.chain.append hnext.chain hjoin⟩
  exact (List.mem_append.mp hp).elim (h.legal p) (hnext.legal p)

theorem Normal.left_of_append (h : Normal (pieces ++ next)) : Normal pieces :=
  ⟨fun p hp => h.legal p (List.mem_append_left next hp), h.chain.left_of_append⟩

/-- The scan of a text goes on into the text after it as if that stood alone, unless a pair is split
between the two. -/
theorem scan_append (h : ∀ c ∈ pairedChars, Pending c text → rest.head? ≠ some c) :
    scan (text ++ rest) = scan text ++ scan rest := by
  have hnormal : Normal (scan text ++ scan rest) := by
    refine (normal_scan text).append (normal_scan rest) fun piece hpiece => ?_
    cases piece with
    | token chars => exact fun _ _ => trivial
    | plain c => exact precedes_head?_scan fun hc => h c hc hpiece
  have hsource : (scan text ++ scan rest).flatMap Piece.source = text ++ rest := by
    rw [List.flatMap_append, flatMap_source_scan, flatMap_source_scan]
  rw [← hsource, scan_flatMap_source hnormal]

/-- The last character of a text, if it waits for its double. -/
theorem exists_front_of_pending (h : Pending c text) :
    ∃ front, text = front ++ [c] ∧ scan text = scan front ++ [.plain c] := by
  obtain ⟨pieces, hpieces⟩ := List.getLast?_eq_some_iff.mp h
  have hnormal : Normal (pieces ++ [.plain c]) := hpieces ▸ normal_scan text
  refine ⟨pieces.flatMap Piece.source, ?_, ?_⟩
  · rw [← flatMap_source_scan text, hpieces, List.flatMap_append]
    rfl
  · rw [hpieces, scan_flatMap_source hnormal.left_of_append]

/-- The double of a character that waits makes one token with it. -/
theorem scan_pending (hc : c ∈ pairedChars) (h : scan (front ++ [c]) = scan front ++ [.plain c])
    (rest : List Char) :
    scan (front ++ c :: c :: rest) = scan front ++ .token [c, c] :: scan rest := by
  have hnormal : Normal (scan front ++ [.plain c]) := h ▸ normal_scan (front ++ [c])
  rw [scan_append, scan_pair hc]
  rintro d - hpending hhead
  -- a character that waits before this one would have made a token with it
  obtain rfl : c = d := Option.some_inj.mp hhead
  have hprecedes := (List.isChain_append.mp hnormal.chain).2.2 _ hpending _ rfl
  exact (hprecedes hc).1 rfl

/-! ### Runs at the end of a text -/

/-- A character added to a text waits for its double, unless it is the double of one that waits. -/
theorem pending_concat (hc : c ∈ pairedChars) :
    Pending c (text ++ [d]) ↔ d = c ∧ ¬Pending c text := by
  constructor
  · intro h
    obtain ⟨front, htext, -⟩ := exists_front_of_pending h
    obtain ⟨rfl, hdc⟩ := List.append_inj' htext rfl
    obtain rfl : d = c := List.singleton_inj.mp hdc
    refine ⟨rfl, fun hpending => ?_⟩
    obtain ⟨front, rfl, hfront⟩ := exists_front_of_pending hpending
    have hpair : scan (front ++ [d] ++ [d]) = scan front ++ [.token [d, d]] := by
      rw [List.append_assoc, List.singleton_append, scan_pending hc hfront, scan_nil]
    rw [Pending, hpair, List.getLast?_concat] at h
    cases h
  · rintro ⟨rfl, hpending⟩
    have hjoin : ∀ e ∈ pairedChars, Pending e text → [d].head? ≠ some e := by
      rintro e - he hhead
      obtain rfl : d = e := Option.some_inj.mp hhead
      exact hpending he
    have hplain : scan [d] = [.plain d] := by
      rw [scan_plain (not_reserved_of_paired hc) fun _ => by simp, scan_nil]
    rw [Pending, scan_append hjoin, hplain, List.getLast?_concat]

theorem endRun_concat : endRun c (text ++ [d]) = if d = c then endRun c text + 1 else 0 := by
  rw [endRun, List.rtakeWhile_concat]
  split <;> simp_all [endRun]

/-- A character waits for its double exactly at the end of a run of odd length. -/
theorem pending_iff_odd (hc : c ∈ pairedChars) : Pending c text ↔ Odd (endRun c text) := by
  induction text using List.reverseRecOn with
  | nil => simp [Pending, endRun]
  | append_singleton text d ih =>
    rw [pending_concat hc, ih, endRun_concat]
    by_cases hd : d = c
    · rw [if_pos hd, Nat.odd_add_one, and_iff_right hd]
    · simp [hd]

/-! ### Escaping joined texts -/

theorem escapeChars_append (h : ∀ c ∈ pairedChars, Pending c text → rest.head? ≠ some c) :
    escapeChars (text ++ rest) = escapeChars text ++ escapeChars rest := by
  simp only [escapeChars_eq_scan, scan_append h, List.flatMap_append]

/-- A pair that is split is escaped if the parts are joined first, and left bare otherwise. -/
theorem escapeChars_append_ne (hc : c ∈ pairedChars) (h : Pending c text) (rest : List Char) :
    escapeChars (text ++ c :: rest) ≠ escapeChars text ++ escapeChars (c :: rest) := by
  obtain ⟨front, rfl, hfront⟩ := exists_front_of_pending h
  have hjoined : escapeChars (front ++ [c] ++ c :: rest) =
      escapeChars front ++ '\\' :: c :: '\\' :: c :: escapeChars rest := by
    rw [List.append_assoc, List.singleton_append, escapeChars_eq_scan, scan_pending hc hfront,
      List.flatMap_append, ← escapeChars_eq_scan, List.flatMap_cons, ← escapeChars_eq_scan]
    rfl
  have hparts : escapeChars (front ++ [c]) = escapeChars front ++ [c] := by
    rw [escapeChars_eq_scan, hfront, List.flatMap_append, ← escapeChars_eq_scan]
    rfl
  rw [hjoined, hparts, List.append_assoc]
  intro heq
  have hback := (List.cons_eq_cons.mp (List.append_cancel_left heq)).1
  exact ne_backslash_of_not_reserved (not_reserved_of_paired hc) hback.symm

/-- Two texts can be escaped apart and joined afterwards exactly if no pair is split between them:
it is where the first ends in an odd number of a character that is reserved when doubled, and the
second starts with the same character. -/
theorem escape_append_iff (u v : String) :
    escape (u ++ v) = escape u ++ escape v ↔
      ¬∃ c ∈ pairedChars, Odd (endRun c u.toList) ∧ v.toList.head? = some c := by
  rw [← String.toList_inj, String.toList_append, toList_escape, toList_escape, toList_escape,
    String.toList_append]
  constructor
  · rintro heq ⟨c, hc, hodd, hhead⟩
    obtain ⟨rest, hrest⟩ := List.head?_eq_some_iff.mp hhead
    rw [hrest] at heq
    exact escapeChars_append_ne hc ((pending_iff_odd hc).mpr hodd) rest heq
  · intro h
    refine escapeChars_append fun c hc hpending hhead => ?_
    exact h ⟨c, hc, (pending_iff_odd hc).mp hpending, hhead⟩

/-- Runs of the same length on both sides. -/
example : escape ("&&&" ++ "&&&") ≠ escape "&&&" ++ escape "&&&" ∧
    escape ("&&" ++ "&&") = escape "&&" ++ escape "&&" := by
  decide

end SolrClause.Literal
