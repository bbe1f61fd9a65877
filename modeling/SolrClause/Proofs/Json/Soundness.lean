import Mathlib.Data.List.TakeWhile
import SolrClause.Proofs.Json.Reading

/-! What the reader takes from a text is written there. A document that can be skipped has no flaw
in it, and such a document is read only from a text that writes it: numbers and strings first, then
values with what they contain. -/

namespace SolrClause.Json

open SolrClause.Text

/-! ### Numbers -/

namespace Numeral

variable {text rest ds : List Char}

theorem readDigits_sound (h : readDigits text = .ok (ds, rest)) :
    text = ds ++ rest ∧ ds ≠ [] ∧ ∀ c ∈ ds, Text.isDigit c = true := by
  rw [readDigits.eq_def] at h
  split at h
  · cases h
  · rename_i c tail
    split at h
    · rename_i hc
      rw [takeDigits, List.span_eq_takeWhile_dropWhile, Except.ok.injEq, Prod.mk.injEq] at h
      obtain ⟨rfl, rfl⟩ := h
      refine ⟨List.takeWhile_append_dropWhile.symm, ?_, fun d hd => List.mem_takeWhile_imp hd⟩
      rw [List.takeWhile_cons_of_pos hc]
      exact List.cons_ne_nil _ _
    · cases h

theorem readWhole_sound (h : readWhole text = .ok (ds, rest)) :
    text = ds ++ rest ∧ Whole ds := by
  rw [readWhole.eq_def] at h
  split at h
  · rename_i tail
    have hzero : Whole ['0'] := ⟨by decide, List.all_eq_true.mp rfl, fun _ => rfl⟩
    split at h
    · split at h
      · cases h
      · cases h
        exact ⟨rfl, hzero⟩
    · cases h
      exact ⟨rfl, hzero⟩
  · rename_i hfirst
    obtain ⟨rfl, hne, hdigits⟩ := readDigits_sound h
    refine ⟨rfl, hne, hdigits, fun hhead => ?_⟩
    cases ds with
    | nil => cases hhead
    | cons d ds =>
      cases hhead
      exact absurd rfl (hfirst _)

theorem readFraction_sound (h : readFraction text = .ok (ds, rest)) :
    text = fractionChars ds ++ rest ∧ ∀ c ∈ ds, Text.isDigit c = true := by
  rw [readFraction.eq_def] at h
  split at h
  · obtain ⟨rfl, hne, hdigits⟩ := readDigits_sound h
    obtain ⟨d, tail, rfl⟩ := List.exists_cons_of_ne_nil hne
    exact ⟨rfl, hdigits⟩
  · cases h
    exact ⟨rfl, nofun⟩

theorem takeSign_sound (text : List Char) :
    ∃ sign, text = sign ++ (takeSign text).2 ∧ WritesSign sign (takeSign text).1 := by
  rw [takeSign.eq_def]
  split
  · exact ⟨_, rfl, .minus⟩
  · exact ⟨_, rfl, .plus⟩
  · exact ⟨_, rfl, .bare⟩

theorem readExponent_sound {e : Option Exponent} (h : readExponent text = .ok (e, rest)) :
    ∃ power, text = power ++ rest ∧ WritesExponent power e := by
  rw [readExponent.eq_def] at h
  split at h
  · rename_i mark tail
    split at h
    · rename_i hmark
      obtain ⟨sign, hsign, hwrites⟩ := takeSign_sound tail
      generalize takeSign tail = taken at h hsign hwrites
      obtain ⟨⟨ds, after⟩, hdigits, h⟩ := bind_eq_ok.mp h
      cases h
      obtain ⟨htext, hne, hds⟩ := readDigits_sound hdigits
      refine ⟨mark :: (sign ++ ds), ?_, .some hmark hwrites hne hds⟩
      rw [hsign, htext, List.cons_append, List.append_assoc]
    · cases h
      exact ⟨[], rfl, .none⟩
  · cases h
    exact ⟨[], rfl, .none⟩

/-- A numeral that is read stands at the front of the text. -/
theorem read_sound {n : Numeral} (h : read text = .ok (n, rest)) :
    ∃ w, text = w ++ rest ∧ n.Writes w := by
  rw [read.eq_def] at h
  split at h
  rename_i negative after hminus
  have htext : text = (if negative then ['-'] else []) ++ after := by
    split at hminus <;> cases hminus <;> rfl
  obtain ⟨⟨whole, more⟩, hwhole, h⟩ := bind_eq_ok.mp h
  obtain ⟨⟨fraction, more'⟩, hfraction, h⟩ := bind_eq_ok.mp h
  obtain ⟨⟨exponent, more''⟩, hexponent, h⟩ := bind_eq_ok.mp h
  cases h
  obtain ⟨rfl, hwrites⟩ := readWhole_sound hwhole
  obtain ⟨rfl, hdigits⟩ := readFraction_sound hfraction
  obtain ⟨power, rfl, hpower⟩ := readExponent_sound hexponent
  refine ⟨_, ?_, .mk hwrites hdigits hpower⟩
  simp only [htext, List.append_assoc]

end Numeral

/-! ### Strings -/

theorem QuotationEnd.fault?_eq_none {close : QuotationEnd} :
    close.fault? = none ↔ close = .closed := by
  cases close <;> simp [fault?]

namespace Quotation

theorem skip_eq_ok {q : Quotation} : q.skip = .ok () ↔ q.close = .closed := by
  rw [← QuotationEnd.fault?_eq_none, skip]
  cases q.close.fault? <;> simp

/-- A piece in front of a quotation that stands at the front of a text. -/
theorem exists_writes_cons {front text : List Char} {piece : Piece}
    (hpiece : piece.Writes front)
    (h : ∃ w, text = w ++ (read text).2 ∧ (read text).1.Writes w) :
    ∃ w, front ++ text = w ++ (cons piece (read text)).2 ∧
      (cons piece (read text)).1.Writes w := by
  obtain ⟨w, htext, hw⟩ := h
  refine ⟨front ++ w, ?_, .next hpiece hw⟩
  rw [List.append_assoc]
  exact congrArg (front ++ ·) htext

/-- A quotation that is closed stands at the front of the text. -/
theorem read_sound {text : List Char} (h : (read text).1.close = .closed) :
    ∃ w, text = w ++ (read text).2 ∧ (read text).1.Writes w := by
  fun_induction read text with
  | case1 => cases h
  | case2 rest => exact ⟨['\"'], rfl, .close⟩
  | case3 => cases h
  | case4 a b c d after unit hunit hback ih => exact exists_writes_cons (.unit hunit) (ih h)
  | case5 => cases h
  | case6 short hshort hback =>
    dsimp only at h
    split at h <;> cases h
  | case7 e more hunit c hescape hback ih =>
    exact exists_writes_cons (.escaped hunit hescape) (ih h)
  | case8 => cases h
  | case9 => cases h
  | case10 c rest hquote hback hprints ih =>
    exact exists_writes_cons (.plain hquote hback (Nat.not_lt.mp hprints)) (ih h)

end Quotation

/-! ### Values -/

theorem ArrayEnd.checkSkipped_eq_ok {close : ArrayEnd} :
    close.checkSkipped = .ok () ↔ close = .closed := by
  cases close <;> simp [checkSkipped, check]

theorem ObjectEnd.checkSkipped_eq_ok {close : ObjectEnd} :
    close.checkSkipped = .ok () ↔ close = .closed := by
  cases close <;> simp [checkSkipped, check]

namespace Document

theorem exists_blanks (text : List Char) : ∃ gap, Blanks gap ∧ text = gap ++ skipSpaces text :=
  ⟨text.takeWhile isSpace, fun _ hc => List.mem_takeWhile_imp hc,
    List.takeWhile_append_dropWhile.symm⟩

section Skip

variable {items : List Document} {item : Document} {key : Quotation}
  {members : List (Quotation × Document)} {close : ArrayEnd} {ending : ObjectEnd}

theorem skip_array_eq_ok :
    (array items close).skip = .ok () ↔ skipItems items = .ok () ∧ close = .closed := by
  rw [skip, check_bind_eq_ok, ArrayEnd.checkSkipped_eq_ok]

theorem skip_object_eq_ok :
    (object members ending).skip = .ok () ↔ skipMembers members = .ok () ∧ ending = .closed := by
  rw [skip, check_bind_eq_ok, ObjectEnd.checkSkipped_eq_ok]

theorem skipItems_cons_eq_ok :
    skipItems (item :: items) = .ok () ↔ item.skip = .ok () ∧ skipItems items = .ok () := by
  rw [skipItems, check_bind_eq_ok]

theorem skipMembers_cons_eq_ok :
    skipMembers ((key, item) :: members) = .ok () ↔
      key.close = .closed ∧ item.skip = .ok () ∧ skipMembers members = .ok () := by
  rw [skipMembers, check_bind_eq_ok, check_bind_eq_ok, Quotation.skip_eq_ok]

end Skip

theorem readWord_sound {value d : Document} {word text rest : List Char}
    (h : readWord value word text = (d, rest)) (hskip : d.skip = .ok ()) :
    d = value ∧ text = word ++ rest := by
  fun_induction readWord value word text with
  | case1 text =>
    cases h
    exact ⟨rfl, rfl⟩
  | case2 =>
    cases h
    cases hskip
  | case3 word c text ih =>
    obtain ⟨hvalue, htext⟩ := ih h
    exact ⟨hvalue, congrArg (c :: ·) htext⟩
  | case4 =>
    cases h
    cases hskip

theorem readNumeral_sound {text rest : List Char} {d : Document}
    (h : readNumeral text = (d, rest)) (hskip : d.skip = .ok ()) :
    ∃ w, Writes w d ∧ text = w ++ rest := by
  rw [readNumeral.eq_def] at h
  split at h
  · rename_i numeral rest hread
    cases h
    obtain ⟨w, htext, hw⟩ := Numeral.read_sound hread
    exact ⟨w, .number hw, htext⟩
  · cases h
    cases hskip
  · cases h
    cases hskip

theorem Blanks.append {gap gap' : List Char} (h : Blanks gap) (h' : Blanks gap') :
    Blanks (gap ++ gap') :=
  List.forall_mem_append.mpr ⟨h, h'⟩

-- The induction is on the fuel, which goes down in every step of the four readers.
mutual

/-- A value that can be skipped stands at the front of the text, after blanks. -/
theorem readValue_sound {fuel : Nat} {text rest : List Char} {d : Document}
    (h : readValue fuel text = (d, rest)) (hskip : d.skip = .ok ()) :
    ∃ gap w, Blanks gap ∧ Writes w d ∧ text = gap ++ (w ++ rest) := by
  cases fuel with
  | zero =>
    cases h
    cases hskip
  | succ fuel =>
    obtain ⟨gap, hgap, htext⟩ := exists_blanks text
    rw [readValue] at h
    split at h
    · cases h
      cases hskip
    · rename_i c tail hspaces
      rw [hspaces] at htext
      suffices ∃ w, Writes w d ∧ c :: tail = w ++ rest by
        obtain ⟨w, hw, hc⟩ := this
        exact ⟨gap, w, hgap, hw, htext.trans (congrArg (gap ++ ·) hc)⟩
      split_ifs at h with hquote hbracket hbrace hnumeral hn ht hf
      · cases h
        obtain ⟨w, hread, hw⟩ := Quotation.read_sound (Quotation.skip_eq_ok.mp hskip)
        exact ⟨c :: w, hquote ▸ .string hw, congrArg (c :: ·) hread⟩
      · generalize hread : readItems fuel true tail = read at h
        cases h
        obtain ⟨hitems, hclose⟩ := skip_array_eq_ok.mp hskip
        obtain ⟨w, hw, htail⟩ := readItems_sound hread hitems hclose
        rw [hclose]
        exact ⟨c :: w, hbracket ▸ .array hw, congrArg (c :: ·) htail⟩
      · generalize hread : readMembers fuel true tail = read at h
        cases h
        obtain ⟨hmembers, hclose⟩ := skip_object_eq_ok.mp hskip
        obtain ⟨w, hw, htail⟩ := readMembers_sound hread hmembers hclose
        rw [hclose]
        exact ⟨c :: w, hbrace ▸ .object hw, congrArg (c :: ·) htail⟩
      · exact readNumeral_sound h hskip
      · obtain ⟨rfl, htail⟩ := readWord_sound h hskip
        exact ⟨['n', 'u', 'l', 'l'], .null, hn ▸ congrArg (c :: ·) htail⟩
      · obtain ⟨rfl, htail⟩ := readWord_sound h hskip
        exact ⟨wordChars true, .boolean true, ht ▸ congrArg (c :: ·) htail⟩
      · obtain ⟨rfl, htail⟩ := readWord_sound h hskip
        exact ⟨wordChars false, .boolean false, hf ▸ congrArg (c :: ·) htail⟩
      · cases h
        cases hskip

theorem readItems_sound {fuel : Nat} {isFirst : Bool} {text rest : List Char}
    {items : List Document} {close : ArrayEnd}
    (h : readItems fuel isFirst text = (items, close, rest)) (hskip : skipItems items = .ok ())
    (hclose : close = .closed) : ∃ w, WritesItems isFirst w items ∧ text = w ++ rest := by
  cases fuel with
  | zero =>
    cases h
    cases hclose
  | succ fuel =>
    obtain ⟨gap, hgap, htext⟩ := exists_blanks text
    rw [readItems] at h
    split at h
    · cases h
      cases hclose
    · rename_i c tail hspaces
      rw [hspaces] at htext
      split_ifs at h with hbracket hfirst hcomma
      · cases h
        exact ⟨gap ++ [c], hbracket ▸ .close hgap, by rw [htext, List.append_assoc]; rfl⟩
      · generalize hvalue : readValue fuel (c :: tail) = value at h
        obtain ⟨item, after⟩ := value
        dsimp only at h
        generalize hnext : readItems fuel false after = next at h
        cases h
        obtain ⟨hitem, hitems⟩ := skipItems_cons_eq_ok.mp hskip
        obtain ⟨gap', w, hgap', hw, htail⟩ := readValue_sound hvalue hitem
        obtain ⟨more, hmore, hafter⟩ := readItems_sound hnext hitems hclose
        subst hfirst
        refine ⟨_, .first (hgap.append hgap') hw hmore, ?_⟩
        rw [htext, htail, hafter]
        simp only [List.append_assoc]
      · obtain ⟨gap', hgap', htail⟩ := exists_blanks tail
        split at h
        · cases h
          cases hclose
        · rename_i d front hspaces'
          rw [hspaces'] at htail
          split_ifs at h
          · cases h
            cases hclose
          · generalize hvalue : readValue fuel (d :: front) = value at h
            obtain ⟨item, after⟩ := value
            dsimp only at h
            generalize hnext : readItems fuel false after = next at h
            cases h
            obtain ⟨hitem, hitems⟩ := skipItems_cons_eq_ok.mp hskip
            obtain ⟨gap'', w, hgap'', hw, hfront⟩ := readValue_sound hvalue hitem
            obtain ⟨more, hmore, hafter⟩ := readItems_sound hnext hitems hclose
            obtain rfl : isFirst = false := Bool.eq_false_iff.mpr hfirst
            refine ⟨_, .next hgap (hgap'.append hgap'') hw hmore, ?_⟩
            rw [htext, hcomma, htail, hfront, hafter]
            simp only [List.append_assoc, List.cons_append]
      · cases h
        cases hclose

theorem readMembers_sound {fuel : Nat} {isFirst : Bool} {text rest : List Char}
    {members : List (Quotation × Document)} {close : ObjectEnd}
    (h : readMembers fuel isFirst text = (members, close, rest))
    (hskip : skipMembers members = .ok ()) (hclose : close = .closed) :
    ∃ w, WritesMembers isFirst w members ∧ text = w ++ rest := by
  cases fuel with
  | zero =>
    cases h
    cases hclose
  | succ fuel =>
    obtain ⟨gap, hgap, htext⟩ := exists_blanks text
    rw [readMembers] at h
    split at h
    · cases h
      cases hclose
    · rename_i c tail hspaces
      rw [hspaces] at htext
      split_ifs at h with hbrace hfirst hquote hcomma
      · cases h
        exact ⟨gap ++ [c], hbrace ▸ .close hgap, by rw [htext, List.append_assoc]; rfl⟩
      · obtain ⟨w, hw, htail⟩ := readMember_sound h hskip hclose
        subst hfirst
        refine ⟨_, .first hgap hw, ?_⟩
        rw [htext, hquote, htail, List.append_assoc, List.cons_append]
      · cases h
        cases hclose
      · obtain ⟨gap', hgap', htail⟩ := exists_blanks tail
        split at h
        · cases h
          cases hclose
        · rename_i d front hspaces'
          rw [hspaces'] at htail
          split_ifs at h with hquote hbrace'
          · obtain ⟨w, hw, hfront⟩ := readMember_sound h hskip hclose
            obtain rfl : isFirst = false := Bool.eq_false_iff.mpr hfirst
            refine ⟨_, .next hgap hgap' hw, ?_⟩
            rw [htext, hcomma, htail, hquote, hfront]
            simp only [List.append_assoc, List.cons_append]
          · cases h
            cases hclose
          · cases h
            cases hclose
      · cases h
        cases hclose

theorem readMember_sound {fuel : Nat} {text rest : List Char}
    {members : List (Quotation × Document)} {close : ObjectEnd}
    (h : readMember fuel text = (members, close, rest)) (hskip : skipMembers members = .ok ())
    (hclose : close = .closed) :
    ∃ w, WritesMember ('\"' :: w) members ∧ text = w ++ rest := by
  cases fuel with
  | zero =>
    cases h
    cases hclose
  | succ fuel =>
    have hsound := @Quotation.read_sound text
    rw [readMember] at h
    generalize Quotation.read text = quotation at h hsound
    obtain ⟨key, after⟩ := quotation
    obtain ⟨gap, hgap, hafter⟩ := exists_blanks after
    dsimp only at h
    cases hspaces : skipSpaces after with
    | nil =>
      rw [hspaces] at h
      cases h
      cases (skipMembers_cons_eq_ok.mp hskip).2.1
    | cons c tail =>
      rw [hspaces] at h hafter
      dsimp only at h
      split_ifs at h with hcolon
      · generalize hvalue : readValue fuel tail = value at h
        obtain ⟨value, after'⟩ := value
        dsimp only at h
        generalize hnext : readMembers fuel false after' = next at h
        cases h
        obtain ⟨hkey, hitem, hmembers⟩ := skipMembers_cons_eq_ok.mp hskip
        obtain ⟨name, htext, hname⟩ := hsound hkey
        obtain ⟨gap', w, hgap', hw, htail⟩ := readValue_sound hvalue hitem
        obtain ⟨more, hmore, hrest⟩ := readMembers_sound hnext hmembers hclose
        refine ⟨_, .mk hname hgap hgap' hw hmore, ?_⟩
        rw [htext, hafter, hcolon, htail, hrest]
        simp only [List.append_assoc, List.cons_append]
      · cases h
        cases (skipMembers_cons_eq_ok.mp hskip).2.1

end

/-- The value of a text that has nothing wrong in it stands there, after blanks. -/
theorem read_sound {text rest : List Char} {d : Document} (h : read text = (d, rest))
    (hskip : d.skip = .ok ()) : ∃ gap w, Blanks gap ∧ Writes w d ∧ text = gap ++ (w ++ rest) :=
  readValue_sound h hskip

end Document

end SolrClause.Json
