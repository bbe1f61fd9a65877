import SolrClause.Proofs.Json.Soundness

/-! What is read has been checked. A reader that gives a result has gone through the whole document,
so nothing is wrong in it that skipping it would have found. -/

namespace SolrClause.Json

/-- The reader refuses every document that has something wrong in it. -/
def Strict {α : Type} (read : Document → Except Fault α) : Prop :=
  ∀ d a, read d = .ok a → d.skip = .ok ()

theorem Strict.map {α β : Type} {read : Document → Except Fault α} (h : Strict read) (f : α → β) :
    Strict fun d => (read d).map f := by
  intro d b hread
  obtain ⟨a, ha, -⟩ := map_eq_ok.mp hread
  exact h d a ha

/-! ### Strings and values -/

theorem closed_of_decode {close : QuotationEnd} {pieces : List Piece} {chars : List Char}
    (h : decode close pieces = .ok chars) : close = .closed := by
  fun_induction decode close pieces generalizing chars with
  | case1 hnone => exact QuotationEnd.fault?_eq_none.mp hnone
  | case2 => cases h
  | case3 c rest ih | case4 c rest ih | case6 _ _ _ _ rest _ ih | case10 _ rest _ _ ih =>
    obtain ⟨chars, hchars, -⟩ := map_eq_ok.mp h
    exact ih hchars
  | case5 | case7 | case8 | case9 => cases h

theorem Quotation.closed_of_text {q : Quotation} {s : String} (h : q.text = .ok s) :
    q.close = .closed := by
  obtain ⟨chars, hchars, -⟩ := map_eq_ok.mp h
  exact closed_of_decode hchars

namespace Document

theorem strict_readString : Strict readString := by
  intro d s h
  cases d with
  | string q => exact Quotation.skip_eq_ok.mpr (Quotation.closed_of_text h)
  | _ => exact absurd h nofun

theorem strict_readBoolean : Strict readBoolean := by
  intro d b h
  cases d with
  | boolean b' => rfl
  | _ => cases h

mutual

theorem strict_value (levels : Nat) : (d : Document) → (v : Value) → d.value levels = .ok v →
    d.skip = .ok ()
  | .null, _, _ => rfl
  | .boolean _, _, _ => rfl
  | .number _, _, _ => rfl
  | .string q, v, h => by
    obtain ⟨s, hs, -⟩ := map_eq_ok.mp h
    exact Quotation.skip_eq_ok.mpr (Quotation.closed_of_text hs)
  | .array items close, v, h => by
    obtain ⟨-, hclose, vs, hvs, -⟩ := value_array_eq_ok.mp h
    exact skip_array_eq_ok.mpr ⟨skipItems_of_values items vs hvs, hclose⟩
  | .object members close, v, h => by
    obtain ⟨-, hclose, vs, hvs, -⟩ := value_object_eq_ok.mp h
    exact skip_object_eq_ok.mpr ⟨skipMembers_of_memberValues members vs hvs, hclose⟩
  | .broken _, _, h => nomatch h

theorem skipItems_of_values {levels : Nat} : (items : List Document) → (vs : List Value) →
    Document.values levels items = .ok vs → skipItems items = .ok ()
  | [], _, _ => rfl
  | item :: rest, _, h => by
    obtain ⟨first, hfirst, h⟩ := bind_eq_ok.mp h
    obtain ⟨others, hothers, -⟩ := bind_eq_ok.mp h
    exact skipItems_cons_eq_ok.mpr
      ⟨strict_value levels item first hfirst, skipItems_of_values rest others hothers⟩

theorem skipMembers_of_memberValues {levels : Nat} : (members : List (Quotation × Document)) →
    (vs : List (String × Value)) → Document.memberValues levels members = .ok vs →
      skipMembers members = .ok ()
  | [], _, _ => rfl
  | (key, d) :: rest, _, h => by
    obtain ⟨name, hname, h⟩ := bind_eq_ok.mp h
    obtain ⟨first, hfirst, h⟩ := bind_eq_ok.mp h
    obtain ⟨others, hothers, -⟩ := bind_eq_ok.mp h
    exact skipMembers_cons_eq_ok.mpr ⟨Quotation.closed_of_text hname,
      strict_value levels d first hfirst, skipMembers_of_memberValues rest others hothers⟩

end

theorem strict_readOptional {α : Type} {reading : Reading α} {levels : Nat}
    (h : Strict (reading levels)) : Strict (readOptional reading levels) := by
  intro d a hread
  cases d with
  | null => rfl
  | _ => exact h.map some _ a hread

theorem skipItems_of_mapM {α : Type} {read : Document → Except Fault α} (h : Strict read)
    {items : List Document} {values : List α} (hread : items.mapM read = .ok values) :
    skipItems items = .ok () := by
  have hvalues := mapM_eq_ok_iff.mp hread
  clear hread
  induction hvalues with
  | nil => rfl
  | cons hfirst hrest ih => exact skipItems_cons_eq_ok.mpr ⟨h _ _ hfirst, ih⟩

theorem strict_readList {α : Type} {reading : Reading α} (h : ∀ levels, Strict (reading levels))
    (levels : Nat) : Strict (readList reading levels) := by
  intro d values hread
  cases d with
  | array items close =>
    obtain ⟨inner, -, hread⟩ := bind_eq_ok.mp hread
    obtain ⟨read, hitems, hread⟩ := bind_eq_ok.mp hread
    obtain ⟨hclose, -⟩ := check_bind_eq_ok.mp hread
    exact skip_array_eq_ok.mpr
      ⟨skipItems_of_mapM (h inner) hitems, ArrayEnd.check_eq_ok.mp hclose⟩
  | _ => exact absurd hread nofun

theorem closed_of_checkChoiceEnd {members : List (Quotation × Document)} {close : ObjectEnd}
    (h : checkChoiceEnd members close = .ok ()) : members = [] ∧ close = .closed := by
  cases members <;> cases close <;> simp_all [checkChoiceEnd]

theorem strict_readName {α : Type} (choose : String → Option α) (names : List String) :
    Strict (readName choose names) := by
  intro d choice h
  cases d with
  | string q =>
    obtain ⟨name, hname, -⟩ := bind_eq_ok.mp h
    exact Quotation.skip_eq_ok.mpr (Quotation.closed_of_text hname)
  | _ => exact absurd h nofun

theorem strict_readChoice {α : Type} (choose : String → Option α) (names : List String)
    (levels : Nat) : Strict (readChoice choose names levels) := by
  intro d choice h
  cases d with
  | string q => exact strict_readName choose names _ choice h
  | object members close =>
    obtain ⟨inner, -, h⟩ := bind_eq_ok.mp h
    match members, h with
    | [], h => cases h
    | (key, d) :: rest, h =>
      obtain ⟨name, hname, h⟩ := bind_eq_ok.mp h
      obtain ⟨picked, -, h⟩ := bind_eq_ok.mp h
      cases d with
      | null =>
        obtain ⟨hend, -⟩ := check_bind_eq_ok.mp h
        obtain ⟨rfl, rfl⟩ := closed_of_checkChoiceEnd hend
        exact skip_object_eq_ok.mpr
          ⟨skipMembers_cons_eq_ok.mpr ⟨Quotation.closed_of_text hname, rfl, rfl⟩, rfl⟩
      | _ => cases h
  | broken flaw => cases flaw <;> cases h
  | _ => cases h

end Document

/-! ### Records -/

namespace Elements

variable {α : Type} {read : Document → Except Fault α} {elements rest : Elements}

/-- Nothing is wrong in what is left of the array. -/
def Skips (elements : Elements) : Prop :=
  Document.skipItems elements.items = .ok () ∧ elements.close = .closed

theorem skips_of_finish (h : elements.finish = .ok ()) : elements.Skips := by
  obtain rfl := finish_eq_ok.mp h
  exact ⟨rfl, rfl⟩

theorem Skips.of_take {value : Option α} (hrest : rest.Skips) (hread : Strict read)
    (h : elements.take read = .ok (value, rest)) : elements.Skips := by
  obtain ⟨items, close⟩ := elements
  cases items with
  | nil =>
    obtain ⟨-, -, h⟩ := bind_eq_ok.mp h
    cases h
    exact hrest
  | cons item items =>
    obtain ⟨v, hv, h⟩ := bind_eq_ok.mp h
    cases h
    exact ⟨Document.skipItems_cons_eq_ok.mpr ⟨hread item v hv, hrest.1⟩, hrest.2⟩

theorem Skips.of_require {length : Nat} {expected : String} {value : α} (hrest : rest.Skips)
    (hread : Strict read) (h : elements.require length expected read = .ok (value, rest)) :
    elements.Skips := by
  obtain ⟨⟨taken, left⟩, htake, h⟩ := bind_eq_ok.mp h
  cases taken with
  | none => cases h
  | some v =>
    cases h
    exact hrest.of_take hread htake

end Elements

theorem skipMembers_of_foldlM {σ : Type} {takeUp : σ → String → Document → Except Fault σ}
    (h : ∀ state key, Strict (takeUp state key)) {members : List (Quotation × Document)}
    {start state : σ}
    (hread : members.foldlM (fun read (key, document) => do
      takeUp read (← key.text) document) start = .ok state) :
    Document.skipMembers members = .ok () := by
  induction members generalizing start with
  | nil => rfl
  | cons member members ih =>
    obtain ⟨key, d⟩ := member
    rw [List.foldlM_cons] at hread
    obtain ⟨next, hnext, hread⟩ := bind_eq_ok.mp hread
    obtain ⟨name, hname, hnext⟩ := bind_eq_ok.mp hnext
    exact Document.skipMembers_cons_eq_ok.mpr
      ⟨Quotation.closed_of_text hname, h start name d next hnext, ih hread⟩

/-- A record is read strictly if its items and its members are. -/
theorem strict_readRecord {α σ : Type} {name : String}
    {ofElements : Nat → Elements → Except Fault (α × Elements)} {start : σ}
    {takeUp : Nat → σ → String → Document → Except Fault σ} {ofMembers : σ → Except Fault α}
    (helements : ∀ levels elements a rest, ofElements levels elements = .ok (a, rest) →
      rest.Skips → elements.Skips)
    (htakeUp : ∀ levels state key, Strict (takeUp levels state key)) (levels : Nat) :
    Strict (readRecord name ofElements start takeUp ofMembers levels) := by
  intro d a h
  cases d with
  | array items close =>
    obtain ⟨inner, -, h⟩ := bind_eq_ok.mp h
    obtain ⟨⟨record, rest⟩, hrecord, h⟩ := bind_eq_ok.mp h
    obtain ⟨hfinish, -⟩ := check_bind_eq_ok.mp h
    exact Document.skip_array_eq_ok.mpr
      (helements _ _ _ _ hrecord (Elements.skips_of_finish hfinish))
  | object members close =>
    obtain ⟨inner, -, h⟩ := bind_eq_ok.mp h
    obtain ⟨state, hstate, h⟩ := bind_eq_ok.mp h
    obtain ⟨hclose, -⟩ := check_bind_eq_ok.mp h
    exact Document.skip_object_eq_ok.mpr
      ⟨skipMembers_of_foldlM (htakeUp inner) hstate, ObjectEnd.check_eq_ok.mp hclose⟩
  | _ => exact absurd h nofun

/-- A text that is read strictly holds the document that is read from it. -/
theorem exists_holds_of_parse {α : Type} {reading : Reading α} {text : List Char} {a : α}
    (hstrict : ∀ levels, Strict (reading levels)) (h : parse reading text = .ok a) :
    ∃ d, Document.Holds text d ∧ reading levelLimit d = .ok a := by
  obtain ⟨hread, hrest⟩ := parse_eq_ok.mp h
  generalize hdocument : Document.read text = document at hread hrest
  obtain ⟨d, rest⟩ := document
  obtain ⟨gap, w, hgap, hw, rfl⟩ := Document.read_sound hdocument (hstrict _ d a hread)
  obtain ⟨gap', hgap', hblanks⟩ := Document.exists_blanks rest
  rw [hrest, List.append_nil] at hblanks
  subst hblanks
  exact ⟨d, .mk hgap hw hgap', hread⟩

end SolrClause.Json
