import Mathlib.Data.List.Forall2
import SolrClause.Json.Reading
import SolrClause.Proofs.Json.Value

/-! What the readers make of the documents of values: the leaves give their values back, and a list
gives its items back if each item is given back. -/

namespace SolrClause.Json

@[simp] theorem ok_bind {ε α β : Type} (a : α) (f : α → Except ε β) : (Except.ok a >>= f) = f a :=
  rfl

@[simp] theorem map_ok {ε α β : Type} (f : α → β) (a : α) :
    (Except.ok a : Except ε α).map f = .ok (f a) := rfl

/-- What came out of two readers in turn came out of the second, from what came out of the first. -/
theorem bind_eq_ok {ε α β : Type} {x : Except ε α} {f : α → Except ε β} {b : β} :
    (x >>= f) = .ok b ↔ ∃ a, x = .ok a ∧ f a = .ok b := by
  cases x with
  | error e => exact ⟨nofun, nofun⟩
  | ok a => exact ⟨fun h => ⟨a, rfl, h⟩, fun ⟨_, ha, h⟩ => Except.ok.inj ha ▸ h⟩

theorem map_eq_ok {ε α β : Type} {x : Except ε α} {f : α → β} {b : β} :
    x.map f = .ok b ↔ ∃ a, x = .ok a ∧ f a = b := by
  cases x with
  | error e => exact ⟨nofun, nofun⟩
  | ok a => simp

/-- A list comes out of a list item by item. -/
theorem mapM_eq_ok_iff {ε α β : Type} {f : α → Except ε β} {items : List α} {values : List β} :
    items.mapM f = .ok values ↔
      List.Forall₂ (fun item value => f item = .ok value) items values := by
  induction items generalizing values with
  | nil =>
    constructor
    · rintro ⟨⟩
      exact .nil
    · rintro ⟨⟩
      rfl
  | cons item items ih =>
    rw [List.mapM_cons, bind_eq_ok]
    constructor
    · rintro ⟨value, hvalue, h⟩
      obtain ⟨others, hothers, h⟩ := bind_eq_ok.mp h
      cases h
      exact .cons hvalue (ih.mp hothers)
    · rintro (_ | ⟨hvalue, hothers⟩)
      exact ⟨_, hvalue, bind_eq_ok.mpr ⟨_, ih.mpr hothers, rfl⟩⟩

theorem exists_mem_of_forall₂ {α β : Type} {R : α → β → Prop} {items : List α} {others : List β}
    (h : List.Forall₂ R items others) {b : β} (hb : b ∈ others) : ∃ a ∈ items, R a b := by
  induction h with
  | nil => exact absurd hb List.not_mem_nil
  | cons hfirst hrest ih =>
    rcases List.mem_cons.mp hb with rfl | hb
    · exact ⟨_, List.mem_cons_self, hfirst⟩
    · obtain ⟨a, ha, hab⟩ := ih hb
      exact ⟨a, List.mem_cons_of_mem _ ha, hab⟩

theorem forall_mem_iff_of_forall₂ {α β : Type} {P : α → Prop} {Q : β → Prop} {items : List α}
    {others : List β} (h : List.Forall₂ (fun a b => P a ↔ Q b) items others) :
    (∀ a ∈ items, P a) ↔ ∀ b ∈ others, Q b := by
  induction h with
  | nil => exact ⟨nofun, nofun⟩
  | cons hfirst hrest ih => rw [List.forall_mem_cons, List.forall_mem_cons, hfirst, ih]

/-- Lists that are read alike item by item are read alike. -/
theorem mapM_eq_of_forall₂ {ε α β γ : Type} {f : α → Except ε γ} {g : β → Except ε γ}
    {items : List α} {others : List β}
    (h : List.Forall₂ (fun item other => f item = g other) items others) :
    items.mapM f = others.mapM g := by
  induction h with
  | nil => rfl
  | cons hfirst hrest ih => rw [List.mapM_cons, List.mapM_cons, hfirst, ih]

theorem descend_eq {levels : Nat} (h : 2 ≤ levels) : descend levels = .ok (levels - 1) :=
  if_neg (by omega)

theorem descend_eq_ok {levels inner : Nat} :
    descend levels = .ok inner ↔ 2 ≤ levels ∧ inner = levels - 1 := by
  rw [descend]
  split <;> simp <;> omega

theorem ArrayEnd.check_eq_ok {close : ArrayEnd} : close.check = .ok () ↔ close = .closed := by
  cases close <;> simp [check]

theorem ObjectEnd.check_eq_ok {close : ObjectEnd} : close.check = .ok () ↔ close = .closed := by
  cases close <;> simp [check]

/-- A field of a record is set from a value if it was not set before. -/
theorem setField_bind_eq_ok {α σ : Type} {field : String} {old : Option α} {value : Except Fault α}
    {set : Option α → σ} {next : σ} :
    (setField field old value >>= fun new => .ok (set new)) = .ok next ↔
      old = none ∧ ∃ a, value = .ok a ∧ set (some a) = next := by
  cases old with
  | none => cases value <;> simp [setField, bind_eq_ok, map_eq_ok]
  | some a => simp [setField, bind_eq_ok]

/-- What is only checked has no part in the result. -/
theorem check_bind_eq_ok {α : Type} {check : Except Fault Unit} {x : Except Fault α} {a : α} :
    (check >>= fun _ => x) = .ok a ↔ check = .ok () ∧ x = .ok a := by
  cases check with
  | error fault => exact ⟨nofun, nofun⟩
  | ok => exact ⟨fun h => ⟨rfl, h⟩, fun h => h.2⟩

namespace Document

theorem values_eq_ok {levels : Nat} {items : List Document} {vs : List Value} :
    Document.values levels items = .ok vs ↔
      List.Forall₂ (fun item v => item.value levels = .ok v) items vs := by
  have hmapM : ∀ items, Document.values levels items = items.mapM (Document.value levels) := by
    intro items
    induction items with
    | nil => rfl
    | cons item rest ih => rw [Document.values, List.mapM_cons, ih]; rfl
  rw [hmapM, mapM_eq_ok_iff]

theorem value_array_eq_ok {levels : Nat} {items : List Document} {close : ArrayEnd} {v : Value} :
    (Document.array items close).value levels = .ok v ↔ 2 ≤ levels ∧ close = .closed ∧
      ∃ vs, Document.values (levels - 1) items = .ok vs ∧ .array vs = v := by
  simp only [value, bind_eq_ok, descend_eq_ok, Except.ok.injEq]
  constructor
  · rintro ⟨inner, ⟨hlevels, rfl⟩, vs, hvs, ⟨⟩, hclose, hv⟩
    exact ⟨hlevels, ArrayEnd.check_eq_ok.mp hclose, vs, hvs, hv⟩
  · rintro ⟨hlevels, hclose, vs, hvs, hv⟩
    exact ⟨_, ⟨hlevels, rfl⟩, vs, hvs, (), ArrayEnd.check_eq_ok.mpr hclose, hv⟩

theorem value_object_eq_ok {levels : Nat} {members : List (Quotation × Document)}
    {close : ObjectEnd} {v : Value} :
    (Document.object members close).value levels = .ok v ↔ 2 ≤ levels ∧ close = .closed ∧
      ∃ vs, Document.memberValues (levels - 1) members = .ok vs ∧ .object vs = v := by
  simp only [value, bind_eq_ok, descend_eq_ok, Except.ok.injEq]
  constructor
  · rintro ⟨inner, ⟨hlevels, rfl⟩, vs, hvs, ⟨⟩, hclose, hv⟩
    exact ⟨hlevels, ObjectEnd.check_eq_ok.mp hclose, vs, hvs, hv⟩
  · rintro ⟨hlevels, hclose, vs, hvs, hv⟩
    exact ⟨_, ⟨hlevels, rfl⟩, vs, hvs, (), ObjectEnd.check_eq_ok.mpr hclose, hv⟩

theorem eq_null_of_value {levels : Nat} {d : Document} (h : d.value levels = .ok .null) :
    d = .null := by
  cases d with
  | null => rfl
  | boolean b => cases h
  | number n => simp [value, map_eq_ok] at h
  | string q => simp [value, map_eq_ok] at h
  | array items close => simp [value_array_eq_ok] at h
  | object members close => simp [value_object_eq_ok] at h
  | broken flaw => cases h

theorem eq_boolean_of_value {levels : Nat} {d : Document} {b : Bool}
    (h : d.value levels = .ok (.boolean b)) : d = .boolean b := by
  cases d with
  | null => cases h
  | boolean b' =>
    cases h
    rfl
  | number n => simp [value, map_eq_ok] at h
  | string q => simp [value, map_eq_ok] at h
  | array items close => simp [value_array_eq_ok] at h
  | object members close => simp [value_object_eq_ok] at h
  | broken flaw => cases h

@[simp] theorem readString_document (s : String) :
    (Value.string s).document.readString = .ok s := by
  rw [Value.document, readString, Quotation.text_ofText]

@[simp] theorem readBoolean_document (b : Bool) :
    (Value.boolean b).document.readBoolean = .ok b := rfl

@[simp] theorem value_boolean (levels : Nat) (b : Bool) :
    (Value.boolean b).document.value levels = .ok (.boolean b) := rfl

@[simp] theorem value_string (levels : Nat) (s : String) :
    (Value.string s).document.value levels = .ok (.string s) := by
  rw [Value.document, value, Quotation.text_ofText, map_ok]

theorem value_integer (levels : Nat) {n : Int} (hlow : Int64.minValue.toInt ≤ n)
    (hhigh : n < UInt64.size) :
    (Value.number (.integer n)).document.value levels = .ok (.number (.integer n)) := by
  rw [Value.document, Number.document, value, Numeral.number, Numeral.value?_ofInt hlow hhigh]
  rfl

theorem value_member {levels : Nat} (h : 2 ≤ levels) (key s : String) :
    (Value.object [(key, .string s)]).document.value levels = .ok (.object [(key, .string s)]) := by
  have hmembers : memberValues (levels - 1) (memberDocuments [(key, .string s)]) =
      .ok [(key, .string s)] := by
    rw [memberDocuments, memberValues, Quotation.text_ofText, value_string]
    rfl
  rw [Value.document, value, descend_eq h, ok_bind, hmembers]
  rfl

theorem readChoice_document {α : Type} {choose : String → Option α} {names : List String}
    {name : String} {choice : α} (h : choose name = some choice) (levels : Nat) :
    readChoice choose names levels (Value.string name).document = .ok choice := by
  rw [Value.document, readChoice, Quotation.text_ofText, ok_bind, pickChoice, h]

theorem length_of_values {levels : Nat} {items : List Document} {values : List Value}
    (h : Document.values levels items = .ok values) : values.length = items.length := by
  induction items generalizing values with
  | nil =>
    cases h
    rfl
  | cons item rest ih =>
    obtain ⟨first, -, h⟩ := bind_eq_ok.mp h
    obtain ⟨others, hothers, h⟩ := bind_eq_ok.mp h
    cases h
    rw [List.length_cons, List.length_cons, ih hothers]

/-- One member came out of one member, with the name that its key stands for. -/
theorem eq_of_memberValues_singleton {levels : Nat} {members : List (Quotation × Document)}
    {name : String} {v : Value} (h : memberValues levels members = .ok [(name, v)]) :
    ∃ key d, members = [(key, d)] ∧ key.text = .ok name := by
  cases members with
  | nil => cases h
  | cons member rest =>
    obtain ⟨key, d⟩ := member
    obtain ⟨name', hname, h⟩ := bind_eq_ok.mp h
    obtain ⟨first, -, h⟩ := bind_eq_ok.mp h
    obtain ⟨others, hothers, h⟩ := bind_eq_ok.mp h
    cases h
    cases rest with
    | nil => exact ⟨key, d, rfl, hname⟩
    | cons next rest =>
      obtain ⟨key', d'⟩ := next
      obtain ⟨name', -, hothers⟩ := bind_eq_ok.mp hothers
      obtain ⟨first', -, hothers⟩ := bind_eq_ok.mp hothers
      obtain ⟨others', -, hnil⟩ := bind_eq_ok.mp hothers
      cases hnil

section Lists

variable {α : Type} {reading : Reading α} {toJson : α → Value}

theorem mapM_documents {levels : Nat} {items : List α}
    (h : ∀ item ∈ items, reading levels (toJson item).document = .ok item) :
    (itemDocuments (items.map toJson)).mapM (reading levels) = .ok items := by
  induction items with
  | nil => rfl
  | cons item items ih =>
    have hitem := h item List.mem_cons_self
    have hitems := ih fun next hnext => h next (List.mem_cons_of_mem _ hnext)
    rw [List.map_cons, itemDocuments, List.mapM_cons, hitem, ok_bind, hitems]
    rfl

/-- A list is read back if its items are, one level further down. -/
theorem readList_document {levels : Nat} (hlevels : 2 ≤ levels) {items : List α}
    (h : ∀ item ∈ items, reading (levels - 1) (toJson item).document = .ok item) :
    readList reading levels (Value.array (items.map toJson)).document = .ok items := by
  rw [Value.document, readList, descend_eq hlevels, ok_bind, mapM_documents h]
  rfl

/-- The first item that is not read back stops the list. -/
theorem mapM_documents_error {levels : Nat} {items : List α} {fault : Fault}
    (h : ∀ item ∈ items, reading levels (toJson item).document = .ok item ∨
      reading levels (toJson item).document = .error fault)
    (hfault : ∃ item ∈ items, reading levels (toJson item).document = .error fault) :
    (itemDocuments (items.map toJson)).mapM (reading levels) = .error fault := by
  induction items with
  | nil =>
    obtain ⟨item, hmem, -⟩ := hfault
    exact absurd hmem List.not_mem_nil
  | cons item items ih =>
    rw [List.map_cons, itemDocuments, List.mapM_cons]
    rcases h item List.mem_cons_self with hitem | hitem
    · have hrest : ∃ next ∈ items, reading levels (toJson next).document = .error fault := by
        obtain ⟨next, hmem, hnext⟩ := hfault
        rcases List.mem_cons.mp hmem with rfl | hmem
        · rw [hitem] at hnext
          cases hnext
        · exact ⟨next, hmem, hnext⟩
      rw [hitem, ok_bind, ih (fun next hnext => h next (List.mem_cons_of_mem _ hnext)) hrest]
      rfl
    · rw [hitem]
      rfl

theorem readList_document_error {levels : Nat} (hlevels : 2 ≤ levels) {items : List α}
    {fault : Fault}
    (h : ∀ item ∈ items, reading (levels - 1) (toJson item).document = .ok item ∨
      reading (levels - 1) (toJson item).document = .error fault)
    (hfault : ∃ item ∈ items, reading (levels - 1) (toJson item).document = .error fault) :
    readList reading levels (Value.array (items.map toJson)).document = .error fault := by
  rw [Value.document, readList, descend_eq hlevels, ok_bind, mapM_documents_error h hfault]
  rfl

end Lists

end Document

/-! ### Texts -/

section Texts

variable {α β : Type} {reading : Reading α} {text : List Char} {a : α}

/-- A text is read as its document is, provided that only blanks follow. -/
theorem parse_eq_ok : parse reading text = .ok a ↔
    reading levelLimit (Document.read text).1 = .ok a ∧
      skipSpaces (Document.read text).2 = [] := by
  rw [parse, bind_eq_ok]
  cases skipSpaces (Document.read text).2 <;> simp

/-- Once a text has been read, any other reader makes of it what it makes of the document. -/
theorem parse_eq_of_parse (h : parse reading text = .ok a) (other : Reading β) :
    parse other text = other levelLimit (Document.read text).1 := by
  have hrest := (parse_eq_ok.mp h).2
  rw [parse]
  simp only [hrest]
  cases other levelLimit (Document.read text).1 <;> rfl

end Texts

/-! ### Taking records apart -/

namespace Elements

variable {α : Type} {elements rest : Elements} {read : Document → Except Fault α}

theorem take_nil (close : ArrayEnd) (read : Document → Except Fault α) :
    take ⟨[], close⟩ read = close.check >>= fun _ => .ok (none, ⟨[], close⟩) := rfl

theorem take_cons (item : Document) (items : List Document) (close : ArrayEnd)
    (read : Document → Except Fault α) :
    take ⟨item :: items, close⟩ read =
      read item >>= fun value => .ok (some value, ⟨items, close⟩) := rfl

theorem require_cons (item : Document) (items : List Document) (close : ArrayEnd) (length : Nat)
    (expected : String) (read : Document → Except Fault α) :
    require ⟨item :: items, close⟩ length expected read =
      read item >>= fun value => .ok (value, ⟨items, close⟩) := by
  rw [require, take_cons, bind_assoc]
  rfl

theorem finish_eq_ok : elements.finish = .ok () ↔ elements = ⟨[], .closed⟩ := by
  obtain ⟨items, close⟩ := elements
  cases items <;> cases close <;> simp [finish]

/-- What is left after taking an item has one item less, or is empty as before. -/
theorem length_of_take {value : Option α} (h : elements.take read = .ok (value, rest)) :
    value = none ∧ elements.items = [] ∧ rest.items = [] ∨
      elements.items.length = rest.items.length + 1 := by
  obtain ⟨items, close⟩ := elements
  cases items with
  | nil =>
    obtain ⟨-, -, h⟩ := bind_eq_ok.mp h
    cases h
    exact .inl ⟨rfl, rfl, rfl⟩
  | cons item items =>
    obtain ⟨v, -, h⟩ := bind_eq_ok.mp h
    cases h
    exact .inr rfl

/-- An item that is required was there. -/
theorem length_of_require {length : Nat} {expected : String} {value : α}
    (h : elements.require length expected read = .ok (value, rest)) :
    elements.items.length = rest.items.length + 1 := by
  obtain ⟨⟨taken, left⟩, htake, h⟩ := bind_eq_ok.mp h
  rcases length_of_take htake with ⟨rfl, -⟩ | hlength
  · cases h
  · cases taken with
    | none => cases h
    | some v =>
      cases h
      exact hlength

end Elements

end SolrClause.Json
