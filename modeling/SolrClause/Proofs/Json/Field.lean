import SolrClause.Proofs.Json.Members

/-! What a record holds for a field: the item in its place or the member of its name. A record that
is read takes the field from there, and has nothing for it if the document has nothing. -/

namespace SolrClause.Json

/-- The first member of a name. -/
def member? (name : String) (members : List (Quotation × Document)) : Option Document :=
  (members.find? fun m => m.1.text = .ok name).map Prod.snd

/-- What a document holds for a field: the item in its place, or the member of its name. -/
def Document.field? (place : Nat) (name : String) : Document → Option Document
  | .array items _ => items[place]?
  | .object members _ => member? name members
  | _ => none

section Members

variable {name : String} {m : Quotation × Document} {members : List (Quotation × Document)}

theorem member?_cons_of_eq (h : m.1.text = .ok name) : member? name (m :: members) = some m.2 := by
  rw [member?, List.find?_cons_of_pos (by simpa using h)]
  rfl

theorem member?_cons_of_ne (h : m.1.text ≠ .ok name) :
    member? name (m :: members) = member? name members := by
  rw [member?, List.find?_cons_of_neg (by simpa using h), member?]

end Members

variable {α σ : Type} {takeUp : σ → String → Document → Except Fault σ} {field : String}
  {get : σ → Option α} {read : Document → Except Fault α}

/-- Only the member of its name sets the field of a record, and only once. -/
structure Sets (takeUp : σ → String → Document → Except Fault σ) (field : String)
    (get : σ → Option α) (read : Document → Except Fault α) : Prop where
  own {state next : σ} {d : Document} (h : takeUp state field d = .ok next) :
    get state = none ∧ ∃ a, read d = .ok a ∧ get next = some a
  other {state next : σ} {name : String} {d : Document} (hname : name ≠ field)
    (h : takeUp state name d = .ok next) : get next = get state

section Folds

variable {state last : σ} {members : List (Quotation × Document)}

theorem Sets.foldlM_of_some (h : Sets takeUp field get read) {a : α} (hset : get state = some a)
    (hread : members.foldlM (takeMember takeUp) state = .ok last) : get last = some a := by
  induction members generalizing state with
  | nil =>
    cases hread
    exact hset
  | cons m members ih =>
    rw [List.foldlM_cons] at hread
    obtain ⟨next, hnext, hread⟩ := bind_eq_ok.mp hread
    obtain ⟨name, -, hnext⟩ := bind_eq_ok.mp hnext
    by_cases hname : name = field
    · subst hname
      rw [(h.own hnext).1] at hset
      cases hset
    · exact ih ((h.other hname hnext).trans hset) hread

/-- A field that is not set is set from the member of its name, if there is one. -/
theorem Sets.foldlM_of_none (h : Sets takeUp field get read) (hunset : get state = none)
    (hread : members.foldlM (takeMember takeUp) state = .ok last) :
    Option.Rel (fun d a => read d = .ok a) (member? field members) (get last) := by
  induction members generalizing state with
  | nil =>
    cases hread
    rw [hunset]
    exact .none
  | cons m members ih =>
    rw [List.foldlM_cons] at hread
    obtain ⟨next, hnext, hread⟩ := bind_eq_ok.mp hread
    obtain ⟨name, hkey, hnext⟩ := bind_eq_ok.mp hnext
    by_cases hname : name = field
    · subst hname
      obtain ⟨-, a, ha, hset⟩ := h.own hnext
      rw [member?_cons_of_eq hkey, h.foldlM_of_some hset hread]
      exact .some ha
    · have hother : m.1.text ≠ .ok field := by
        rw [hkey]
        exact fun heq => hname (Except.ok.inj heq)
      rw [member?_cons_of_ne hother]
      exact ih ((h.other hname hnext).trans hunset) hread

end Folds

/-- An item that is taken was the first one, if there was one, and the others are left. -/
theorem Elements.rel_of_take {elements rest : Elements} {value : Option α}
    (h : elements.take read = .ok (value, rest)) :
    Option.Rel (fun d a => read d = .ok a) elements.items[0]? value ∧
      ∀ place, rest.items[place]? = elements.items[place + 1]? := by
  obtain ⟨items, close⟩ := elements
  cases items with
  | nil =>
    obtain ⟨-, -, h⟩ := bind_eq_ok.mp h
    cases h
    exact ⟨.none, fun place => rfl⟩
  | cons item items =>
    obtain ⟨a, ha, h⟩ := bind_eq_ok.mp h
    cases h
    exact ⟨.some ha, fun place => rfl⟩

end SolrClause.Json
