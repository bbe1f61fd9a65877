import SolrClause.Proofs.Form.Shape

/-! The types of scalars exclude each other. Each type has a reader of its own, and no JSON value is
taken by two of them, so it makes no difference in which order they are tried. Every string is a
text, whatever it looks like, and only the form of timestamps is read as a timestamp. -/

namespace SolrClause.Scalar

open SolrClause.Json

/-! ### Readers that exclude each other -/

section Readers

variable {α β : Type} {a : α} {b : β}

/-- One of the readers at most takes the value. -/
def Exclusive (a : α) (readers : List (α → Option β)) : Prop :=
  readers.Pairwise fun read read' => read a = none ∨ read' a = none

theorem Exclusive.perm {readers order : List (α → Option β)} (h : Exclusive a readers)
    (horder : order.Perm readers) : Exclusive a order :=
  (horder.pairwise_iff fun h => h.symm).mpr h

/-- The first reader that takes the value is the only one. -/
theorem Exclusive.findSome?_eq_some {readers : List (α → Option β)} (h : Exclusive a readers) :
    readers.findSome? (· a) = some b ↔ ∃ read ∈ readers, read a = some b := by
  induction readers with
  | nil => simp
  | cons read rest ih =>
    obtain ⟨hfirst, hrest⟩ := List.pairwise_cons.mp h
    rw [List.findSome?_cons, List.exists_mem_cons_iff]
    cases hread : read a with
    | none => simp [ih hrest]
    | some found =>
      have hnone : ¬∃ other ∈ rest, other a = some b := by
        rintro ⟨other, hother, htakes⟩
        rcases hfirst other hother with hnone | hnone
        · simp [hread] at hnone
        · simp [htakes] at hnone
      simp [hnone]

/-- Readers that exclude each other give the same in every order. -/
theorem Exclusive.findSome?_perm {readers order : List (α → Option β)} (h : Exclusive a readers)
    (horder : order.Perm readers) : order.findSome? (· a) = readers.findSome? (· a) := by
  apply Option.ext
  intro b
  rw [(h.perm horder).findSome?_eq_some, h.findSome?_eq_some]
  simp only [horder.mem_iff]

end Readers

/-- The readers of the types, in the order in which they are tried. -/
def readers : List (Value → Option Scalar) :=
  [booleanOfValue?, integerOfValue?, floatOfValue?, timestampOfValue?, textOfValue?]

theorem ofValue?_eq (v : Value) : ofValue? v = readers.findSome? (· v) := by
  simp only [ofValue?, readers, List.findSome?_cons, List.findSome?_nil]
  cases booleanOfValue? v <;> cases integerOfValue? v <;> cases floatOfValue? v <;>
    cases timestampOfValue? v <;> cases textOfValue? v <;> rfl

/-- A value of each kind is left to a single reader. -/
theorem exclusive_readers (v : Value) : Exclusive v readers := by
  cases v with
  | number n =>
    cases n <;> simp [Exclusive, readers, booleanOfValue?, integerOfValue?, floatOfValue?,
      timestampOfValue?, textOfValue?]
  | _ =>
    simp [Exclusive, readers, booleanOfValue?, integerOfValue?, floatOfValue?, timestampOfValue?,
      textOfValue?]

/-! ### Timestamps -/

section Timestamps

variable {v : Value} {t : Timestamp}

/-- The text of a timestamp is the one member of an object, under its own name, or the one item of
an array. -/
theorem timestampOfValue?_eq_some : timestampOfValue? v = some (.timestamp t) ↔
    ∃ s, Timestamp.ofText? s = some t ∧
      (v = .object [(Timestamp.member, .string s)] ∨ v = .array [.string s]) := by
  rw [timestampOfValue?.eq_def]
  split
  · rename_i key content
    by_cases hkey : key = Timestamp.member <;> simp [hkey]
  · rename_i content
    simp
  · rename_i hobject harray
    constructor
    · intro h
      cases h
    · rintro ⟨s, -, rfl | rfl⟩
      · exact absurd rfl (hobject _ _)
      · exact absurd rfl (harray _)

/-- No other reader gives a timestamp. -/
theorem ofValue_eq_timestamp :
    ofValue v = .ok (.timestamp t) ↔ timestampOfValue? v = some (.timestamp t) := by
  rw [ofValue_eq_ok]
  cases v with
  | array items => rw [ofValue?_array]
  | object members => rw [ofValue?_object]
  | number n =>
    cases n <;> simp [ofValue?, booleanOfValue?, integerOfValue?, floatOfValue?, timestampOfValue?,
      textOfValue?]
  | null | boolean b | string s =>
    simp [ofValue?, booleanOfValue?, integerOfValue?, floatOfValue?, timestampOfValue?,
      textOfValue?]

end Timestamps

/-! ### Texts -/

section Texts

variable {text : List Char}

/-- A text that holds a value is read as a scalar from that value. -/
theorem parse_eq_ofValue {v : Value} (h : parse Document.value text = .ok v) :
    parse ofJson text = ofValue v := by
  rw [parse_eq_of_parse h, ofJson, (parse_eq_ok.mp h).1, ok_bind]

theorem parse_eq_ok_iff {value : Scalar} : parse ofJson text = .ok value ↔
    ∃ v, parse Document.value text = .ok v ∧ ofValue v = .ok value := by
  simp only [parse_eq_ok, ofJson, bind_eq_ok]
  constructor
  · rintro ⟨⟨v, hv, hvalue⟩, hrest⟩
    exact ⟨v, ⟨hv, hrest⟩, hvalue⟩
  · rintro ⟨v, ⟨hv, hrest⟩, hvalue⟩
    exact ⟨⟨v, hv, hvalue⟩, hrest⟩

/-- At most one reader takes a value, so a text is read alike in whatever order they are tried on
the value in it. A string is a text with the characters that it stands for, and a timestamp comes
only from an object with the one member `datetime` or an array of one item, which holds the text of
a timestamp. -/
theorem parse_unambiguous (text : List Char) :
    (∀ v : Value, readers.Pairwise fun read read' => read v = none ∨ read' v = none) ∧
    (∀ v, parse Document.value text = .ok v →
      ∀ order : List (Value → Option Scalar), order.Perm readers →
        parse ofJson text = match order.findSome? (· v) with
          | some value => .ok value
          | none => .error .noScalar) ∧
    (∀ q s, Document.Holds text (.string q) → q.text = .ok s →
      parse ofJson text = .ok (.text s)) ∧
    (∀ t, parse ofJson text = .ok (.timestamp t) ↔ ∃ s, Timestamp.ofText? s = some t ∧
      (parse Document.value text = .ok (.object [("datetime", .string s)]) ∨
        parse Document.value text = .ok (.array [.string s]))) := by
  refine ⟨exclusive_readers, fun v hv order horder => ?_, fun q s hq hs => ?_, fun t => ?_⟩
  · rw [parse_eq_ofValue hv, (exclusive_readers v).findSome?_perm horder, ← ofValue?_eq]
    rfl
  · rw [parse_holds _ hq, ofJson, Document.value, hs]
    rfl
  · rw [parse_eq_ok_iff]
    simp only [ofValue_eq_timestamp, timestampOfValue?_eq_some]
    constructor
    · rintro ⟨v, hv, s, hs, rfl | rfl⟩
      · exact ⟨s, hs, .inl hv⟩
      · exact ⟨s, hs, .inr hv⟩
    · rintro ⟨s, hs, hv | hv⟩
      · exact ⟨_, hv, s, hs, .inl rfl⟩
      · exact ⟨_, hv, s, hs, .inr rfl⟩

/-- A string that looks like a timestamp is a text, and in an array of its own it is a timestamp,
also if texts are tried first. -/
theorem parse_unambiguous_date :
    let order := [textOfValue?, timestampOfValue?, floatOfValue?, integerOfValue?, booleanOfValue?]
    parse ofJson "\"2024-06-01 10:00:00Z\"".toList = .ok (.text "2024-06-01 10:00:00Z") ∧
    parse ofJson "[\"2024-06-01 10:00:00Z\"]".toList =
      (match order.findSome? (· (.array [.string "2024-06-01 10:00:00Z"])) with
        | some value => .ok value
        | none => .error .noScalar) ∧
    ∃ t, parse ofJson "[\"2024-06-01 10:00:00Z\"]".toList = .ok (.timestamp t) ∧
      t.seconds = 1717236000 := by
  intro order
  have horder : order.Perm readers := List.reverse_perm readers
  have hstring : "\"2024-06-01 10:00:00Z\"".toList = stringChars "2024-06-01 10:00:00Z" := by
    decide +kernel
  have harray : parse Document.value "[\"2024-06-01 10:00:00Z\"]".toList =
      .ok (.array [.string "2024-06-01 10:00:00Z"]) := by
    have hcompact : "[\"2024-06-01 10:00:00Z\"]".toList =
        (Value.array [.string "2024-06-01 10:00:00Z"]).compact.toList := by
      decide +kernel
    rw [hcompact, parse_compact]
    rfl
  have hdate : (Timestamp.ofText? "2024-06-01 10:00:00Z").map Timestamp.seconds =
      some 1717236000 := by
    decide +kernel
  obtain ⟨t, ht, hseconds⟩ := Option.map_eq_some_iff.mp hdate
  obtain ⟨-, -, htext, -⟩ := parse_unambiguous "\"2024-06-01 10:00:00Z\"".toList
  obtain ⟨-, horders, -, htimestamp⟩ := parse_unambiguous "[\"2024-06-01 10:00:00Z\"]".toList
  refine ⟨?_, horders _ harray order horder, t, ?_, hseconds⟩
  · exact htext _ _ (hstring ▸ (Document.Writes.ofText _).holds) (Quotation.text_ofText _)
  · exact (htimestamp t).mpr ⟨_, ht, .inr harray⟩

end Texts

end SolrClause.Scalar
