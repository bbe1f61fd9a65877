import SolrClause.Proofs.Form.Predicate
import SolrClause.Proofs.Json.Depth

/-! The shape of payloads. A predicate is read from an operation and a payload exactly when the
operation takes the payload, and no payload has both shapes, so one of the wrong shape is rejected
wherever it comes from. -/

namespace SolrClause

open SolrClause.Json

namespace Scalar

theorem ofJson_unlimited : Document.Unlimited ofJson := by
  intro levels levels' d h h'
  rw [ofJson, ofJson, Document.value_unlimited h h']

theorem ofValue_eq_ok {v : Value} {value : Scalar} :
    ofValue v = .ok value ↔ ofValue? v = some value := by
  rw [ofValue]
  cases ofValue? v <;> simp

theorem ofValue?_array {items : List Value} :
    ofValue? (.array items) = timestampOfValue? (.array items) := by
  show (timestampOfValue? (.array items)).orElse (fun _ => none) = _
  cases timestampOfValue? (.array items) <;> rfl

theorem ofValue?_object {members : List (String × Value)} :
    ofValue? (.object members) = timestampOfValue? (.object members) := by
  show (timestampOfValue? (.object members)).orElse (fun _ => none) = _
  cases timestampOfValue? (.object members) <;> rfl

/-- An array is a scalar only as the text of a timestamp in it. -/
theorem eq_of_ofValue_array {items : List Value} {value : Scalar}
    (h : ofValue (.array items) = .ok value) : ∃ content, items = [.string content] := by
  rw [ofValue_eq_ok, ofValue?_array, timestampOfValue?.eq_def] at h
  split at h
  · rename_i heq
    exact absurd heq (by simp)
  · rename_i content heq
    exact ⟨content, by simpa using heq⟩
  · exact absurd h (by simp)

/-- An object is a scalar only as the one member of a timestamp. -/
theorem eq_of_ofValue_object {members : List (String × Value)} {value : Scalar}
    (h : ofValue (.object members) = .ok value) :
    ∃ content, members = [(Timestamp.member, .string content)] := by
  rw [ofValue_eq_ok, ofValue?_object, timestampOfValue?.eq_def] at h
  split at h
  · rename_i key content heq
    split at h
    · rename_i hkey
      exact ⟨content, by simpa [hkey] using heq⟩
    · exact absurd h (by simp)
  · rename_i heq
    exact absurd heq (by simp)
  · exact absurd h (by simp)

end Scalar

namespace Range

theorem ofElements_unlimited {levels levels' : Nat} {items : List Document} {close : ArrayEnd}
    (h : ∀ item ∈ items, item.depth < levels ∧ item.depth < levels') :
    ofElements levels ⟨items, close⟩ = ofElements levels' ⟨items, close⟩ := by
  have hbound : ∀ item ∈ items, (ofDocument levels).bound item = (ofDocument levels').bound item :=
    fun item hitem => Document.readOptional_unlimited Scalar.ofJson_unlimited _ _ _
      (h item hitem).1 (h item hitem).2
  refine Elements.take_congr hbound fun lower rest hrest => ?_
  exact Elements.take_congr (fun item hitem => hbound item (hrest item hitem)) fun _ _ _ => rfl

theorem takeUp_unlimited {levels levels' : Nat} {d : Document} (h : d.depth < levels)
    (h' : d.depth < levels') (draft : Draft) (name : String) :
    Draft.takeUp (ofDocument levels) draft name d =
      Draft.takeUp (ofDocument levels') draft name d := by
  have hbound := Document.readOptional_unlimited Scalar.ofJson_unlimited _ _ _ h h'
  simp only [Draft.takeUp, ofDocument, hbound]

theorem ofJson_unlimited : Document.Unlimited ofJson :=
  readRecord_unlimited (fun _ _ _ _ h => ofElements_unlimited h)
    fun _ _ draft name _ h h' => takeUp_unlimited h h' draft name

theorem four_le_of_ofElements {levels : Nat} {elements rest : Elements} {range : Range}
    (h : ofElements levels elements = .ok (range, rest)) : 4 ≤ elements.items.length := by
  obtain ⟨⟨lower, elements₁⟩, hlower, h⟩ := bind_eq_ok.mp h
  obtain ⟨⟨upper, elements₂⟩, hupper, h⟩ := bind_eq_ok.mp h
  obtain ⟨⟨includeLower, elements₃⟩, hincludeLower, h⟩ := bind_eq_ok.mp h
  obtain ⟨⟨includeUpper, elements₄⟩, hincludeUpper, -⟩ := bind_eq_ok.mp h
  have h₁ := Elements.length_of_take hlower
  have h₂ := Elements.length_of_take hupper
  have h₃ := Elements.length_of_require hincludeLower
  have h₄ := Elements.length_of_require hincludeUpper
  simp only [← List.length_eq_zero_iff] at h₁ h₂ h₃ h₄
  omega

/-- A range written as an array has four items. -/
theorem four_le_of_ofJson_array {levels : Nat} {items : List Document} {close : ArrayEnd}
    {range : Range} (h : ofJson levels (.array items close) = .ok range) : 4 ≤ items.length := by
  obtain ⟨levels', -, h⟩ := bind_eq_ok.mp h
  obtain ⟨⟨record, rest⟩, helements, -⟩ := bind_eq_ok.mp h
  exact four_le_of_ofElements helements

/-- The member of a timestamp is no field of a range. -/
theorem ofJson_timestamp_ne_ok {levels : Nat} {key : Quotation} {d : Document} {close : ObjectEnd}
    {range : Range} (hkey : key.text = .ok Timestamp.member) :
    ofJson levels (.object [(key, d)] close) ≠ .ok range := by
  intro h
  obtain ⟨levels', -, h⟩ := bind_eq_ok.mp h
  obtain ⟨draft, hdraft, h⟩ := bind_eq_ok.mp h
  obtain ⟨-, -, h⟩ := bind_eq_ok.mp h
  rw [List.foldlM_cons] at hdraft
  obtain ⟨taken, htaken, hdraft⟩ := bind_eq_ok.mp hdraft
  -- The member is skipped, so nothing is known of the range when its members end.
  obtain rfl : ({} : Draft) = taken := by
    obtain ⟨name, hname, hskip⟩ := bind_eq_ok.mp htaken
    obtain rfl : Timestamp.member = name := Except.ok.inj (hkey.symm.trans hname)
    obtain ⟨-, -, hempty⟩ := bind_eq_ok.mp hskip
    exact Except.ok.inj hempty
  cases hdraft
  cases h

end Range

/-- No document is both a scalar and a range: a scalar in an array or object has one part, whose
name is no field of a range. -/
theorem Scalar.ofJson_ne_ok_range {levels levels' : Nat} {d : Document} {value : Scalar}
    {range : Range} (h : ofJson levels d = .ok value) : Range.ofJson levels' d ≠ .ok range := by
  obtain ⟨v, hv, hvalue⟩ := bind_eq_ok.mp h
  cases d with
  | array items close =>
    obtain ⟨inner, -, hv⟩ := bind_eq_ok.mp hv
    obtain ⟨values, hvalues, hv⟩ := bind_eq_ok.mp hv
    obtain ⟨-, -, hv⟩ := bind_eq_ok.mp hv
    cases hv
    obtain ⟨content, rfl⟩ := eq_of_ofValue_array hvalue
    have hlength := Document.length_of_values hvalues
    intro hrange
    have hfour := Range.four_le_of_ofJson_array hrange
    rw [← hlength, List.length_singleton] at hfour
    omega
  | object members close =>
    obtain ⟨inner, -, hv⟩ := bind_eq_ok.mp hv
    obtain ⟨values, hvalues, hv⟩ := bind_eq_ok.mp hv
    obtain ⟨-, -, hv⟩ := bind_eq_ok.mp hv
    cases hv
    obtain ⟨content, rfl⟩ := eq_of_ofValue_object hvalue
    obtain ⟨key, d, rfl, hkey⟩ := Document.eq_of_memberValues_singleton hvalues
    exact Range.ofJson_timestamp_ne_ok hkey
  | null => exact nofun
  | boolean b => exact nofun
  | number n => exact nofun
  | string q => exact nofun
  | broken flaw => exact nofun

/-- What a text holds, read as the payload that an operation takes. -/
def Payload.parse (operation : Operation) (text : List Char) : Except Fault Payload :=
  match operation with
  | .compare _ => (Json.parse Scalar.ofJson text).map .scalar
  | .between => (Json.parse Range.ofJson text).map .range

namespace Predicate

/-- A predicate in a text: an operation and any payload at all. -/
def document (operation : Operation) (d : Document) : Document :=
  .object [(.ofText Part.operation.name, operation.toJson.document), (.ofText Part.value.name, d)]
    .closed

variable {text whole : List Char} {d : Document} {operation : Operation}

theorem parse_document (hwhole : Document.Writes whole (document operation d)) :
    parse ofJson whole = ofContent (levelLimit - 1) d operation := by
  rw [parse_writes_tight ofJson hwhole, document, ofJson_object (by decide)]

/-- A payload that nests less deep than the levels that are left is read as it is on its own. -/
theorem ofContent_eq_ok (hd : Document.Writes text d) (hdepth : d.depth < levelLimit - 1)
    (p : Predicate) :
    ofContent (levelLimit - 1) d operation = .ok p ↔
      ∃ x, Payload.parse operation text = .ok x ∧ ofPayload operation x = .ok p := by
  have hdeeper : d.depth < levelLimit := Nat.lt_of_lt_pred hdepth
  cases operation with
  | compare comparison =>
    rw [ofContent, Payload.parse, parse_writes_tight _ hd,
      Scalar.ofJson_unlimited _ _ d hdepth hdeeper]
    cases Scalar.ofJson levelLimit d with
    | error fault => simp [Except.map]
    | ok value => simp [ofPayload]
  | between =>
    rw [ofContent, Payload.parse, parse_writes_tight _ hd,
      Range.ofJson_unlimited _ _ d hdepth hdeeper]
    cases Range.ofJson levelLimit d with
    | error fault => simp [Except.map]
    | ok range => simp [ofPayload]

/-- Predicates are read from a text just as they are made of an operation and a payload: the text is
read exactly when the payload in it, read as the operation asks for it, is one that the operation
takes. No text is a payload of both shapes, so a payload of the wrong shape is refused by both. -/
theorem parse_iff_ofPayload (hd : Document.Writes text d)
    (hwhole : Document.Writes whole (document operation d)) :
    (d.depth ≤ 100 → ∀ p, parse ofJson whole = .ok p ↔
      ∃ x, Payload.parse operation text = .ok x ∧ ofPayload operation x = .ok p) ∧
    (∀ value range, parse Scalar.ofJson text = .ok value → parse Range.ofJson text ≠ .ok range) ∧
    (∀ value, parse Scalar.ofJson text = .ok value → operation = .between →
      (∃ fault, parse ofJson whole = .error fault) ∧
        ofPayload operation (.scalar value) = .error ⟨operation, "a range payload"⟩) ∧
    (∀ range comparison, parse Range.ofJson text = .ok range → operation = .compare comparison →
      (∃ fault, parse ofJson whole = .error fault) ∧
        ofPayload operation (.range range) = .error ⟨operation, "a single scalar"⟩) := by
  rw [parse_document hwhole, parse_writes_tight _ hd, parse_writes_tight _ hd]
  refine ⟨fun hdepth p => ?_, fun value range hvalue => ?_, ?_, ?_⟩
  · exact ofContent_eq_ok hd (Nat.lt_of_le_of_lt hdepth (by decide)) p
  · exact Scalar.ofJson_ne_ok_range hvalue
  · rintro value hvalue rfl
    refine ⟨?_, rfl⟩
    cases hrange : Range.ofJson (levelLimit - 1) d with
    | error fault => exact ⟨fault, by rw [ofContent, hrange]; rfl⟩
    | ok range => exact absurd hrange (Scalar.ofJson_ne_ok_range hvalue)
  · rintro range comparison hrange rfl
    refine ⟨?_, rfl⟩
    cases hvalue : Scalar.ofJson (levelLimit - 1) d with
    | error fault => exact ⟨fault, by rw [ofContent, hvalue]; rfl⟩
    | ok value => exact absurd hrange (Scalar.ofJson_ne_ok_range hvalue)

/-- An array of four items that is a range, and no scalar. -/
theorem parse_iff_ofPayload_items :
    parse ofJson r#"{"operation":"BETWEEN","value":[null,1,true,false]}"#.toList =
      .ok (.between ⟨none, some (.integer 1), true, false⟩) ∧
    ∃ fault, parse ofJson
      r#"{"operation":"CONTAINS","value":[null,1,true,false]}"#.toList =
        .error fault := by
  let items : Value := .array [.null, .number (.integer 1), .boolean true, .boolean false]
  let record (operation : Operation) : Value :=
    .object [("operation", operation.toJson), ("value", items)]
  have hitems : Document.Writes "[null,1,true,false]".toList items.document :=
    items.writes_compactChars
  have hrange : parse Range.ofJson "[null,1,true,false]".toList =
      .ok ⟨none, some (.integer 1), true, false⟩ := by
    decide +kernel
  refine ⟨?_, ?_⟩
  · have hread := parse_iff_ofPayload hitems (record .between).writes_compactChars
    exact (hread.1 (by decide) _).mpr ⟨.range _, by rw [Payload.parse, hrange, map_ok], rfl⟩
  · have hread := parse_iff_ofPayload hitems (record (.compare .contains)).writes_compactChars
    exact (hread.2.2.2 _ .contains hrange rfl).1

end Predicate

end SolrClause
