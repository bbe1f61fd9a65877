import SolrClause.Form.Config
import SolrClause.Proofs.Json.Field

/-! Settings survive their JSON form, and what is read as settings has them from the fields of the
document: a switch is a boolean, and a threshold is a number in digits alone that fits 64 bits. -/

namespace SolrClause

open SolrClause.Json SolrClause.Text

namespace Json.Document

variable {d : Document}

theorem readSize_document (n : UInt64) :
    readSize (Value.number (.integer n.toNat)).document = .ok n := by
  have hlow : Int64.minValue.toInt ≤ n.toNat :=
    Int.le_trans (by decide) (Int.natCast_nonneg n.toNat)
  have hhigh : (n.toNat : Int) < UInt64.size := Int.ofNat_lt.mpr n.toNat_lt_size
  rw [Value.document, Number.document, readSize, Numeral.number, Numeral.value?_ofInt hlow hhigh]
  simp only [if_pos (Int.natCast_nonneg n.toNat), Int.toNat_natCast, UInt64.ofNat_toNat]

theorem readBoolean_eq_ok {b : Bool} : d.readBoolean = .ok b ↔ d = .boolean b := by
  cases d with
  | boolean b' => simp [readBoolean]
  | _ => exact iff_of_false nofun nofun

/-- A size is written in digits alone. -/
theorem exists_digits_of_readSize {n : UInt64} (h : d.readSize = .ok n) :
    ∃ ds, d = .number (.ofDigits false ds) ∧ decimalValue ds = n.toNat := by
  cases d with
  | number numeral =>
    rw [readSize, Numeral.number] at h
    cases hvalue : numeral.value? with
    | none => simp [hvalue] at h
    | some value =>
      cases value with
      | float x => simp [hvalue] at h
      | integer k =>
        simp only [hvalue] at h
        split at h
        · rename_i hk
          obtain ⟨ds, rfl, rfl, hfits⟩ := Numeral.eq_ofDigits_of_value? hvalue hk
          cases h
          exact ⟨ds, rfl, (UInt64.toNat_ofNat_of_lt hfits).symm⟩
        · cases h
  | _ => cases h

end Json.Document

namespace Compiler.Config

variable {levels : Nat}

theorem ofJson_toJson (hlevels : 2 ≤ levels) (config : Config) :
    ofJson levels config.toJson.document = .ok config := by
  have hsize := Document.readSize_document config.parallelThreshold
  rw [toJson, Value.document, ofJson, readRecord, descend_eq hlevels, ok_bind]
  simp [memberDocuments, Draft.takeUp, setField, hsize, ObjectEnd.check, Draft.finish]

/-! ### Fields -/

theorem takeUp_eq_ok {draft next : Draft} {name : String} {d : Document} :
    Draft.takeUp levels draft name d = .ok next ↔
      (name = "canonical_order" ∧ draft.canonicalOrder = none ∧
        ∃ b, d.readBoolean = .ok b ∧ { draft with canonicalOrder := some b } = next) ∨
      (name = "parallel_threshold" ∧ draft.parallelThreshold = none ∧
        ∃ n, d.readSize = .ok n ∧ { draft with parallelThreshold := some n } = next) ∨
      (name ∉ ["canonical_order", "parallel_threshold"] ∧ d.skip = .ok () ∧ draft = next) := by
  rw [Draft.takeUp]
  split_ifs with hcanonicalOrder hparallelThreshold
  · rw [setField_bind_eq_ok]
    simp [hcanonicalOrder]
  · rw [setField_bind_eq_ok]
    simp [hparallelThreshold]
  · rw [check_bind_eq_ok]
    simp [hcanonicalOrder, hparallelThreshold]

theorem sets_canonicalOrder :
    Sets (Draft.takeUp levels) "canonical_order" Draft.canonicalOrder Document.readBoolean where
  own h := by
    rcases takeUp_eq_ok.mp h with ⟨-, hunset, b, hb, rfl⟩ | ⟨hname, -⟩ | ⟨hname, -⟩
    · exact ⟨hunset, b, hb, rfl⟩
    · exact absurd hname (by decide)
    · exact absurd hname (by decide)
  other hname h := by
    rcases takeUp_eq_ok.mp h with ⟨rfl, -⟩ | ⟨-, -, n, -, rfl⟩ | ⟨-, -, rfl⟩
    · exact absurd rfl hname
    · rfl
    · rfl

theorem sets_parallelThreshold :
    Sets (Draft.takeUp levels) "parallel_threshold" Draft.parallelThreshold
      Document.readSize where
  own h := by
    rcases takeUp_eq_ok.mp h with ⟨hname, -⟩ | ⟨-, hunset, n, hn, rfl⟩ | ⟨hname, -⟩
    · exact absurd hname (by decide)
    · exact ⟨hunset, n, hn, rfl⟩
    · exact absurd hname (by decide)
  other hname h := by
    rcases takeUp_eq_ok.mp h with ⟨-, -, b, -, rfl⟩ | ⟨rfl, -⟩ | ⟨-, -, rfl⟩
    · rfl
    · exact absurd rfl hname
    · rfl

/-- Settings that are read are made of what the document holds for the two fields. -/
theorem exists_draft_of_ofJson {d : Document} {config : Config}
    (h : ofJson levels d = .ok config) :
    ∃ draft : Draft,
      Option.Rel (fun d b => d.readBoolean = .ok b) (d.field? 0 "canonical_order")
        draft.canonicalOrder ∧
      Option.Rel (fun d n => d.readSize = .ok n) (d.field? 1 "parallel_threshold")
        draft.parallelThreshold ∧
      config = draft.finish := by
  cases d with
  | array items close =>
    obtain ⟨inner, -, h⟩ := bind_eq_ok.mp h
    obtain ⟨⟨record, rest⟩, hrecord, h⟩ := bind_eq_ok.mp h
    obtain ⟨-, h⟩ := check_bind_eq_ok.mp h
    cases h
    obtain ⟨⟨canonicalOrder, elements₁⟩, hcanonicalOrder, h⟩ := bind_eq_ok.mp hrecord
    obtain ⟨⟨parallelThreshold, elements₂⟩, hparallelThreshold, h⟩ := bind_eq_ok.mp h
    cases h
    obtain ⟨hfirst, hrest⟩ := Elements.rel_of_take hcanonicalOrder
    obtain ⟨hsecond, -⟩ := Elements.rel_of_take hparallelThreshold
    rw [hrest] at hsecond
    exact ⟨⟨canonicalOrder, parallelThreshold⟩, hfirst, hsecond, rfl⟩
  | object members close =>
    obtain ⟨inner, -, h⟩ := bind_eq_ok.mp h
    obtain ⟨draft, hdraft, h⟩ := bind_eq_ok.mp h
    obtain ⟨-, h⟩ := check_bind_eq_ok.mp h
    cases h
    exact ⟨draft, sets_canonicalOrder.foldlM_of_none rfl hdraft,
      sets_parallelThreshold.foldlM_of_none rfl hdraft, rfl⟩
  | _ => cases h

end Compiler.Config

end SolrClause
