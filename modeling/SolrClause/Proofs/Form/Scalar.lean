import SolrClause.Form.Scalar
import SolrClause.Proofs.Json.Reading
import SolrClause.Proofs.Timestamp.Text

/-! Scalars survive their JSON form, floats excepted: a boolean, an integer of 64 bits, a text and a
timestamp are each read back as what they were, since no two of them share a form. A float may be
kept or not, so what holds scalars is read back as far as they are kept. -/

namespace SolrClause.Scalar

open SolrClause.Json

def NotFloat (value : Scalar) : Prop := ∀ x, value ≠ .float x

instance (value : Scalar) : Decidable value.NotFloat :=
  match value with
  | .float x => isFalse fun h => h x rfl
  | .boolean _ => isTrue fun _ => Scalar.noConfusion
  | .integer _ => isTrue fun _ => Scalar.noConfusion
  | .timestamp _ => isTrue fun _ => Scalar.noConfusion
  | .text _ => isTrue fun _ => Scalar.noConfusion

theorem ofValue_integer_of_fits {n : Int} (hlow : Int64.minValue.toInt ≤ n)
    (hhigh : n ≤ Int64.maxValue.toInt) :
    ofValue (.number (.integer n)) = .ok (.integer (Int64.ofInt n)) := by
  rw [ofValue, ofValue?, integerOfValue?, if_pos ⟨hlow, hhigh⟩]
  rfl

theorem ofValue_integer (n : Int64) : ofValue (.number (.integer n.toInt)) = .ok (.integer n) := by
  rw [ofValue_integer_of_fits n.minValue_le_toInt n.toInt_le, Int64.ofInt_toInt]

theorem ofValue_timestamp (t : Timestamp) : ofValue t.toJson = .ok (.timestamp t) := by
  have htimestamp : timestampOfValue? t.toJson = some (.timestamp t) := by
    rw [Timestamp.toJson, timestampOfValue?, if_pos rfl, Timestamp.ofText?_text]
    rfl
  rw [ofValue, ofValue?, htimestamp]
  rfl

/-- The value of the document that a scalar is written as. -/
theorem value_toJson {levels : Nat} (hlevels : 2 ≤ levels) {value : Scalar}
    (h : value.NotFloat) : value.toJson.document.value levels = .ok value.toJson := by
  cases value with
  | boolean b => exact Document.value_boolean levels b
  | integer n =>
    have hhigh : n.toInt < UInt64.size := Int.lt_trans n.toInt_lt (by decide)
    exact Document.value_integer levels n.minValue_le_toInt hhigh
  | float x => exact absurd rfl (h x)
  | timestamp t => exact Document.value_member hlevels Timestamp.member t.text
  | text s => exact Document.value_string levels s

theorem ofValue_toJson {value : Scalar} (h : value.NotFloat) :
    ofValue value.toJson = .ok value := by
  cases value with
  | boolean b => rfl
  | integer n => exact ofValue_integer n
  | float x => exact absurd rfl (h x)
  | timestamp t => exact ofValue_timestamp t
  | text s => rfl

/-- A scalar other than a float is read back from its form. A timestamp is an object, which takes a
level of nesting. -/
theorem ofJson_toJson {levels : Nat} (hlevels : 2 ≤ levels) {value : Scalar}
    (h : value.NotFloat) : ofJson levels value.toJson.document = .ok value := by
  rw [ofJson, value_toJson hlevels h, ok_bind, ofValue_toJson h]

/-! ### Scalars that are kept -/

variable {levels : Nat} {value : Scalar}

/-- The scalar is what its JSON text is read as. -/
def Kept (value : Scalar) : Prop := parse ofJson value.toJson.compact.toList = .ok value

instance (value : Scalar) : Decidable value.Kept := by unfold Kept; infer_instance

theorem kept_of_notFloat (h : value.NotFloat) : value.Kept := by
  rw [Kept, parse_compact, ofJson_toJson (by decide) h]

/-- The form of a float is a number or null, which is read alike at every level. -/
theorem ofJson_float (levels levels' : Nat) (x : Number.Binary64) :
    ofJson levels (float x).toJson.document = ofJson levels' (float x).toJson.document := by
  rw [toJson, Value.document, Number.document]
  cases x.content <;> rfl

/-- A scalar that is kept is read back wherever its form stands. -/
theorem Kept.ofJson_toJson (hlevels : 2 ≤ levels) (h : value.Kept) :
    ofJson levels value.toJson.document = .ok value := by
  cases value with
  | float x =>
    rw [Kept, parse_compact] at h
    rw [ofJson_float levels levelLimit, h]
  | boolean b => exact Scalar.ofJson_toJson hlevels nofun
  | integer n => exact Scalar.ofJson_toJson hlevels nofun
  | timestamp t => exact Scalar.ofJson_toJson hlevels nofun
  | text s => exact Scalar.ofJson_toJson hlevels nofun

/-- Null is no scalar, so what is a scalar is not left out. -/
theorem readOptional_of_ok {d : Document} (h : ofJson levels d = .ok value) :
    Document.readOptional ofJson levels d = .ok (some value) := by
  cases d with
  | null => cases h
  | _ => exact congrArg (Except.map some) h

end SolrClause.Scalar
