import SolrClause.Form.Criteria
import SolrClause.Proofs.Form.Predicate

/-! Criteria without floats survive being written as JSON and read again, in whatever order the
predicates are written. -/

namespace SolrClause

open SolrClause.Json

namespace PredicateSet

theorem eq_of_toList_eq {s t : PredicateSet} (h : s.toList = t.toList) : s = t := by
  cases s
  cases t
  cases h
  rfl

/-- Predicates that are new and different from each other are all added, in their order. -/
theorem toList_insertAll {set : PredicateSet} {predicates : List Predicate}
    (h : (set.toList ++ predicates).Nodup) :
    (set.insertAll predicates).toList = set.toList ++ predicates := by
  induction predicates generalizing set with
  | nil => exact (List.append_nil _).symm
  | cons p rest ih =>
    have hnew : p ∉ set := by
      intro hmem
      exact (List.nodup_append.mp h).2.2 p hmem p List.mem_cons_self rfl
    have hstep : (set.insert p).toList ++ rest = set.toList ++ p :: rest := by
      rw [toList_insert_of_not_mem hnew, List.append_assoc, List.singleton_append]
    show ((set.insert p).insertAll rest).toList = _
    rw [ih (by rwa [hstep]), hstep]

theorem ofList_toList (set : PredicateSet) : ofList set.toList = set := by
  have htoList : (ofList set.toList).toList = set.toList := toList_insertAll set.nodup
  exact eq_of_toList_eq htoList

theorem ofJson_toJson {levels : Nat} (hlevels : 5 ≤ levels) {set : PredicateSet}
    (h : ∀ p ∈ set, ∀ value ∈ p.scalars, value.Kept) :
    ofJson levels set.toJson.document = .ok set := by
  have hlist := Document.readList_document (show 2 ≤ levels by omega) fun p hp =>
    Predicate.ofJson_toJson (show 4 ≤ levels - 1 by omega) (h p hp)
  rw [ofJson, toJson, hlist, map_ok, ofList_toList]

end PredicateSet

namespace Criteria

/-- What is read in place of the predicates decides what is read in place of the criteria. -/
theorem ofJson_eq {levels : Nat} (hlevels : 2 ≤ levels) (c : Criteria) :
    ofJson levels c.toJson.document =
      (PredicateSet.ofJson (levels - 1) c.predicates.toJson.document).map
        fun predicates => ⟨c.field, c.negating, predicates⟩ := by
  rw [toJson, Value.document, ofJson, readRecord, descend_eq hlevels, ok_bind]
  cases hread : PredicateSet.ofJson (levels - 1) c.predicates.toJson.document with
  | error fault =>
    simp [memberDocuments, Draft.takeUp, setField, hread, bind, Except.bind, Except.map]
  | ok predicates =>
    simp [memberDocuments, Draft.takeUp, setField, hread, ObjectEnd.check, Draft.finish,
      requireField]

/-- Criteria are read back from their form if their scalars are. -/
theorem ofJson_toJson_of_kept {levels : Nat} (hlevels : 6 ≤ levels) {c : Criteria}
    (h : ∀ p ∈ c.predicates, ∀ value ∈ p.scalars, value.Kept) :
    ofJson levels c.toJson.document = .ok c := by
  rw [ofJson_eq (by omega), PredicateSet.ofJson_toJson (by omega) h, map_ok]

/-- Criteria without floats are read back from their form. -/
theorem ofJson_toJson {levels : Nat} (hlevels : 6 ≤ levels) {c : Criteria}
    (h : ∀ p ∈ c.predicates, ∀ value ∈ p.scalars, value.NotFloat) :
    ofJson levels c.toJson.document = .ok c :=
  ofJson_toJson_of_kept hlevels fun p hp value hvalue =>
    Scalar.kept_of_notFloat (h p hp value hvalue)

/-- The text of criteria without floats, with the predicates in any order, is read back as the same
criteria. -/
theorem parse_toJson_same {c d : Criteria} (hsame : d.Same c)
    (h : ∀ p ∈ c.predicates, ∀ value ∈ p.scalars, value.NotFloat) :
    ∃ e, parse ofJson d.toJson.compact.toList = .ok e ∧ e.Same c := by
  have hd : ∀ p ∈ d.predicates, ∀ value ∈ p.scalars, value.NotFloat :=
    fun p hp => h p (hsame.2.2.mem_iff.mp hp)
  refine ⟨d, ?_, hsame⟩
  rw [parse_compact, ofJson_toJson (by decide) hd]

theorem parse_toJson_same_leap_second :
    ∃ e, parse ofJson
        (ofParts "seen" true
          [.between ⟨some (.timestamp ⟨1483228799, 1999999999, by decide⟩), none, true, false⟩,
            .compare .equals (.integer Int64.minValue),
            .compare .contains (.text "\"\n\x00")]).toJson.compact.toList = .ok e ∧
      e.Same
        (ofParts "seen" true
          [.compare .contains (.text "\"\n\x00"), .compare .equals (.integer Int64.minValue),
            .between ⟨some (.timestamp ⟨1483228799, 1999999999, by decide⟩), none, true, false⟩]) :=
  parse_toJson_same (by decide) (by decide)

end Criteria

end SolrClause
