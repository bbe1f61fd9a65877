import SolrClause.Proofs.Json.Indented
import SolrClause.Proofs.Json.Printable
import SolrClause.Proofs.Json.Reading
import SolrClause.Report

/-! Reports in JSON are read back as what they report, on one line and indented, whatever characters
the texts in them have. -/

namespace SolrClause

open SolrClause.Json SolrClause.CommandLine

/-! ### Pairs of texts -/

namespace TextPair

variable {levels : Nat} (p : TextPair) (first second : String)

theorem value_toJson (hlevels : 2 ≤ levels) :
    (p.toJson first second).document.value levels = .ok (p.toJson first second) := by
  have hmembers : Document.memberValues (levels - 1)
      (memberDocuments [(p.first, .string first), (p.second, .string second)]) =
      .ok [(p.first, .string first), (p.second, .string second)] := by
    simp [memberDocuments, Document.memberValues]
  rw [toJson, Value.document, Document.value, descend_eq hlevels, ok_bind, hmembers]
  rfl

/-- Two texts are read back if their members have different names. -/
theorem ofJson_toJson (hlevels : 2 ≤ levels) (hne : p.second ≠ p.first) :
    p.ofJson levels (p.toJson first second).document = .ok (first, second) := by
  rw [toJson, Value.document, ofJson, readRecord, descend_eq hlevels, ok_bind]
  simp [memberDocuments, takeUp, setField, hne, ObjectEnd.check, finish, requireField]

end TextPair

theorem CompiledClause.ofJson_toJson {levels : Nat} (hlevels : 2 ≤ levels) (c : CompiledClause) :
    ofJson levels c.toJson.document = .ok c := by
  rw [ofJson, toJson, TextPair.ofJson_toJson pair _ _ hlevels (by decide), map_ok]

theorem EscapedValue.ofJson_toJson {levels : Nat} (hlevels : 2 ≤ levels) (e : EscapedValue) :
    ofJson levels e.toJson.document = .ok e := by
  rw [ofJson, toJson, TextPair.ofJson_toJson pair _ _ hlevels (by decide), map_ok]

namespace Report

variable (report : Report) (pretty : Bool)

theorem value_toJson : report.toJson.document.value levelLimit = .ok report.toJson := by
  cases report with
  | clauses list =>
    have hitems :
        Document.values (levelLimit - 1) (itemDocuments (list.map CompiledClause.toJson)) =
          .ok (list.map CompiledClause.toJson) := by
      induction list with
      | nil => rfl
      | cons c rest ih =>
        have hfirst : c.toJson.document.value (levelLimit - 1) = .ok c.toJson :=
          TextPair.value_toJson CompiledClause.pair c.field c.query (by decide)
        rw [List.map_cons, itemDocuments, Document.values, hfirst, ok_bind, ih, ok_bind]
    rw [toJson, Value.document, Document.value, descend_eq (by decide), ok_bind, hitems]
    rfl
  | escaped e => exact TextPair.value_toJson EscapedValue.pair e.input e.escaped (by decide)

/-! ### The text of a report -/

theorem toList_text_json :
    (report.text .json pretty).toList =
      (if pretty then report.toJson.prettyChars 0 else report.toJson.compactChars) ++ ['\n'] := by
  cases pretty <;> simp [text, joinLines, Value.pretty, Value.compact]

/-- Both forms of the text are read as the document of the report. -/
theorem parse_text_json {α : Type} (reading : Reading α) :
    parse reading (report.text .json pretty).toList =
      reading levelLimit report.toJson.document := by
  have hbreak : Document.Blanks ['\n'] := by
    intro c hc
    rw [List.mem_singleton.mp hc]
    decide
  have hwrites : Document.Writes
      (if pretty then report.toJson.prettyChars 0 else report.toJson.compactChars)
      report.toJson.document := by
    cases pretty with
    | true => exact report.toJson.writes_prettyChars 0
    | false => exact report.toJson.writes_compactChars
  rw [toList_text_json]
  exact parse_writes reading Document.blanks_nil hwrites hbreak

/-- The JSON text of a report, indented or not, is read back as the clauses or the value that it
reports, and as nothing else beside them; without indentation it is a single line. -/
theorem text_json_read_back :
    (∀ list pretty, parse CompiledClause.listOfJson
      (text (.clauses list) .json pretty).toList = .ok list) ∧
    (∀ e pretty, parse EscapedValue.ofJson (text (.escaped e) .json pretty).toList = .ok e) ∧
    (∀ report pretty, parse Document.value (text report .json pretty).toList =
      .ok report.toJson) ∧
    ∀ report, ∃ line, '\n' ∉ line ∧ (text report .json false).toList = line ++ ['\n'] := by
  refine ⟨fun list pretty => ?_, fun e pretty => ?_, fun report pretty => ?_, fun report => ?_⟩
  · rw [parse_text_json]
    apply Document.readList_document (by decide)
    intro c _
    exact c.ofJson_toJson (by decide)
  · rw [parse_text_json]
    exact e.ofJson_toJson (by decide)
  · rw [parse_text_json, value_toJson]
  · exact ⟨report.toJson.compactChars, report.toJson.printable_compactChars.newline_notMem,
      toList_text_json report false⟩

end Report

end SolrClause
