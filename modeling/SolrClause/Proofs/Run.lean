import SolrClause.Proofs.Clause.Canonical
import SolrClause.Proofs.CriteriaFile
import SolrClause.Proofs.FileTree
import SolrClause.Proofs.Form.Config
import SolrClause.Run

/-! The command on a criteria file and the command on a request agree, as long as the clauses are in
canonical order: then neither the form of the file nor the order of the predicates in it shows. -/

namespace SolrClause

open SolrClause.CommandLine

theorem Logged.result_andThen {α β : Type} {first : Logged α} {value : α} (next : α → Logged β)
    (h : first.result = .ok value) : (first.andThen next).result = (next value).result := by
  rw [andThen, h]

theorem Logged.result_andThen_error {α β : Type} {first : Logged α} {error : Error}
    (next : α → Logged β) (h : first.result = .error error) :
    (first.andThen next).result = .error error := by
  rw [andThen, h]

/-! ### Requests -/

namespace CommandLine.CompileRequest

variable {r : CompileRequest}

/-- The values that a request compares with in one way. -/
def values (r : CompileRequest) : Comparison → List String
  | .equals => r.equals
  | .contains => r.contains
  | .startsWith => r.startsWith
  | .endsWith => r.endsWith
  | .expression => r.expression

theorem mem_comparisons {comparison : Comparison} {values : List String} {p : Predicate} :
    p ∈ comparisons comparison values ↔
      ∃ value ∈ values, p = .compare comparison (.text value) := by
  rw [comparisons, List.mem_map]
  exact exists_congr fun value => and_congr_right fun _ => eq_comm

/-- A request compares with each of its values, and has one range if it asks for one. -/
theorem mem_predicates {p : Predicate} :
    p ∈ r.predicates ↔
      (∃ comparison, ∃ value ∈ r.values comparison, p = .compare comparison (.text value)) ∨
        r.hasRange = true ∧ p = .between r.range := by
  have hrange : (p ∈ if r.hasRange then [.between r.range] else []) ↔
      r.hasRange = true ∧ p = .between r.range := by
    split
    · rename_i h
      simp [h]
    · rename_i h
      simp [h]
  simp only [predicates, List.mem_append, mem_comparisons, hrange]
  refine or_congr_left ⟨?_, ?_⟩
  · rintro ((((h | h) | h) | h) | h)
    · exact ⟨.equals, h⟩
    · exact ⟨.contains, h⟩
    · exact ⟨.startsWith, h⟩
    · exact ⟨.endsWith, h⟩
    · exact ⟨.expression, h⟩
  · rintro ⟨comparison, h⟩
    cases comparison with
    | equals => exact .inl (.inl (.inl (.inl h)))
    | contains => exact .inl (.inl (.inl (.inr h)))
    | startsWith => exact .inl (.inl (.inr h))
    | endsWith => exact .inl (.inr h)
    | expression => exact .inr h

theorem notFloat_of_mem_criteria :
    ∀ p ∈ r.criteria.predicates, ∀ value ∈ p.scalars, value.NotFloat := by
  intro p hp value hvalue
  have htext : ∃ s, value = .text s := by
    rcases mem_predicates.mp (PredicateSet.mem_ofList.mp hp) with
      ⟨comparison, s, -, rfl⟩ | ⟨-, rfl⟩
    · exact ⟨s, List.mem_singleton.mp hvalue⟩
    · rcases Predicate.mem_scalars_between.mp hvalue with hbound | hbound
      · obtain ⟨s, -, hs⟩ := Option.map_eq_some_iff.mp hbound
        exact ⟨s, hs.symm⟩
      · obtain ⟨s, -, hs⟩ := Option.map_eq_some_iff.mp hbound
        exact ⟨s, hs.symm⟩
  obtain ⟨s, rfl⟩ := htext
  exact fun _ => Scalar.noConfusion

end CommandLine.CompileRequest

namespace Run

variable {files : Files} {options : Options} {threshold : UInt64}

/-! ### Settings -/

/-- The options ask for canonical order, and the settings that are read from the file that they
name, or those that hold if they name none, have the threshold. -/
structure Canonical (files : Files) (options : Options) (threshold : UInt64) : Prop where
  canonicalOrder : options.canonicalOrder = true
  default : options.config = none → threshold = 64
  settings : ∀ path ∈ options.config, ∃ canonicalOrder,
    readConfig files path = .ok ⟨canonicalOrder, threshold⟩

/-- Settings are read from their JSON form unless their threshold is zero. -/
theorem readConfig_of_holds {path : Argument} {content : String} {config : Compiler.Config}
    (hfile : files path = .ok content)
    (h : Json.Document.Holds content.toList config.toJson.document) :
    readConfig files path =
      if 1 ≤ config.parallelThreshold then .ok config
      else .error (.invalidArgument "parallel_threshold must be at least 1") := by
  have hread : readConfig files path = configOfText content := by
    rw [readConfig, readFile, hfile]
    exact Json.ok_bind _ _
  rw [hread, configOfText, Json.parse_holds _ h, Compiler.Config.ofJson_toJson (by decide)]
  by_cases hzero : config.parallelThreshold = 0
  · rw [hzero, if_neg (by decide)]
    simp only [Compiler.Config.problem?, if_pos hzero]
  · have hpositive : 1 ≤ config.parallelThreshold := by
      rw [UInt64.le_iff_toNat_le]
      exact Nat.pos_of_ne_zero fun h => hzero (UInt64.toNat_inj.mp h)
    rw [if_pos hpositive]
    simp only [Compiler.Config.problem?, if_neg hzero]

section Settings

variable {path : Argument} {config : Compiler.Config} {error : Error}

theorem buildConfig_of_none (h : options.config = none) :
    (buildConfig files options).result = .ok { canonicalOrder := options.canonicalOrder } := by
  rw [buildConfig, h, Logged.result_andThen _ rfl]
  rfl

theorem buildConfig_of_some (h : options.config = some path)
    (hread : readConfig files path = .ok config) :
    (buildConfig files options).result =
      .ok { config with canonicalOrder := config.canonicalOrder || options.canonicalOrder } := by
  rw [buildConfig, h, Logged.result_andThen _ hread]

theorem buildConfig_of_error (h : options.config = some path)
    (hread : readConfig files path = .error error) :
    (buildConfig files options).result = .error error := by
  rw [buildConfig, h, Logged.result_andThen_error _ hread]

end Settings

theorem buildConfig_of_canonical (h : Canonical files options threshold) :
    (buildConfig files options).result = .ok ⟨true, threshold⟩ := by
  cases hconfig : options.config with
  | none => rw [buildConfig_of_none hconfig, h.default hconfig, h.canonicalOrder]
  | some path =>
    obtain ⟨canonicalOrder, hread⟩ := h.settings path hconfig
    rw [buildConfig_of_some hconfig hread, h.canonicalOrder, Bool.or_true]

/-- The JSON form of settings is such a file, unless their threshold is zero. -/
theorem canonical_of_holds {path : Argument} {content : String} {canonicalOrder : Bool}
    (hswitch : options.canonicalOrder = true) (hpath : options.config = some path)
    (hfile : files path = .ok content)
    (h : Json.Document.Holds content.toList
      (Compiler.Config.toJson ⟨canonicalOrder, threshold⟩).document)
    (hthreshold : 1 ≤ threshold) : Canonical files options threshold where
  canonicalOrder := hswitch
  default := by rw [hpath]; exact nofun
  settings := by
    intro path' hpath'
    obtain rfl : path = path' := Option.some.inj (hpath.symm.trans hpath')
    exact ⟨canonicalOrder, (readConfig_of_holds hfile h).trans (if_pos hthreshold)⟩

/-! ### Reports -/

/-- The clause of criteria in canonical order, under the name of their field. -/
def canonicalClause (c : Criteria) : CompiledClause :=
  ⟨c.field, Compiler.clause { canonicalOrder := true } c⟩

/-- Criteria that are the same filter are compiled alike, and the threshold makes no difference. -/
theorem compiled_eq_of_same {c d : Criteria} (h : d.Same c) :
    compiled ⟨true, threshold⟩ d = canonicalClause c := by
  have hclause : Compiler.clause ⟨true, threshold⟩ d = Compiler.clause ⟨true, threshold⟩ c :=
    Compiler.clauseOf_eq_of_same h rfl (List.Perm.refl _) (List.Perm.refl _)
  rw [compiled, hclause, h.1]
  rfl

theorem map_compiled_eq {criteria written : List Criteria}
    (h : List.Forall₂ Criteria.Same written criteria) :
    written.map (compiled ⟨true, threshold⟩) = criteria.map canonicalClause := by
  induction h with
  | nil => rfl
  | cons hsame hrest ih => rw [List.map_cons, List.map_cons, compiled_eq_of_same hsame, ih]

theorem report_compile (h : Canonical files options threshold) (request : CompileRequest) :
    (report files ⟨options, .compile request⟩).result =
      .ok (.clauses [canonicalClause request.criteria]) := by
  show (compile files options request).result = _
  rw [compile, Logged.result_andThen _ (buildConfig_of_canonical h)]
  rfl

theorem notFloat_of_forall₂_same {criteria written : List Criteria}
    (hsame : List.Forall₂ Criteria.Same written criteria)
    (h : ∀ c ∈ criteria, ∀ p ∈ c.predicates, ∀ value ∈ p.scalars, value.NotFloat) :
    ∀ d ∈ written, ∀ p ∈ d.predicates, ∀ value ∈ p.scalars, value.NotFloat := by
  induction hsame with
  | nil => exact fun d hd => absurd hd List.not_mem_nil
  | @cons d c written criteria hfirst hrest ih =>
    obtain ⟨hc, hcriteria⟩ := List.forall_mem_cons.mp h
    exact List.forall_mem_cons.mpr
      ⟨fun p hp => hc p (hfirst.2.2.mem_iff.mp hp), ih hcriteria⟩

variable {path : Argument} {content : String} {criteria written : List Criteria}

theorem report_file_of_writes (h : Canonical files options threshold)
    (hfile : files path = .ok content) (hwrites : CriteriaFile.Writes written content.toList)
    (hsame : List.Forall₂ Criteria.Same written criteria)
    (hfloats : ∀ c ∈ criteria, ∀ p ∈ c.predicates, ∀ value ∈ p.scalars, value.NotFloat) :
    (report files ⟨options, .file path⟩).result =
      .ok (.clauses (criteria.map canonicalClause)) := by
  have hkept : ∀ d ∈ written, ∀ p ∈ d.predicates, ∀ value ∈ p.scalars, value.Kept :=
    fun d hd p hp value hvalue =>
      Scalar.kept_of_notFloat (notFloat_of_forall₂_same hsame hfloats d hd p hp value hvalue)
  have hload : loadCriteria files path = .ok written := by
    rw [loadCriteria, readFile, hfile]
    exact CriteriaFile.readChars_writes hwrites hkept
  show (compileFile files options path).result = _
  rw [compileFile, Logged.result_andThen _ (buildConfig_of_canonical h),
    Logged.result_andThen _ hload, Compiler.clauses, paired_clausesBy, map_compiled_eq hsame]

/-- The invocation succeeds, whatever is logged, and prints the text. -/
def Prints (files : Files) (invocation : Invocation) (text : String) : Prop :=
  ∀ directives, (program files directives invocation).exitCode = 0 ∧
    (program files directives invocation).stdout = text

theorem prints_of_report {invocation : Invocation} {r : Report}
    (h : (report files invocation).result = .ok r) :
    Prints files invocation (r.text invocation.options.format invocation.options.pretty) := by
  intro directives
  have houtput : output files invocation =
      .ok (r.text invocation.options.format invocation.options.pretty) := by
    rw [output, h]
    rfl
  rw [program]
  simp only [houtput, and_self]

/-- In canonical order, the command on a criteria file succeeds and reports the clause of each
criteria in the file, in their order. The threshold makes no difference to that, nor how the batch
is divided; and a file that holds the criteria of a request leads to the same text as the request
itself, in every format. -/
theorem report_file_canonical (hsettings : Canonical files options threshold) :
    (∀ path content written criteria, files path = .ok content →
      CriteriaFile.Writes written content.toList → List.Forall₂ Criteria.Same written criteria →
      (∀ c ∈ criteria, ∀ p ∈ c.predicates, ∀ value ∈ p.scalars, value.NotFloat) →
      (report files ⟨options, .file path⟩).result =
        .ok (.clauses (criteria.map canonicalClause)) ∧
      Prints files ⟨options, .file path⟩
        ((Report.clauses (criteria.map canonicalClause)).text options.format options.pretty) ∧
      ∀ division, paired written (Compiler.clausesBy division ⟨true, threshold⟩ written) =
        criteria.map canonicalClause) ∧
    (∀ path content d (request : CompileRequest), files path = .ok content →
      CriteriaFile.Writes [d] content.toList → d.Same request.criteria →
      ∃ text, Prints files ⟨options, .compile request⟩ text ∧
        Prints files ⟨options, .file path⟩ text) := by
  refine ⟨fun path content written criteria hfile hwrites hsame hfloats => ?_,
    fun path content d request hfile hwrites hsame => ?_⟩
  · have hreport := report_file_of_writes hsettings hfile hwrites hsame hfloats
    refine ⟨hreport, prints_of_report hreport, fun division => ?_⟩
    rw [paired_clausesBy, map_compiled_eq hsame]
  · have hfloats : ∀ c ∈ [request.criteria], ∀ p ∈ c.predicates, ∀ value ∈ p.scalars,
        value.NotFloat :=
      List.forall_mem_singleton.mpr CompileRequest.notFloat_of_mem_criteria
    have hreport := report_file_of_writes hsettings hfile hwrites (.cons hsame .nil) hfloats
    exact ⟨_, prints_of_report (report_compile hsettings request), prints_of_report hreport⟩

/-- Two values asked for on the command line, one of them over two lines, a file that holds them the
other way round, and a batch with a second criteria that is divided. -/
theorem report_file_canonical_two_values :
    let settings := (Compiler.Config.toJson ⟨false, 2⟩).compact
    let first := r#"{"field":"title","negating":false,"predicates":["# ++
      r#"{"operation":"EQUALS","value":"b"},{"operation":"EQUALS","value":"a\nc"}]}"#
    let second := r#"{"field":"year","negating":true,"predicates":["# ++
      r#"{"operation":"BETWEEN","value":{"lower":1900,"upper":null,"# ++
      r#""include_lower":true,"include_upper":false}}]}"#
    let tree := FileTree.ofFiles [("settings", .text settings), ("single", .text first),
      ("batch", .text (first ++ "\r\n" ++ second))]
    let options : Options :=
      { format := .json, config := some (.ofString "settings"), canonicalOrder := true }
    (report tree.read ⟨options, .file (.ofString "batch")⟩).result =
      .ok (.clauses [⟨"title", "title:(a\nc b)"⟩, ⟨"year", r"-year:[1900 TO *}"⟩]) ∧
    ∃ text,
      Prints tree.read ⟨options, .compile { field := "title", equals := ["a\nc", "b"] }⟩ text ∧
      Prints tree.read ⟨options, .file (.ofString "single")⟩ text := by
  intro settings first second tree options
  let title := Criteria.ofParts "title" false
    [.compare .equals (.text "a\nc"), .compare .equals (.text "b")]
  let written := Criteria.ofParts "title" false
    [.compare .equals (.text "b"), .compare .equals (.text "a\nc")]
  let year := Criteria.ofParts "year" true [.between ⟨some (.integer 1900), none, true, false⟩]
  have hread (name : String) (content : String) (hname : FileTree.IsName name)
      (hfile : tree.find? (tree.working ++ [name]) = some (.text content)) :
      tree.read (.ofString name) = .ok content := by
    rw [FileTree.read_name hname, hfile]
    rfl
  have hfirst : first.toList = written.toJson.compactChars := by decide +kernel
  have hsecond : second.toList = year.toJson.compactChars := by decide +kernel
  have hbatch : (first ++ "\r\n" ++ second).toList =
      written.toJson.compactChars ++ (['\r', '\n'] ++ year.toJson.compactChars) := by
    rw [String.toList_append, String.toList_append, hfirst, hsecond, List.append_assoc]
    rfl
  have htitle : canonicalClause title = ⟨"title", "title:(a\nc b)"⟩ := by
    rw [canonicalClause, Compiler.clause_of_pairwise (by decide +kernel)]
    decide +kernel
  have hyear : canonicalClause year = ⟨"year", r"-year:[1900 TO *}"⟩ := by
    rw [canonicalClause, Compiler.clause_of_pairwise (by decide +kernel)]
    decide +kernel
  have hsettings : Canonical tree.read options 2 :=
    canonical_of_holds rfl rfl (hread "settings" settings (by decide +kernel) rfl)
      (Json.Value.holds_compact _) (by decide)
  obtain ⟨hclauses, hrequest⟩ := report_file_canonical hsettings
  constructor
  · have hwrites : CriteriaFile.Writes [written, year] (first ++ "\r\n" ++ second).toList := by
      rw [hbatch]
      exact .lines (.next written (.inr rfl) (.last year))
    obtain ⟨hreport, -⟩ := hclauses _ _ _ [title, year]
      (hread "batch" _ (by decide +kernel) rfl) hwrites (by decide +kernel) (by decide +kernel)
    rw [hreport, List.map_cons, List.map_singleton, htitle, hyear]
  · have hwrites : CriteriaFile.Writes [written] first.toList := by
      rw [hfirst]
      exact .lines (.last written)
    exact hrequest _ first written _ (hread "single" first (by decide +kernel) rfl) hwrites
      (by decide +kernel)

/-! ### Errors -/

/-- A criteria file that cannot be read is an error of the command, unless the settings are one. -/
theorem report_file_of_error {error : Error} (options : Options)
    (hfile : files path = .ok content) (hread : CriteriaFile.read content = .error error) :
    ∃ cause, (report files ⟨options, .file path⟩).result = .error cause ∧
      ∀ config, (buildConfig files options).result = .ok config → cause = error := by
  have hload : loadCriteria files path = .error error := by
    rw [loadCriteria, readFile, hfile]
    exact hread
  show ∃ cause, (compileFile files options path).result = .error cause ∧ _
  rw [compileFile]
  cases hconfig : (buildConfig files options).result with
  | error problem =>
    exact ⟨problem, Logged.result_andThen_error _ hconfig, nofun⟩
  | ok config =>
    refine ⟨error, ?_, fun _ _ => rfl⟩
    rw [Logged.result_andThen _ hconfig, Logged.result_andThen_error _ hload]

theorem output_of_error {invocation : Invocation} {error : Error}
    (h : (report files invocation).result = .error error) :
    output files invocation = .error error := by
  rw [output, h]
  rfl

/-- A command that fails prints nothing. -/
theorem program_of_error {invocation : Invocation} {error : Error}
    (h : (report files invocation).result = .error error) (directives : Option String) :
    (program files directives invocation).exitCode = 1 ∧
      (program files directives invocation).stdout = "" := by
  rw [program]
  simp only [output_of_error h, and_self]

end Run

end SolrClause
