import SolrClause.Proofs.Run

/-! The settings that a command runs with: those of the file that the options name, or the defaults,
with the switch on top. They can always be used, and where there are none the command stops before
it has looked at any criteria. -/

namespace SolrClause

theorem Report.joinLines_concat (lines : List String) (line : String) :
    joinLines (lines ++ [line]) = joinLines lines ++ (line ++ "\n") := by
  rw [joinLines, List.map_append, List.map_singleton, String.join_append,
    String.join_cons, String.join_nil, String.append_empty, joinLines]

namespace Run

open SolrClause.CommandLine SolrClause.Compiler SolrClause.Json SolrClause.Text

variable {files : Files} {options : Options} {config : Config} {error : Error}

/-! ### Settings that come out -/

/-- What the settings file that the options name holds for a field; nothing if they name none. -/
def setting? (files : Files) (options : Options) (place : Nat) (field : String) :
    Option Document :=
  match options.config.map files with
  | some (.ok content) => (Document.read content.toList).1.field? place field
  | _ => none

/-- The settings can be used, and each is what the file and the switch say. A threshold is given in
digits, and is 64 if it is not given. -/
structure Settled (files : Files) (options : Options) (config : Config) : Prop where
  threshold_pos : 1 ≤ config.parallelThreshold.toNat
  threshold_lt : config.parallelThreshold.toNat < UInt64.size
  threshold_given : ∀ d ∈ setting? files options 1 "parallel_threshold",
    ∃ ds, d = .number (.ofDigits false ds) ∧ decimalValue ds = config.parallelThreshold.toNat
  threshold_default : setting? files options 1 "parallel_threshold" = none →
    config.parallelThreshold.toNat = 64
  canonicalOrder_given : ∀ d ∈ setting? files options 0 "canonical_order", ∃ b, d = .boolean b
  canonicalOrder : config.canonicalOrder = true ↔ options.canonicalOrder = true ∨
    setting? files options 0 "canonical_order" = some (.boolean true)

theorem setting?_of_none (h : options.config = none) (place : Nat) (field : String) :
    setting? files options place field = none := by
  rw [setting?, h]
  rfl

theorem setting?_of_some {path : Argument} {content : String} (h : options.config = some path)
    (hfile : files path = .ok content) (place : Nat) (field : String) :
    setting? files options place field = (Document.read content.toList).1.field? place field := by
  rw [setting?, h, Option.map_some, hfile]

/-- Settings are read from a file that holds them and that are no problem. -/
theorem exists_of_readConfig {path : Argument} (h : readConfig files path = .ok config) :
    ∃ content, files path = .ok content ∧ config.problem? = none ∧
      Config.ofJson levelLimit (Document.read content.toList).1 = .ok config := by
  obtain ⟨content, hcontent, h⟩ := bind_eq_ok.mp h
  have hfile : files path = .ok content := by
    rw [readFile] at hcontent
    split at hcontent
    · rename_i hfile
      cases hcontent
      exact hfile
    · cases hcontent
  refine ⟨content, hfile, ?_⟩
  rw [configOfText] at h
  split at h
  · cases h
  · rename_i hparse
    split at h
    · cases h
    · rename_i hproblem
      cases h
      exact ⟨hproblem, (parse_eq_ok.mp hparse).1⟩

/-- Settings come from what the file holds for the two fields, and the switch is put on top. -/
theorem exists_draft_of_buildConfig (h : (buildConfig files options).result = .ok config) :
    ∃ draft : Config.Draft,
      Option.Rel (fun d b => d.readBoolean = .ok b) (setting? files options 0 "canonical_order")
        draft.canonicalOrder ∧
      Option.Rel (fun d n => d.readSize = .ok n) (setting? files options 1 "parallel_threshold")
        draft.parallelThreshold ∧
      draft.finish.problem? = none ∧
      config = { draft.finish with
        canonicalOrder := draft.finish.canonicalOrder || options.canonicalOrder } := by
  cases hpath : options.config with
  | none =>
    rw [buildConfig_of_none hpath] at h
    refine ⟨{}, ?_, ?_, by decide, (Except.ok.inj h).symm⟩
    · rw [setting?_of_none hpath]
      exact .none
    · rw [setting?_of_none hpath]
      exact .none
  | some path =>
    cases hread : readConfig files path with
    | error error =>
      rw [buildConfig_of_error hpath hread] at h
      cases h
    | ok read =>
      rw [buildConfig_of_some hpath hread] at h
      obtain ⟨content, hfile, hproblem, hjson⟩ := exists_of_readConfig hread
      obtain ⟨draft, hcanonicalOrder, hparallelThreshold, rfl⟩ :=
        Config.exists_draft_of_ofJson hjson
      refine ⟨draft, ?_, ?_, hproblem, (Except.ok.inj h).symm⟩
      · rwa [setting?_of_some hpath hfile]
      · rwa [setting?_of_some hpath hfile]

theorem settled_of_buildConfig (h : (buildConfig files options).result = .ok config) :
    Settled files options config := by
  obtain ⟨⟨canonicalOrder, parallelThreshold⟩, hcanonicalOrder, hparallelThreshold, hproblem,
    rfl⟩ := exists_draft_of_buildConfig h
  dsimp only [Config.Draft.finish] at *
  constructor
  case threshold_pos =>
    refine Nat.pos_of_ne_zero fun hzero => ?_
    rw [Config.problem?, if_pos (UInt64.toNat_inj.mp hzero)] at hproblem
    cases hproblem
  case threshold_lt => exact UInt64.toNat_lt_size _
  case threshold_given =>
    intro d hd
    rw [Option.mem_def.mp hd] at hparallelThreshold
    cases hparallelThreshold with
    | some hn => exact Document.exists_digits_of_readSize hn
  case threshold_default =>
    intro hnone
    rw [hnone] at hparallelThreshold
    cases hparallelThreshold
    rfl
  case canonicalOrder_given =>
    intro d hd
    rw [Option.mem_def.mp hd] at hcanonicalOrder
    cases hcanonicalOrder with
    | some hb => exact ⟨_, Document.readBoolean_eq_ok.mp hb⟩
  case canonicalOrder =>
    rw [Bool.or_eq_true, or_comm]
    refine or_congr_right ?_
    generalize setting? files options 0 "canonical_order" = given at hcanonicalOrder
    cases hcanonicalOrder with
    | none => simp
    | some hb => simp [Document.readBoolean_eq_ok.mp hb]

/-! ### Settings that do not come out -/

/-- A command that needs settings stops where they are missing. -/
theorem report_of_config_error (h : (buildConfig files options).result = .error error)
    {command : Command} (hcommand : ∀ value noQuote, command ≠ .escape value noQuote) :
    report files ⟨options, command⟩ = ⟨(buildConfig files options).events, .error error⟩ := by
  have hstop {next : Config → Logged Report} : (buildConfig files options).andThen next =
      ⟨(buildConfig files options).events, .error error⟩ := by
    rw [Logged.andThen, h]
  cases command with
  | compile request => exact hstop
  | file path => exact hstop
  | escape value noQuote => exact absurd rfl (hcommand value noQuote)

/-- The last line that a failing command leaves in the log is its error. -/
theorem exists_stderr_of_error {invocation : Invocation}
    (h : (report files invocation).result = .error error) (directives : Option String) :
    ∃ logged, (program files directives invocation).stderr =
      logged ++ ("Error: " ++ error.message ++ "\n") := by
  rw [program]
  simp only [output_of_error h]
  exact ⟨_, Report.joinLines_concat _ _⟩

/-- The invocation fails with an error, and the error is the last thing that it says. -/
def LeavesWith (files : Files) (invocation : Invocation) (error : Error) : Prop :=
  ∀ directives, (program files directives invocation).exitCode = 1 ∧
    (program files directives invocation).stdout = "" ∧
    ∃ logged, (program files directives invocation).stderr =
      logged ++ ("Error: " ++ error.message ++ "\n")

theorem leavesWith_of_error {invocation : Invocation}
    (h : (report files invocation).result = .error error) : LeavesWith files invocation error := by
  intro directives
  obtain ⟨hcode, hout⟩ := program_of_error h directives
  exact ⟨hcode, hout, exists_stderr_of_error h directives⟩

/-- Settings that come out can be used, and are what the file and the switch say; they do come out
if no file is named. The JSON form of settings is read back as these settings, unless their
threshold is zero. Where no settings come out, the commands on criteria do nothing more: they log
what the settings left in the log, print nothing and leave with that error. -/
theorem buildConfig_usable (files : Files) (options : Options) :
    (∀ config, (buildConfig files options).result = .ok config →
      Settled files options config) ∧
    (options.config = none →
      (buildConfig files options).result = .ok { canonicalOrder := options.canonicalOrder }) ∧
    (∀ (path : Argument) (content : String) (config : Config), files path = .ok content →
      Document.Holds content.toList config.toJson.document →
        readConfig files path =
          if 1 ≤ config.parallelThreshold then .ok config
          else .error (.invalidArgument "parallel_threshold must be at least 1")) ∧
    ∀ error, (buildConfig files options).result = .error error →
      ∀ command, (∀ value noQuote, command ≠ .escape value noQuote) →
        report files ⟨options, command⟩ = ⟨(buildConfig files options).events, .error error⟩ ∧
          LeavesWith files ⟨options, command⟩ error := by
  refine ⟨fun config h => settled_of_buildConfig h, buildConfig_of_none,
    fun path content config hfile hholds => readConfig_of_holds hfile hholds,
    fun error h command hcommand => ?_⟩
  have hreport := report_of_config_error h hcommand
  exact ⟨hreport, leavesWith_of_error (by rw [hreport])⟩

/-- The greatest threshold, and one of zero. -/
theorem buildConfig_usable_limits :
    let path : Argument := .ofString "settings"
    let options : Options := { config := some path, canonicalOrder := true }
    let greatest : Files :=
      fun _ => .ok r#"{"x":null,"parallel_threshold":18446744073709551615}"#
    let zero : Files := fun _ => .ok (Config.toJson ⟨false, 0⟩).compact
    let error : Error := .invalidArgument "parallel_threshold must be at least 1"
    Settled greatest options ⟨true, 18446744073709551615⟩ ∧ readConfig zero path = .error error ∧
      ∀ request, LeavesWith zero ⟨options, .compile request⟩ error := by
  intro path options greatest zero error
  obtain ⟨hsettled, -⟩ := buildConfig_usable greatest options
  obtain ⟨-, -, hread, hleaves⟩ := buildConfig_usable zero options
  have hgreatest : (buildConfig greatest options).result =
      .ok ⟨true, 18446744073709551615⟩ := by
    decide +kernel
  have hzero : readConfig zero path = .error error :=
    (hread path _ ⟨false, 0⟩ rfl (Value.holds_compact _)).trans (if_neg (by decide))
  have hbuild : (buildConfig zero options).result = .error error :=
    buildConfig_of_error rfl hzero
  exact ⟨hsettled _ hgreatest, hzero, fun request =>
    (hleaves error hbuild (.compile request) nofun).2⟩

end Run

end SolrClause
