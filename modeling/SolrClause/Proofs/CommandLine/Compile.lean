import Mathlib.Data.List.Pairwise
import SolrClause.Proofs.CommandLine.Scan
import SolrClause.Proofs.Run

/-! Requests on the command line. The options of a request may come in any order, with the field
anywhere among them, and its values are taken as they are. What the criteria is depends only on
which options there are. -/

namespace SolrClause.CommandLine

/-- An option of a request, with its value in the same argument if it has one. -/
inductive CompileOption where
  | compare (comparison : Comparison) (value : String)
  | lower (value : String)
  | upper (value : String)
  | not
  | between
  | excludeLower
  | excludeUpper
  deriving DecidableEq

namespace CompileOption

def name : CompileOption → String
  | .compare .equals _ => "equals"
  | .compare .contains _ => "contains"
  | .compare .startsWith _ => "starts-with"
  | .compare .endsWith _ => "ends-with"
  | .compare .expression _ => "expression"
  | .lower _ => "lower"
  | .upper _ => "upper"
  | .not => "not"
  | .between => "between"
  | .excludeLower => "exclude-lower"
  | .excludeUpper => "exclude-upper"

def value? : CompileOption → Option String
  | .compare _ value => some value
  | .lower value => some value
  | .upper value => some value
  | _ => none

def id : CompileOption → CompileId
  | .compare comparison _ => .compare comparison
  | .lower _ => .lower
  | .upper _ => .upper
  | .not => .not
  | .between => .between
  | .excludeLower => .excludeLower
  | .excludeUpper => .excludeUpper

/-- The option as it is written: `--name` or `--name=value`. -/
def argument (option : CompileOption) : Argument := .switch option.name option.value?

def occurrence (option : CompileOption) : Occurrence CompileId :=
  (option.id, option.value?.map .ofString)

theorem name_ne_empty (option : CompileOption) : option.name ≠ "" := by
  rcases option with ⟨_ | _, _⟩ | _ <;> simp only [name] <;> decide

theorem equals_notMem_name (option : CompileOption) : '=' ∉ option.name.toList := by
  rcases option with ⟨_ | _, _⟩ | _ <;> simp only [name] <;> decide

/-- What the grammar does with the option. -/
def effect : CompileOption → Effect CompileId
  | .compare comparison _ =>
    .value { id := .compare comparison, check := .text, repeatable := true }
  | .lower _ => .value { id := .lower, check := .text }
  | .upper _ => .value { id := .upper, check := .text }
  | .not => .flag .not
  | .between => .flag .between
  | .excludeLower => .flag .excludeLower
  | .excludeUpper => .flag .excludeUpper

theorem effect_name (option : CompileOption) :
    (compileGrammar.switches.find? (·.long = option.name)).map Switch.effect =
      some option.effect := by
  rcases option with ⟨_ | _, _⟩ | _ <;> rfl

end CompileOption

/-- The command with a field and options before and after it. -/
def commandLine (field : String) (before after : List CompileOption) : List Argument :=
  .ofString "compile" :: (before.map (·.argument) ++ .ofString field :: after.map (·.argument))

/-- Only comparisons are given more than once. -/
def Single (options : List CompileOption) : Prop :=
  options.Pairwise fun a b => a.id = b.id → ∃ comparison, a.id = .compare comparison

/-- The options ask for a range: as such, or by either bound. -/
def AskForRange (options : List CompileOption) : Prop :=
  .between ∈ options ∨ (∃ value, .lower value ∈ options) ∨ ∃ value, .upper value ∈ options

/-- The bounds of the range are the texts that are given, and open if none is. A bound is inclusive
unless it is excluded. -/
structure Bounded (options : List CompileOption) (range : Range) : Prop where
  lower : ∀ bound, range.lower = some bound ↔ ∃ value, .lower value ∈ options ∧ bound = .text value
  upper : ∀ bound, range.upper = some bound ↔ ∃ value, .upper value ∈ options ∧ bound = .text value
  includeLower : range.includeLower = true ↔ .excludeLower ∉ options
  includeUpper : range.includeUpper = true ↔ .excludeUpper ∉ options

/-- The criteria is on the field, and has just the predicates that the options ask for. -/
structure Requested (field : String) (options : List CompileOption) (c : Criteria) : Prop where
  field : c.field = field
  negating : c.negating = true ↔ .not ∈ options
  compare : ∀ comparison scalar, .compare comparison scalar ∈ c.predicates ↔
    ∃ value, .compare comparison value ∈ options ∧ scalar = .text value
  between : ∀ range, .between range ∈ c.predicates ↔ AskForRange options ∧ Bounded options range
  unique : AskForRange options → ∃! range, .between range ∈ c.predicates

/-! ### Scanning the options -/

section Scanning

variable {option : CompileOption} {options : List CompileOption} {s : Scan CompileId}
  {seen : List (Occurrence CompileId)} {rest : List Argument}

/-- An option is taken up where it stands, unless it was given before and may be given only once. -/
theorem scan_option (h : s.Met seen)
    (hnew : option.id ∈ seen.map Prod.fst → ∃ comparison, option.id = .compare comparison) :
    compileGrammar.scan s false (option.argument :: rest) =
      compileGrammar.scan ⟨seen ++ [option.occurrence], none, s.operands⟩ false rest := by
  have hfirst (hid : ∀ comparison, option.id ≠ .compare comparison) :
      option.id ∉ seen.map Prod.fst := by
    intro hmem
    obtain ⟨comparison, hcomparison⟩ := hnew hmem
    exact hid comparison hcomparison
  have hname := option.name_ne_empty
  have hequals := option.equals_notMem_name
  have heffect := option.effect_name
  cases option with
  | compare comparison value =>
    exact Grammar.scan_value rfl hname hequals heffect h nofun (Check.run_text value)
  | lower value =>
    have hnew := hfirst nofun
    exact Grammar.scan_value rfl hname hequals heffect h (fun _ => hnew) (Check.run_text value)
  | upper value =>
    have hnew := hfirst nofun
    exact Grammar.scan_value rfl hname hequals heffect h (fun _ => hnew) (Check.run_text value)
  | not => exact Grammar.scan_flag rfl hname hequals heffect h (hfirst nofun)
  | between => exact Grammar.scan_flag rfl hname hequals heffect h (hfirst nofun)
  | excludeLower => exact Grammar.scan_flag rfl hname hequals heffect h (hfirst nofun)
  | excludeUpper => exact Grammar.scan_flag rfl hname hequals heffect h (hfirst nofun)

theorem scan_options (h : s.Met seen) (hsingle : Single options)
    (hnew : ∀ option ∈ options, option.id ∈ seen.map Prod.fst →
      ∃ comparison, option.id = .compare comparison) :
    ∃ s', s'.Met (seen ++ options.map (·.occurrence)) ∧ s'.operands = s.operands ∧
      ∀ rest, compileGrammar.scan s false (options.map (·.argument) ++ rest) =
        compileGrammar.scan s' false rest := by
  induction options generalizing s seen with
  | nil => exact ⟨s, by rwa [List.map_nil, List.append_nil], rfl, fun rest => rfl⟩
  | cons option options ih =>
    obtain ⟨hfirst, hothers⟩ := List.pairwise_cons.mp hsingle
    obtain ⟨hoption, hnew⟩ := List.forall_mem_cons.mp hnew
    have hlater : ∀ later ∈ options, later.id ∈ (seen ++ [option.occurrence]).map Prod.fst →
        ∃ comparison, later.id = .compare comparison := by
      intro later hlater hmem
      rw [List.map_append, List.mem_append, List.map_singleton, List.mem_singleton] at hmem
      rcases hmem with hmem | hid
      · exact hnew later hlater hmem
      · obtain ⟨comparison, hcomparison⟩ := hfirst later hlater hid.symm
        exact ⟨comparison, hid.trans hcomparison⟩
    obtain ⟨s', hmet, hoperands, hscan⟩ := ih (Scan.met_checked _ s.operands) hothers hlater
    refine ⟨s', ?_, hoperands, fun rest => ?_⟩
    · rwa [List.map_cons, ← List.singleton_append, ← List.append_assoc]
    · rw [List.map_cons, List.cons_append, scan_option h hoption, hscan]

end Scanning

/-! ### What the options come to -/

theorem CompileOption.id_ne_field (option : CompileOption) : option.id ≠ .field := by
  cases option <;> exact nofun

/-- What is met on a command line with a field and options. -/
def occurrences (field : String) (before after : List CompileOption) :
    List (Occurrence CompileId) :=
  before.map (·.occurrence) ++ (.field, some (.ofString field)) :: after.map (·.occurrence)

section Occurrences

variable {field : String} {before after : List CompileOption}

/-- The whole command line is scanned, wherever the field stands. -/
theorem scanAll_options (hfield : field.toList.head? ≠ some '-')
    (hsingle : Single (before ++ after)) :
    compileGrammar.scanAll
        (before.map (·.argument) ++ .ofString field :: after.map (·.argument)) =
      .ok (occurrences field before after) := by
  obtain ⟨hbefore, hafter, hacross⟩ := List.pairwise_append.mp hsingle
  have hid {options : List CompileOption} {id : CompileId}
      (h : id ∈ (options.map (·.occurrence)).map Prod.fst) :
      ∃ option ∈ options, option.id = id := by
    rw [List.map_map] at h
    exact List.mem_map.mp h
  obtain ⟨s, hmet, hoperands, hscan⟩ :=
    scan_options (Scan.met_checked [] compileGrammar.operands) hbefore fun option _ => nofun
  have hnew : CompileId.field ∉ (before.map (·.occurrence)).map Prod.fst := by
    intro hmem
    obtain ⟨option, -, hoption⟩ := hid hmem
    exact option.id_ne_field hoption
  let slot : Slot CompileId := { id := .field, check := .text }
  have hpending : Scan.Met ⟨before.map (·.occurrence), some (slot, some (.ofString field)), []⟩
      (before.map (·.occurrence) ++ [(.field, some (.ofString field))]) :=
    Grammar.met_pending (fun _ => hnew) (Check.run_text field) []
  have hlater : ∀ option ∈ after,
      option.id ∈ (before.map (·.occurrence) ++
        [(CompileId.field, some (Argument.ofString field))]).map Prod.fst →
      ∃ comparison, option.id = .compare comparison := by
    intro option hoption hmem
    rw [List.map_append, List.mem_append, List.map_singleton, List.mem_singleton] at hmem
    rcases hmem with hmem | hmem
    · obtain ⟨earlier, hearlier, hsame⟩ := hid hmem
      rw [← hsame]
      exact hacross earlier hearlier option hoption hsame
    · exact absurd hmem option.id_ne_field
  obtain ⟨s', hmet', -, hscan'⟩ := scan_options hpending hafter hlater
  refine Grammar.scanAll_eq ?_ (by rwa [List.append_assoc] at hmet')
  calc compileGrammar.scan compileGrammar.start false
        (before.map (·.argument) ++ .ofString field :: after.map (·.argument))
      = compileGrammar.scan s false (.ofString field :: after.map (·.argument)) := hscan _
    _ = compileGrammar.scan ⟨before.map (·.occurrence), some (slot, some (.ofString field)), []⟩
          false (after.map (·.argument)) := Grammar.scan_operand rfl hfield hoperands hmet
    _ = compileGrammar.scan s' false [] := by rw [← hscan', List.append_nil]

/-- What is met besides the field are the options. -/
theorem mem_occurrences {id : CompileId} {value : Option Argument} (hid : id ≠ .field) :
    (id, value) ∈ occurrences field before after ↔
      ∃ option ∈ before ++ after, option.id = id ∧ option.value?.map .ofString = value := by
  have hmap (options : List CompileOption) : (id, value) ∈ options.map (·.occurrence) ↔
      ∃ option ∈ options, option.id = id ∧ option.value?.map .ofString = value := by
    rw [List.mem_map]
    exact exists_congr fun option => and_congr_right fun _ => Prod.mk.injEq .. ▸ Iff.rfl
  have hfield : (id, value) ≠ (CompileId.field, some (Argument.ofString field)) :=
    fun h => hid (Prod.mk.inj h).1
  simp only [occurrences, List.mem_append, List.mem_cons, hmap, hfield, false_or, or_and_right,
    exists_or]

theorem mem_texts_occurrences {id : CompileId} {text : String} (hid : id ≠ .field) :
    text ∈ Occurrence.texts (occurrences field before after) id ↔
      ∃ option ∈ before ++ after, option.id = id ∧ option.value? = some text := by
  simp only [Occurrence.mem_texts, mem_occurrences hid]
  constructor
  · rintro ⟨a, ⟨option, hoption, hsame, ha⟩, htext⟩
    obtain ⟨value, hvalue, rfl⟩ := Option.map_eq_some_iff.mp ha
    rw [Argument.text?_ofString] at htext
    exact ⟨option, hoption, hsame, hvalue.trans htext⟩
  · rintro ⟨option, hoption, hsame, hvalue⟩
    refine ⟨.ofString text, ⟨option, hoption, hsame, ?_⟩, Argument.text?_ofString text⟩
    rw [hvalue, Option.map_some]

theorem isPresent_occurrences {id : CompileId} (hid : id ≠ .field) :
    Occurrence.isPresent (occurrences field before after) id = true ↔
      ∃ option ∈ before ++ after, option.id = id := by
  simp only [Occurrence.isPresent_iff, mem_occurrences hid]
  constructor
  · rintro ⟨value, option, hoption, hsame, -⟩
    exact ⟨option, hoption, hsame⟩
  · rintro ⟨option, hoption, hsame⟩
    exact ⟨_, option, hoption, hsame, rfl⟩

theorem texts_field :
    Occurrence.texts (occurrences field before after) .field = [field] := by
  have hnone (options : List CompileOption) :
      Occurrence.arguments (options.map (·.occurrence)) .field = [] := by
    rw [Occurrence.arguments, List.filterMap_map, List.filterMap_eq_nil_iff]
    intro option _
    exact if_neg option.id_ne_field
  rw [Occurrence.texts, occurrences, Occurrence.arguments_append, Occurrence.arguments_cons_self,
    hnone, hnone, List.nil_append, List.filterMap_cons_some (Argument.text?_ofString field)]
  rfl

theorem readCompile_options (hfield : field.toList.head? ≠ some '-')
    (hsingle : Single (before ++ after)) :
    readCompile (before.map (·.argument) ++ .ofString field :: after.map (·.argument)) =
      .ok (.ofOccurrences field (occurrences field before after)) := by
  rw [readCompile, scanAll_options hfield hsingle]
  show (required (Occurrence.texts (occurrences field before after) .field) >>= _) = _
  rw [texts_field]
  rfl

/-- The command line asks for the request, with the settings file of the environment if it names
one. -/
theorem read_commandLine (hfield : field.toList.head? ≠ some '-')
    (hsingle : Single (before ++ after)) {environment : Option Argument}
    (hpath : ∀ path ∈ environment, path.isEmpty = false) :
    Invocation.read environment (commandLine field before after) =
      .ok ⟨{ config := environment },
        .compile (.ofOccurrences field (occurrences field before after))⟩ := by
  have hscan : optionGrammar.scan optionGrammar.start false (commandLine field before after) =
      .ok (optionGrammar.start, some ("compile",
        before.map (·.argument) ++ .ofString field :: after.map (·.argument))) := rfl
  have hcommand : readCommand "compile"
      (before.map (·.argument) ++ .ofString field :: after.map (·.argument)) =
        .ok (.compile (.ofOccurrences field (occurrences field before after))) := by
    rw [readCommand, if_pos rfl, readCompile_options hfield hsingle]
    rfl
  rw [Invocation.read, hscan, Json.ok_bind]
  dsimp only
  rw [hcommand]
  cases environment with
  | none => rfl
  | some path =>
    have hcheck : configSlot.check.run path = .ok () :=
      if_neg (Bool.eq_false_iff.mp (hpath path rfl))
    have hvalue : optionGrammar.start.addValue configSlot (some path) =
        .ok (optionGrammar.start.add .config (some path)) :=
      Scan.addValue_eq (fun _ => List.not_mem_nil) hcheck
    show (optionGrammar.start.addValue configSlot (some path) >>= _) = _
    rw [hvalue]
    rfl

/-! ### What the request is -/

/-- An option is made up of what it is for and its value. -/
theorem CompileOption.eq_of_id {a b : CompileOption} (hid : a.id = b.id)
    (hvalue : a.value? = b.value?) : a = b := by
  cases a <;> cases b <;> simp_all [id, value?]

theorem CompileOption.value?_of_id {a b : CompileOption} (hid : a.id = b.id)
    (hvalue : b.value? = none) : a.value? = none := by
  cases a <;> cases b <;> simp_all [id, value?]

/-- Two options for the same are one, unless they are comparisons. -/
theorem Single.eq {options : List CompileOption} (h : Single options) {a b : CompileOption}
    (ha : a ∈ options) (hb : b ∈ options) (hid : a.id = b.id)
    (hcompare : ∀ comparison, a.id ≠ .compare comparison) : a = b := by
  by_contra hne
  have hsymm : Std.Symm fun a b : CompileOption =>
      a.id = b.id → ∃ comparison, a.id = .compare comparison := by
    refine ⟨fun a b hab hid => ?_⟩
    rw [hid]
    exact hab hid.symm
  obtain ⟨comparison, hcomparison⟩ := h.forall ha hb hne hid
  exact hcompare comparison hcomparison

theorem isPresent_option (option : CompileOption) (hvalue : option.value? = none) :
    Occurrence.isPresent (occurrences field before after) option.id = true ↔
      option ∈ before ++ after := by
  rw [isPresent_occurrences option.id_ne_field]
  constructor
  · rintro ⟨other, hother, hid⟩
    have hsame := (CompileOption.value?_of_id hid hvalue).trans hvalue.symm
    rwa [← CompileOption.eq_of_id hid hsame]
  · intro hoption
    exact ⟨option, hoption, rfl⟩

theorem mem_texts_option (option : CompileOption) {value : String}
    (hvalue : option.value? = some value) :
    value ∈ Occurrence.texts (occurrences field before after) option.id ↔
      option ∈ before ++ after := by
  rw [mem_texts_occurrences option.id_ne_field]
  constructor
  · rintro ⟨other, hother, hid, hsame⟩
    rwa [← CompileOption.eq_of_id hid (hsame.trans hvalue.symm)]
  · intro hoption
    exact ⟨option, hoption, rfl, hvalue⟩

/-- The one value of an option that is no comparison. -/
theorem head?_texts_option (option : CompileOption) {value : String}
    (hsingle : Single (before ++ after)) (hvalue : option.value? = some value)
    (hcompare : ∀ comparison, option.id ≠ .compare comparison) :
    (Occurrence.texts (occurrences field before after) option.id).head? = some value ↔
      option ∈ before ++ after := by
  constructor
  · intro hhead
    exact (mem_texts_option option hvalue).mp (List.mem_of_mem_head? hhead)
  · intro hoption
    have hmem := (@mem_texts_option field before after option value hvalue).mpr hoption
    cases htexts : Occurrence.texts (occurrences field before after) option.id with
    | nil =>
      rw [htexts] at hmem
      cases hmem
    | cons first rest =>
      have hfirst : first ∈ Occurrence.texts (occurrences field before after) option.id := by
        rw [htexts]
        exact List.mem_cons_self
      obtain ⟨other, hother, hid, hsame⟩ :=
        (mem_texts_occurrences option.id_ne_field).mp hfirst
      obtain rfl := hsingle.eq hoption hother hid.symm hcompare
      rw [List.head?_cons, ← hsame, hvalue]

/-- The options leave no choice of the range. -/
theorem Bounded.unique {options : List CompileOption} {range range' : Range}
    (h : Bounded options range) (h' : Bounded options range') : range = range' := by
  have hlower : range.lower = range'.lower :=
    Option.ext fun bound => (h.lower bound).trans (h'.lower bound).symm
  have hupper : range.upper = range'.upper :=
    Option.ext fun bound => (h.upper bound).trans (h'.upper bound).symm
  have hincludeLower : range.includeLower = range'.includeLower :=
    Bool.eq_iff_iff.mpr (h.includeLower.trans h'.includeLower.symm)
  have hincludeUpper : range.includeUpper = range'.includeUpper :=
    Bool.eq_iff_iff.mpr (h.includeUpper.trans h'.includeUpper.symm)
  cases range
  cases range'
  simp_all

/-- The request that the scanner makes of the options. -/
def request (field : String) (before after : List CompileOption) : CompileRequest :=
  .ofOccurrences field (occurrences field before after)

theorem lower_request (hsingle : Single (before ++ after)) {value : String} :
    (request field before after).lower = some value ↔ .lower value ∈ before ++ after :=
  head?_texts_option (.lower value) hsingle rfl nofun

theorem upper_request (hsingle : Single (before ++ after)) {value : String} :
    (request field before after).upper = some value ↔ .upper value ∈ before ++ after :=
  head?_texts_option (.upper value) hsingle rfl nofun

theorem bounded_range (hsingle : Single (before ++ after)) :
    Bounded (before ++ after) (request field before after).range where
  lower bound := by
    show (request field before after).lower.map Scalar.text = some bound ↔ _
    rw [Option.map_eq_some_iff]
    exact exists_congr fun value => and_congr (lower_request hsingle) eq_comm
  upper bound := by
    show (request field before after).upper.map Scalar.text = some bound ↔ _
    rw [Option.map_eq_some_iff]
    exact exists_congr fun value => and_congr (upper_request hsingle) eq_comm
  includeLower := by
    show (!(request field before after).excludeLower) = true ↔ _
    rw [Bool.not_eq_true', ← Bool.not_eq_true]
    exact not_congr (isPresent_option .excludeLower rfl)
  includeUpper := by
    show (!(request field before after).excludeUpper) = true ↔ _
    rw [Bool.not_eq_true', ← Bool.not_eq_true]
    exact not_congr (isPresent_option .excludeUpper rfl)

theorem hasRange_request (hsingle : Single (before ++ after)) :
    (request field before after).hasRange = true ↔ AskForRange (before ++ after) := by
  rw [CompileRequest.hasRange, Bool.or_eq_true, Bool.or_eq_true, Option.isSome_iff_exists,
    Option.isSome_iff_exists, or_assoc]
  refine or_congr (isPresent_option .between rfl) (or_congr ?_ ?_)
  · exact exists_congr fun value => lower_request hsingle
  · exact exists_congr fun value => upper_request hsingle

theorem values_request (comparison : Comparison) :
    (request field before after).values comparison =
      Occurrence.texts (occurrences field before after) (.compare comparison) := by
  cases comparison <;> rfl

theorem compare_mem_request {comparison : Comparison} {scalar : Scalar} :
    .compare comparison scalar ∈ (request field before after).criteria.predicates ↔
      ∃ value, .compare comparison value ∈ before ++ after ∧ scalar = .text value := by
  rw [CompileRequest.criteria, Criteria.ofParts, PredicateSet.mem_ofList,
    CompileRequest.mem_predicates]
  constructor
  · rintro (⟨comparison', value, hvalue, heq⟩ | ⟨-, heq⟩)
    · cases heq
      rw [values_request] at hvalue
      exact ⟨value, (mem_texts_option (.compare comparison value) rfl).mp hvalue, rfl⟩
    · cases heq
  · rintro ⟨value, hoption, rfl⟩
    refine .inl ⟨comparison, value, ?_, rfl⟩
    rw [values_request]
    exact (mem_texts_option (.compare comparison value) rfl).mpr hoption

theorem between_mem_request (hsingle : Single (before ++ after)) {range : Range} :
    .between range ∈ (request field before after).criteria.predicates ↔
      AskForRange (before ++ after) ∧ Bounded (before ++ after) range := by
  rw [CompileRequest.criteria, Criteria.ofParts, PredicateSet.mem_ofList,
    CompileRequest.mem_predicates, hasRange_request hsingle]
  constructor
  · rintro (⟨comparison, value, -, heq⟩ | ⟨hask, heq⟩)
    · cases heq
    · cases heq
      exact ⟨hask, bounded_range hsingle⟩
  · rintro ⟨hask, hbounded⟩
    exact .inr ⟨hask, congrArg Predicate.between (hbounded.unique (bounded_range hsingle))⟩

/-- The criteria of the request is the one that the options ask for. -/
theorem requested_request (hsingle : Single (before ++ after)) :
    Requested field (before ++ after) (request field before after).criteria where
  field := rfl
  negating := isPresent_option .not rfl
  compare _ _ := compare_mem_request
  between _ := between_mem_request hsingle
  unique hask :=
    ⟨(request field before after).range,
      (between_mem_request hsingle).mpr ⟨hask, bounded_range hsingle⟩,
      fun _ hrange => ((between_mem_request hsingle).mp hrange).2.unique (bounded_range hsingle)⟩

end Occurrences

/-! ### Options in another order -/

section Reordered

variable {field : String} {options options' : List CompileOption} {c c' : Criteria}

theorem Single.perm (h : Single options) (hperm : options'.Perm options) : Single options' := by
  refine hperm.symm.pairwise h ?_
  intro a b hab hid
  rw [hid]
  exact hab hid.symm

theorem AskForRange.perm (hperm : options'.Perm options) :
    AskForRange options' ↔ AskForRange options := by
  simp only [AskForRange, hperm.mem_iff]

theorem Bounded.perm {range : Range} (hperm : options'.Perm options) (h : Bounded options range) :
    Bounded options' range where
  lower bound := by simp only [hperm.mem_iff, h.lower]
  upper bound := by simp only [hperm.mem_iff, h.upper]
  includeLower := by simp only [hperm.mem_iff, h.includeLower]
  includeUpper := by simp only [hperm.mem_iff, h.includeUpper]

/-- The criteria depends only on which options there are. -/
theorem Requested.same (h : Requested field options c) (h' : Requested field options' c')
    (hperm : options'.Perm options) : c.Same c' := by
  refine ⟨h.field.trans h'.field.symm, ?_, PredicateSet.sameMembers_iff.mpr fun p => ?_⟩
  · rw [Bool.eq_iff_iff, h.negating, h'.negating, hperm.mem_iff]
  · cases p with
    | compare comparison scalar => simp only [h.compare, h'.compare, hperm.mem_iff]
    | between range =>
      rw [h.between, h'.between, AskForRange.perm hperm]
      exact and_congr_right fun _ => ⟨Bounded.perm hperm, Bounded.perm hperm.symm⟩

end Reordered

/-- A command line with a field and options is read whatever the values are, and wherever the field
stands. The criteria is on the field, and has just the predicates that the options ask for. With the
options in another order and the field in another place it is the same criteria, and has the same
canonical clause. -/
theorem read_compile_any_order {field : String} {before after before' after' : List CompileOption}
    (hfield : field.toList.head? ≠ some '-') (hsingle : Single (before ++ after))
    (hperm : (before' ++ after').Perm (before ++ after)) :
    ∃ r r' : CompileRequest,
      (∀ environment : Option Argument, (∀ path ∈ environment, path.isEmpty = false) →
        Invocation.read environment (commandLine field before after) =
          .ok ⟨{ config := environment }, .compile r⟩ ∧
        Invocation.read environment (commandLine field before' after') =
          .ok ⟨{ config := environment }, .compile r'⟩) ∧
      Requested field (before ++ after) r.criteria ∧
      r.criteria.Same r'.criteria ∧
      ∀ config : Compiler.Config, config.canonicalOrder = true → ∀ order order' : List Predicate,
        order.Perm r.criteria.predicates.toList → order'.Perm r'.criteria.predicates.toList →
        Compiler.clauseOf config r.criteria.field r.criteria.negating order =
          Compiler.clauseOf config r'.criteria.field r'.criteria.negating order' := by
  have hsingle' := hsingle.perm hperm
  have hrequested := @requested_request field before after hsingle
  have hsame := hrequested.same (@requested_request field before' after' hsingle') hperm
  refine ⟨request field before after, request field before' after', fun environment hpath => ?_,
    hrequested, hsame, fun config hconfig order order' horder horder' => ?_⟩
  · exact ⟨read_commandLine hfield hsingle hpath, read_commandLine hfield hsingle' hpath⟩
  · exact Compiler.clauseOf_eq_of_same hsame hconfig horder horder'

/-- An empty field among values that start with a dash, hold an equals sign or are empty, and the
same options the other way round. -/
theorem read_compile_any_order_dashes :
    ∃ r r' : CompileRequest,
      Invocation.read none (["compile", "--equals=-x", "--lower=", "", "--not",
        "--expression=a=b c", "--exclude-upper"].map .ofString) = .ok ⟨{}, .compile r⟩ ∧
      Invocation.read none (["compile", "", "--exclude-upper", "--expression=a=b c", "--not",
        "--lower=", "--equals=-x"].map .ofString) = .ok ⟨{}, .compile r'⟩ ∧
      r.criteria.negating = true ∧
      .compare .expression (.text "a=b c") ∈ r.criteria.predicates ∧
      .between ⟨some (.text ""), none, true, false⟩ ∈ r.criteria.predicates ∧
      r.criteria.Same r'.criteria := by
  let before : List CompileOption := [.compare .equals "-x", .lower ""]
  let after : List CompileOption := [.not, .compare .expression "a=b c", .excludeUpper]
  have hsingle : Single (before ++ after) := by
    simp [Single, before, after, CompileOption.id]
  have hperm : ([] ++ (before ++ after).reverse).Perm (before ++ after) := List.reverse_perm _
  obtain ⟨r, r', hread, hrequested, hsame, -⟩ :=
    @read_compile_any_order "" before after [] (before ++ after).reverse (by decide) hsingle hperm
  obtain ⟨hfirst, hsecond⟩ := hread none nofun
  refine ⟨r, r', hfirst, hsecond, hrequested.negating.mpr (by decide), ?_, ?_, hsame⟩
  · exact (hrequested.compare _ _).mpr ⟨_, by decide, rfl⟩
  · refine (hrequested.between _).mpr ⟨.inr (.inl ⟨"", by decide⟩), ?_⟩
    constructor <;> simp [before, after, eq_comm]

end SolrClause.CommandLine
