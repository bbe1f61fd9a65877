import SolrClause.CommandLine.Grammar

/-! Scanning arguments. A switch that is given after two dashes, with its value after an equals sign
if it takes one, is taken up whatever its value is, and so is an operand that starts with no dash.
What a scan has met stays in order, and the arguments that are left are scanned from there on. -/

namespace SolrClause.CommandLine

/-! ### Arguments -/

namespace Argument

theorem mapM_char? (text : List Char) : (text.map Glyph.char).mapM Glyph.char? = some text := by
  induction text with
  | nil => rfl
  | cons c text ih =>
    rw [List.map_cons, List.mapM_cons, ih]
    rfl

@[simp] theorem text?_ofString (s : String) : (ofString s).text? = some s := by
  rw [text?, ofString, ofChars, mapM_char?, Option.map_some, String.ofList_toList]

@[simp] theorem ofString_inj {s t : String} : ofString s = ofString t ↔ s = t := by
  refine ⟨fun h => ?_, congrArg ofString⟩
  have htext := congrArg text? h
  rwa [text?_ofString, text?_ofString, Option.some.injEq] at htext

/-- A switch after two dashes, with its value after an equals sign if there is one. -/
def switch (name : String) : Option String → Argument
  | none => ofString ("--" ++ name)
  | some value => ofString ("--" ++ name ++ "=" ++ value)

variable {name : List Char}

theorem splitEquals_name (h : '=' ∉ name) :
    splitEquals (name.map .char) = (name.map .char, none) := by
  induction name with
  | nil => rfl
  | cons c name ih =>
    have hc : Glyph.char c ≠ .char '=' := by
      rintro ⟨⟩
      exact h List.mem_cons_self
    rw [List.map_cons, splitEquals, if_neg hc, ih fun hname => h (List.mem_cons_of_mem c hname)]

theorem splitEquals_value (h : '=' ∉ name) (value : List Glyph) :
    splitEquals (name.map .char ++ .char '=' :: value) = (name.map .char, some ⟨value⟩) := by
  induction name with
  | nil => rfl
  | cons c name ih =>
    have hc : Glyph.char c ≠ .char '=' := by
      rintro ⟨⟩
      exact h List.mem_cons_self
    rw [List.map_cons, List.cons_append, splitEquals, if_neg hc,
      ih fun hname => h (List.mem_cons_of_mem c hname)]

theorem glyphs_switch (name : String) (value : Option String) :
    (switch name value).glyphs = .char '-' :: .char '-' :: (name.toList.map .char ++
      (value.map fun text => .char '=' :: text.toList.map .char).getD []) := by
  cases value with
  | none => simp [switch, ofString, ofChars]
  | some text => simp [switch, ofString, ofChars]

/-- A switch is taken apart at the first equals sign, so its value may hold others. -/
theorem long?_switch {name : String} (h : '=' ∉ name.toList) (value : Option String) :
    (switch name value).long? = some (ofString name, value.map ofString) := by
  rw [long?, glyphs_switch]
  cases value with
  | none =>
    show some _ = _
    simp only [Option.map_none, Option.getD_none, List.append_nil, splitEquals_name h]
    rfl
  | some text =>
    simp only [Option.map_some, Option.getD_some, splitEquals_value h]
    rfl

theorem isSeparator_switch {name : String} (h : name ≠ "") (value : Option String) :
    (switch name value).isSeparator = false := by
  have hname : name.toList ≠ [] := by simpa using h
  simp [isSeparator, glyphs_switch, hname]

section Operand

variable {text : String} (h : text.toList.head? ≠ some '-')

include h

theorem glyphs_ne_dash (rest : List Glyph) : (ofString text).glyphs ≠ .char '-' :: rest := by
  rw [ofString, ofChars]
  cases htext : text.toList with
  | nil => exact List.cons_ne_nil _ _ ∘ Eq.symm
  | cons c tail =>
    rw [htext, List.head?_cons] at h
    rw [List.map_cons]
    rintro ⟨⟩
    exact h rfl

theorem long?_of_head? : (ofString text).long? = none := by
  rw [long?]
  split
  · exact absurd ‹_› (glyphs_ne_dash h _)
  · rfl

theorem cluster?_of_head? : (ofString text).cluster? = none := by
  rw [cluster?]
  split
  · exact absurd ‹_› (glyphs_ne_dash h _)
  · rfl

theorem isSeparator_of_head? : (ofString text).isSeparator = false :=
  decide_eq_false (glyphs_ne_dash h _)

end Operand

end Argument

theorem Check.run_text (text : String) : Check.text.run (.ofString text) = .ok () := by
  rw [Check.run, Argument.text?_ofString]
  rfl

/-! ### The state of a scan -/

section Scanning

variable {ι : Type} [DecidableEq ι] {s : Scan ι} {seen : List (Occurrence ι)} {id : ι}
  {slot : Slot ι} {a : Argument}

/-- All that was met is in order, and comes to these occurrences. -/
def Scan.Met (s : Scan ι) (seen : List (Occurrence ι)) : Prop :=
  s.resolve = .ok ⟨seen, none, s.operands⟩

theorem Scan.met_checked (seen : List (Occurrence ι)) (operands : List (Slot ι)) :
    Scan.Met ⟨seen, none, operands⟩ seen := rfl

theorem Scan.Met.not_awaiting (h : s.Met seen) : s.isAwaiting = false := by
  obtain ⟨checked, pending, operands⟩ := s
  match pending with
  | none => rfl
  | some (slot, some a) => rfl
  | some (slot, none) => cases h

theorem Scan.isPresent_eq_false (h : id ∉ s.seen.map Prod.fst) : s.isPresent id = false := by
  rw [Scan.isPresent, List.any_eq_false]
  intro occurrence hmem hid
  exact h (List.mem_map.mpr ⟨occurrence, hmem, of_decide_eq_true hid⟩)

theorem Scan.addFlag_eq (h : id ∉ s.seen.map Prod.fst) : s.addFlag id = .ok (s.add id none) := by
  rw [Scan.addFlag, isPresent_eq_false h, if_neg Bool.false_ne_true]

theorem Scan.addValue_eq (h : slot.repeatable = false → slot.id ∉ s.seen.map Prod.fst)
    (hcheck : slot.check.run a = .ok ()) :
    s.addValue slot (some a) = .ok (s.add slot.id (some a)) := by
  have hsecond : (!slot.repeatable && s.isPresent slot.id) = false := by
    cases hrepeatable : slot.repeatable with
    | true => rfl
    | false => rw [isPresent_eq_false (h hrepeatable), Bool.and_false]
  rw [Scan.addValue, hsecond, if_neg Bool.false_ne_true, hcheck]
  rfl

namespace Grammar

variable {g : Grammar ι} {rest : List Argument} {name : String} {effect : Effect ι}

theorem takeBare_flag (h : s.Met seen) (hnew : id ∉ seen.map Prod.fst) :
    takeBare s (.flag id) = .ok ⟨seen ++ [(id, none)], none, s.operands⟩ := by
  rw [takeBare, h]
  exact Scan.addFlag_eq hnew

theorem takeAttached_value (h : s.Met seen)
    (hnew : slot.repeatable = false → slot.id ∉ seen.map Prod.fst)
    (hcheck : slot.check.run a = .ok ()) :
    takeAttached s (.value slot) a =
      .ok ⟨seen ++ [(slot.id, some a)], none, s.operands⟩ := by
  rw [takeAttached, h]
  exact Scan.addValue_eq hnew hcheck

omit [DecidableEq ι] in
theorem command?_eq_none (h : g.commands = []) (a : Argument) : g.command? a = none := by
  rw [command?, h]
  cases a.text? <;> rfl

/-- A known switch is taken up by what it does. -/
theorem scan_switch (hcommands : g.commands = []) (hne : name ≠ "") (hname : '=' ∉ name.toList)
    (hswitch : (g.switches.find? (·.long = name)).map Switch.effect = some effect)
    (value : Option String) :
    g.scan s false (.switch name value :: rest) =
      (match value with
        | none => takeBare s effect
        | some value => takeAttached s effect (.ofString value)) >>=
      fun s => g.scan s false rest := by
  obtain ⟨switch, hfound, rfl⟩ := Option.map_eq_some_iff.mp hswitch
  rw [scan, if_neg Bool.false_ne_true, command?_eq_none hcommands, ite_self]
  simp only [Argument.isSeparator_switch hne, Argument.long?_switch hname, takeLong,
    Argument.text?_ofString, Option.bind_some, hfound]
  cases value <;> rfl

theorem scan_flag (hcommands : g.commands = []) (hne : name ≠ "") (hname : '=' ∉ name.toList)
    (hswitch : (g.switches.find? (·.long = name)).map Switch.effect = some (.flag id))
    (h : s.Met seen) (hnew : id ∉ seen.map Prod.fst) :
    g.scan s false (.switch name none :: rest) =
      g.scan ⟨seen ++ [(id, none)], none, s.operands⟩ false rest := by
  rw [scan_switch hcommands hne hname hswitch]
  dsimp only
  rw [takeBare_flag h hnew]
  rfl

theorem scan_value (hcommands : g.commands = []) (hne : name ≠ "") (hname : '=' ∉ name.toList)
    (hswitch : (g.switches.find? (·.long = name)).map Switch.effect = some (.value slot))
    (h : s.Met seen)
    (hnew : slot.repeatable = false → slot.id ∉ seen.map Prod.fst) {value : String}
    (hcheck : slot.check.run (.ofString value) = .ok ()) :
    g.scan s false (.switch name (some value) :: rest) =
      g.scan ⟨seen ++ [(slot.id, some (.ofString value))], none, s.operands⟩ false rest := by
  rw [scan_switch hcommands hne hname hswitch]
  dsimp only
  rw [takeAttached_value h hnew hcheck]
  rfl

/-- An operand that starts with no dash has its place. -/
theorem scan_operand (hcommands : g.commands = []) {text : String}
    (htext : text.toList.head? ≠ some '-') {more : List (Slot ι)}
    (hslot : s.operands = slot :: more) (h : s.Met seen) :
    g.scan s false (.ofString text :: rest) =
      g.scan ⟨seen, some (slot, some (.ofString text)), more⟩ false rest := by
  rw [scan, if_neg Bool.false_ne_true, command?_eq_none hcommands, ite_self]
  simp only [Argument.isSeparator_of_head? htext, Argument.long?_of_head? htext,
    Argument.cluster?_of_head? htext, h.not_awaiting, takeOperand, hslot]
  rw [h]
  rfl

/-- A value that has been given its place is checked with the next argument, or at the end. -/
theorem met_pending (hnew : slot.repeatable = false → slot.id ∉ seen.map Prod.fst)
    (hcheck : slot.check.run a = .ok ()) (operands : List (Slot ι)) :
    Scan.Met ⟨seen, some (slot, some a), operands⟩ (seen ++ [(slot.id, some a)]) :=
  Scan.addValue_eq hnew hcheck

/-- The occurrences are those met once no arguments are left. -/
theorem scanAll_eq {arguments : List Argument}
    (h : g.scan g.start false arguments = g.scan s false []) (hmet : s.Met seen) :
    g.scanAll arguments = .ok seen := by
  rw [scanAll, h, scan]
  show (s.resolve >>= fun s => Except.ok s.seen) = _
  rw [hmet]
  rfl

end Grammar

/-! ### What was met -/

namespace Occurrence

theorem isPresent_iff : isPresent seen id = true ↔ ∃ value, (id, value) ∈ seen := by
  rw [isPresent, List.any_eq_true]
  constructor
  · rintro ⟨⟨id', value⟩, hmem, hid⟩
    obtain rfl : id' = id := of_decide_eq_true hid
    exact ⟨value, hmem⟩
  · rintro ⟨value, hmem⟩
    exact ⟨(id, value), hmem, decide_eq_true rfl⟩

theorem arguments_append (seen more : List (Occurrence ι)) (id : ι) :
    arguments (seen ++ more) id = arguments seen id ++ arguments more id :=
  List.filterMap_append

theorem arguments_cons_self (id : ι) (a : Argument) (seen : List (Occurrence ι)) :
    arguments ((id, some a) :: seen) id = a :: arguments seen id :=
  List.filterMap_cons_some (if_pos rfl)

theorem mem_arguments : a ∈ arguments seen id ↔ (id, some a) ∈ seen := by
  rw [arguments, List.mem_filterMap]
  constructor
  · rintro ⟨⟨id', value⟩, hmem, hvalue⟩
    dsimp only at hvalue
    split at hvalue
    · rename_i hid
      rwa [← hid, ← hvalue]
    · cases hvalue
  · intro hmem
    exact ⟨(id, some a), hmem, if_pos rfl⟩

theorem mem_texts {text : String} :
    text ∈ texts seen id ↔ ∃ a, (id, some a) ∈ seen ∧ a.text? = some text := by
  rw [texts, List.mem_filterMap]
  exact exists_congr fun a => and_congr_left fun _ => mem_arguments

end Occurrence

end Scanning

end SolrClause.CommandLine
