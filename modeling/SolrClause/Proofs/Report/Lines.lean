import SolrClause.Proofs.Clause.LineBreaks
import SolrClause.Run

/-! Clauses line by line. The report for people ends each clause with a line break, and taking the
text apart at its line breaks gives the clauses back exactly if none of them has one of its own. -/

namespace SolrClause

/-- The parts of a text between its marks hold none. -/
theorem mark_notMem_of_mem_splitOn {mark : Char} {part text : List Char}
    (h : part ∈ text.splitOn mark) : mark ∉ part := by
  induction text generalizing part with
  | nil =>
    rw [List.splitOn_nil, List.mem_singleton] at h
    rw [h]
    exact List.not_mem_nil
  | cons c text ih =>
    obtain ⟨first, parts, hparts⟩ := List.exists_cons_of_ne_nil (List.splitOn_ne_nil mark text)
    rw [List.splitOn_cons_eq_if_modifyHead, hparts] at h
    rw [hparts] at ih
    split at h
    · rcases List.mem_cons.mp h with rfl | h
      · exact List.not_mem_nil
      · exact ih h
    · rename_i hc
      rcases List.mem_cons.mp h with rfl | h
      · have hne : mark ≠ c := fun heq => hc (beq_iff_eq.mpr heq.symm)
        exact List.not_mem_cons_of_ne_of_not_mem hne (ih List.mem_cons_self)
      · exact ih (List.mem_cons_of_mem first h)

namespace Report

theorem toList_joinLines (lines : List String) :
    (joinLines lines).toList = ['\n'].intercalate (lines.map String.toList ++ [[]]) := by
  induction lines with
  | nil => rfl
  | cons line lines ih =>
    have hcons : joinLines (line :: lines) = line ++ "\n" ++ joinLines lines := String.join_cons
    have hne : lines.map String.toList ++ [[]] ≠ [] := by simp
    rw [hcons, String.toList_append, String.toList_append, ih, List.map_cons, List.cons_append,
      List.intercalate_cons_of_ne_nil hne]
    rfl

/-- Lines are given back exactly if none of them holds a line break. After the last line break there
is nothing. -/
theorem splitOn_joinLines_iff {lines : List String} :
    (joinLines lines).toList.splitOn '\n' = lines.map String.toList ++ [[]] ↔
      ∀ line ∈ lines, '\n' ∉ line.toList := by
  constructor
  · intro hsplit line hline
    have hpart : line.toList ∈ (joinLines lines).toList.splitOn '\n' := by
      rw [hsplit]
      exact List.mem_append_left _ (List.mem_map_of_mem hline)
    exact mark_notMem_of_mem_splitOn hpart
  · intro h
    rw [toList_joinLines]
    apply List.splitOn_intercalate
    · intro part hpart
      rcases List.mem_append.mp hpart with hpart | hpart
      · obtain ⟨line, hline, rfl⟩ := List.mem_map.mp hpart
        exact h line hline
      · rw [List.mem_singleton.mp hpart]
        exact List.not_mem_nil
    · simp

/-- The text for people gives the clauses of criteria back, one line for each of them and in their
order, exactly if no field and no text in the criteria has a line break. -/
theorem splitOn_human_iff (config : Compiler.Config) (criteria : List Criteria) (pretty : Bool) :
    (text (.clauses (Run.paired criteria (Compiler.clauses config criteria))) .human
        pretty).toList.splitOn '\n' =
        (Compiler.clauses config criteria).map String.toList ++ [[]] ↔
      ∀ c ∈ criteria, c.OneLine := by
  have htext : text (.clauses (Run.paired criteria (Compiler.clauses config criteria))) .human
      pretty = joinLines (criteria.map (Compiler.clause config)) := by
    rw [text, humanLines, Compiler.clauses, Run.paired_clausesBy, List.map_map]
    rfl
  rw [htext, Compiler.clauses_eq, splitOn_joinLines_iff, List.forall_mem_map]
  constructor
  · exact fun h c hc => Compiler.newline_notMem_clause_iff.mp (h c hc)
  · exact fun h c hc => Compiler.newline_notMem_clause_iff.mpr (h c hc)

/-- A value over two lines makes two lines of its clause. -/
theorem exists_splitOn_human_ne :
    ¬∀ (config : Compiler.Config) (criteria : List Criteria),
      (text (.clauses (Run.paired criteria (Compiler.clauses config criteria))) .human
          false).toList.splitOn '\n' =
        (Compiler.clauses config criteria).map String.toList ++ [[]] := by
  intro h
  have hlines := h {} [.ofParts "f" false [.compare .equals (.text "a\nb")]]
  exact absurd hlines (by decide)

end Report

end SolrClause
