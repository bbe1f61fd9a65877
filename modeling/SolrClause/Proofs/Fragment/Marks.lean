import SolrClause.Proofs.Fragment
import SolrClause.Proofs.Query.Stance

/-! The characters of a fragment that mean something to a reader. Asterisks, brackets and spaces
that stand outside quotes and after no backslash come from the operation of a predicate, at places
that the operation fixes. None comes from a scalar. -/

namespace SolrClause

open Query

namespace Literal

/-- What a reader can meet in a literal token: outside quotes there is no space, and a reserved
character comes after a backslash, or is a backslash or a quote itself. -/
inductive Tame : Stance × Char → Prop where
  | quoted {s : Stance} {c : Char} (hs : s.quoted = true) : Tame (s, c)
  | escaped {s : Stance} {c : Char} (hs : s.escaped = true) (hc : c ≠ ' ') : Tame (s, c)
  | backslash {s : Stance} : Tame (s, '\\')
  | quote {s : Stance} : Tame (s, '\"')
  | plain {s : Stance} {c : Char} (hc : isReserved c = false) (hspace : c ≠ ' ') : Tame (s, c)

variable {s : Stance} {c : Char} {text rest : List Char}

theorem ne_space_of_paired (hc : c ∈ pairedChars) : c ≠ ' ' := by
  rintro rfl
  exact absurd hc (by decide)

theorem tame_backslash (hs : s.escaped = false) (hc : c ≠ ' ')
    (h : ∀ reading ∈ readings s rest, Tame reading) :
    ∀ reading ∈ readings s ('\\' :: c :: rest), Tame reading := by
  rw [readings_backslash hs]
  exact List.forall_mem_cons.mpr ⟨.backslash, List.forall_mem_cons.mpr ⟨.escaped rfl hc, h⟩⟩

theorem tame_escapeChars (hs : s.escaped = false) (hspace : s.quoted = false → ' ' ∉ text) :
    ∀ reading ∈ readings s (escapeChars text), Tame reading := by
  induction text using scan_induction with
  | nil => exact fun _ h => absurd h List.not_mem_nil
  | pair c rest hc ih =>
    have hne := ne_space_of_paired hc
    rw [escapeChars_pair hc]
    exact tame_backslash hs hne (tame_backslash hs hne (ih fun hq hm => hspace hq (by simp [hm])))
  | reserved c rest hc ih =>
    rw [escapeChars_reserved hc]
    exact tame_backslash hs (ne_of_reserved hc rfl) (ih fun hq hm => hspace hq (by simp [hm]))
  | plain c rest hc hpair ih =>
    have hback : c ≠ '\\' := ne_backslash_of_not_reserved hc
    have hquote : c ≠ '\"' := (ne_of_reserved rfl hc).symm
    have hplain : Tame (s, c) := by
      cases hq : s.quoted with
      | true => exact .quoted hq
      | false =>
        refine .plain hc ?_
        rintro rfl
        exact hspace hq (by simp)
    rw [escapeChars_plain hc hpair, readings_plain hs hback hquote]
    exact List.forall_mem_cons.mpr ⟨hplain, ih fun hq hm => hspace hq (by simp [hm])⟩

/-- A reader that starts outside quotes meets nothing else in a literal token. -/
theorem tame_sanitizeChars (text : List Char) :
    ∀ reading ∈ readings .outside (sanitizeChars text), Tame reading := by
  rw [sanitizeChars]
  split
  · rw [List.cons_append, readings_quote rfl, readings_append]
    refine List.forall_mem_cons.mpr ⟨.quote, List.forall_mem_append.mpr ⟨?_, ?_⟩⟩
    · exact tame_escapeChars rfl fun h => absurd h (by decide)
    · exact List.forall_mem_singleton.mpr .quote
  · rename_i hneeds
    exact tame_escapeChars rfl fun _ => space_not_mem (by simpa using hneeds)

/-- A literal token leaves a reader outside quotes. -/
theorem after_sanitizeChars (text : List Char) : after .outside (sanitizeChars text) = .outside :=
  after_of_pass (p := .free) (q := .free) (pass_sanitizeChars rfl rfl (.inl rfl))

end Literal

namespace Fragment

variable {picks : Stance × Char → Bool}

/-- A pick that passes over everything that a reader can meet in a literal token. -/
def Skips (picks : Stance × Char → Bool) : Prop :=
  ∀ reading, Literal.Tame reading → picks reading = false

theorem skips_isActive {marks : List Char}
    (hmarks : ∀ c ∈ marks, Literal.isReserved c ∧ c ≠ '\\' ∧ c ≠ '\"') :
    Skips (isActive marks) := by
  intro reading htame
  rw [Bool.eq_false_iff]
  intro hactive
  obtain ⟨houtside, hc⟩ : reading.1 = .outside ∧ reading.2 ∈ marks := by
    simpa [isActive] using hactive
  have hescaped : reading.1.escaped = false := by rw [houtside]; rfl
  have hquoted : reading.1.quoted = false := by rw [houtside]; rfl
  obtain ⟨hreserved, hback, hquote⟩ := hmarks _ hc
  cases htame with
  | quoted hs => exact absurd hs (ne_true_of_eq_false hquoted)
  | escaped hs _ => exact absurd hs (ne_true_of_eq_false hescaped)
  | backslash => exact hback rfl
  | quote => exact hquote rfl
  | plain hplain _ => exact Literal.ne_of_reserved hreserved hplain rfl

theorem skips_isUnquoted_space : Skips (isUnquoted ' ') := by
  intro reading htame
  cases htame with
  | quoted hquoted => simp [isUnquoted, hquoted]
  | escaped _ hspace => simp [isUnquoted, hspace]
  | backslash => simp [isUnquoted]
  | quote => simp [isUnquoted]
  | plain _ hspace => simp [isUnquoted, hspace]

/-- Nothing is picked in a literal token, and a reader goes on after it as it started. -/
theorem findIdxs_literal (h : Skips picks) (value : Scalar) (rest : List Char) (n : Nat) :
    (readings .outside ((literal value).toList ++ rest)).findIdxs picks n =
      (readings .outside rest).findIdxs picks (n + (literal value).toList.length) := by
  rw [toList_literal, readings_append, Literal.after_sanitizeChars, List.findIdxs_append,
    List.findIdxs_eq_nil_iff.mpr fun r hr => h r (Literal.tame_sanitizeChars _ r hr),
    List.nil_append, length_readings]

/-- The position of a character that is met outside quotes and after no backslash, if it is
picked. -/
def pickAt (picks : Stance × Char → Bool) (n : Nat) (c : Char) : List Nat :=
  if picks (.outside, c) then [n] else []

/-- The position of the asterisk of an open bound, if it is picked. -/
def pickBound (picks : Stance × Char → Bool) (n : Nat) (bound : Option Scalar) : List Nat :=
  if bound.isNone then pickAt picks n '*' else []

theorem pickAt_plain (h : Skips picks) {c : Char} (hc : Literal.isReserved c = false)
    (hspace : c ≠ ' ') (n : Nat) : pickAt picks n c = [] := by
  rw [pickAt, h _ (.plain hc hspace)]
  rfl

theorem findIdxs_plain {c : Char} (hback : c ≠ '\\') (hquote : c ≠ '\"') (rest : List Char)
    (n : Nat) :
    (readings .outside (c :: rest)).findIdxs picks n =
      pickAt picks n c ++ (readings .outside rest).findIdxs picks (n + 1) := by
  rw [readings_plain rfl hback hquote, List.findIdxs_cons, pickAt]
  split <;> rfl

theorem findIdxs_ofBound (h : Skips picks) (bound : Option Scalar) (rest : List Char) (n : Nat) :
    (readings .outside ((ofBound bound).toList ++ rest)).findIdxs picks n =
      pickBound picks n bound ++
        (readings .outside rest).findIdxs picks (n + (ofBound bound).toList.length) := by
  cases bound with
  | none => exact findIdxs_plain (by decide) (by decide) rest n
  | some value => exact findIdxs_literal h value rest n

/-- The position of the last character of a range before the closing bracket. -/
def lastInner (range : Range) : Nat :=
  (ofBound range.lower).toList.length + (4 + (ofBound range.upper).toList.length)

/-- What can be picked in a range: its brackets, the spaces around the word between the bounds, and
the asterisks of open bounds. -/
theorem findIdxs_ofRange (h : Skips picks) (range : Range) :
    (readings .outside (ofRange range).toList).findIdxs picks =
      pickAt picks 0 (if range.includeLower then '[' else '{') ++
      (pickBound picks 1 range.lower ++
      (pickAt picks (1 + (ofBound range.lower).toList.length) ' ' ++
      (pickAt picks (1 + ((ofBound range.lower).toList.length + 3)) ' ' ++
      (pickBound picks (1 + ((ofBound range.lower).toList.length + 4)) range.upper ++
      pickAt picks (1 + lastInner range) (if range.includeUpper then ']' else '}'))))) := by
  have hT (n : Nat) : pickAt picks n 'T' = [] := pickAt_plain h (by decide) (by decide) n
  have hO (n : Nat) : pickAt picks n 'O' = [] := pickAt_plain h (by decide) (by decide) n
  rw [toList_ofRange, innerChars, List.cons_append, List.append_assoc,
    findIdxs_plain (by split <;> decide) (by split <;> decide), findIdxs_ofBound h]
  simp only [List.cons_append]
  rw [findIdxs_plain (c := ' ') (by decide) (by decide), findIdxs_plain (by decide) (by decide), hT,
    findIdxs_plain (by decide) (by decide), hO, findIdxs_plain (by decide) (by decide),
    findIdxs_ofBound h, findIdxs_plain (by split <;> decide) (by split <;> decide)]
  simp [lastInner, Nat.add_assoc]

/-! ### Marks of a fragment -/

/-- Where a fragment has asterisks outside quotes and after no backslash. -/
def wildcards (p : Predicate) : List Nat := activePositions ['*'] (ofPredicate p).toList

/-- Where a fragment has brackets outside quotes and after no backslash. -/
def brackets (p : Predicate) : List Nat :=
  activePositions ['[', ']', '{', '}'] (ofPredicate p).toList

/-- Where a fragment has spaces outside quotes. -/
def gaps (p : Predicate) : List Nat := unquotedPositions ' ' (ofPredicate p).toList

theorem skips_wildcard : Skips (isActive ['*']) :=
  skips_isActive fun c hc => by
    obtain rfl := List.mem_singleton.mp hc
    decide

theorem skips_bracket : Skips (isActive ['[', ']', '{', '}']) :=
  skips_isActive fun c hc => by
    simp only [List.mem_cons, List.not_mem_nil, or_false] at hc
    rcases hc with rfl | rfl | rfl | rfl <;> decide

theorem wildcards_equals (x : Scalar) : wildcards (.compare .equals x) = [] := by
  have h := findIdxs_literal skips_wildcard x [] 0
  rwa [List.append_nil] at h

theorem wildcards_startsWith (x : Scalar) :
    wildcards (.compare .startsWith x) = [(literal x).toList.length] := by
  rw [wildcards, activePositions, ofPredicate, toList_startsWith, findIdxs_literal skips_wildcard]
  simp [readings, isActive]

theorem wildcards_endsWith (x : Scalar) : wildcards (.compare .endsWith x) = [0] := by
  have h := findIdxs_literal skips_wildcard x [] 1
  rw [List.append_nil] at h
  rw [wildcards, activePositions, ofPredicate, toList_endsWith,
    findIdxs_plain (by decide) (by decide), h]
  rfl

theorem wildcards_contains (x : Scalar) :
    wildcards (.compare .contains x) = [0, (literal x).toList.length + 1] := by
  rw [wildcards, activePositions, ofPredicate, toList_contains,
    findIdxs_plain (by decide) (by decide), findIdxs_literal skips_wildcard]
  simp [readings, isActive, pickAt, Nat.add_comm]

theorem wildcards_between (range : Range) :
    wildcards (.between range) =
      (if range.lower.isNone then [1] else []) ++
      (if range.upper.isNone then [lastInner range] else []) := by
  have hstars : wildcards (.between range) =
      (if range.lower.isNone then [1] else []) ++
      (if range.upper.isNone then [1 + ((ofBound range.lower).toList.length + 4)] else []) := by
    rw [wildcards, activePositions, ofPredicate, findIdxs_ofRange skips_wildcard]
    cases range.includeLower <;> cases range.includeUpper <;> simp [pickAt, pickBound, isActive]
  rw [hstars]
  cases hupper : range.upper with
  | none =>
    have hstar : (ofBound none).toList.length = 1 := rfl
    simp [lastInner, hupper, hstar]
    omega
  | some value => simp

theorem brackets_between (range : Range) :
    brackets (.between range) = [0, lastInner range + 1] := by
  rw [brackets, activePositions, ofPredicate, findIdxs_ofRange skips_bracket]
  cases range.includeLower <;> cases range.includeUpper <;>
    simp [pickAt, pickBound, isActive, Nat.add_comm]

theorem gaps_between (range : Range) :
    gaps (.between range) =
      [1 + (ofBound range.lower).toList.length, 1 + ((ofBound range.lower).toList.length + 3)] := by
  rw [gaps, unquotedPositions, ofPredicate, findIdxs_ofRange skips_isUnquoted_space]
  cases range.includeLower <;> cases range.includeUpper <;>
    simp [pickAt, pickBound, isUnquoted, Stance.outside]

/-! ### Parts of a range -/

theorem length_ofRange (range : Range) : (ofRange range).length = lastInner range + 2 := by
  rw [← String.length_toList, toList_ofRange]
  simp [innerChars, lastInner]
  omega

theorem take_ofRange (range : Range) :
    (ofRange range).toList.take (1 + (ofBound range.lower).toList.length) =
      (if range.includeLower then '[' else '{') :: (ofBound range.lower).toList := by
  rw [toList_ofRange, innerChars, Nat.add_comm]
  simp

theorem drop_ofRange (range : Range) :
    (ofRange range).toList.drop (1 + (ofBound range.lower).toList.length) =
      rangeSeparator.toList ++ (ofBound range.upper).toList ++
        [if range.includeUpper then ']' else '}'] := by
  rw [toList_ofRange, innerChars, Nat.add_comm]
  simp [rangeSeparator]

/-- The marks of a fragment come from its operation, and none from a scalar. The wildcards of a
comparison stand where the operation puts them. A range has a wildcard for each open bound, its two
brackets, as its flags say, and its first space outside quotes ends the lower bound. -/
theorem marks_of_operation :
    (∀ x : Scalar,
      wildcards (.compare .equals x) = [] ∧
      (∃ last, (ofPredicate (.compare .startsWith x)).length = last + 1 ∧
        wildcards (.compare .startsWith x) = [last]) ∧
      wildcards (.compare .endsWith x) = [0] ∧
      ∃ last, (ofPredicate (.compare .contains x)).length = last + 1 ∧
        wildcards (.compare .contains x) = [0, last]) ∧
    ∀ range : Range,
      (∃ last, (ofPredicate (.between range)).length = last + 2 ∧
        wildcards (.between range) =
          (if range.lower.isNone then [1] else []) ++ (if range.upper.isNone then [last] else []) ∧
        brackets (.between range) = [0, last + 1]) ∧
      ∃ gap later, gaps (.between range) = gap :: later ∧
        (ofPredicate (.between range)).toList.take gap =
          (if range.includeLower then '[' else '{') :: (ofBound range.lower).toList ∧
        (ofPredicate (.between range)).toList.drop gap =
          rangeSeparator.toList ++ (ofBound range.upper).toList ++
            [if range.includeUpper then ']' else '}'] := by
  constructor
  · intro x
    refine ⟨wildcards_equals x, ⟨_, ?_, wildcards_startsWith x⟩, wildcards_endsWith x, _, ?_,
      wildcards_contains x⟩
    · rw [← String.length_toList, ofPredicate, toList_startsWith, List.length_append]
      rfl
    · rw [← String.length_toList, ofPredicate, toList_contains, List.length_cons,
        List.length_append]
      rfl
  · intro range
    exact ⟨⟨lastInner range, length_ofRange range, wildcards_between range,
      brackets_between range⟩, _, _, gaps_between range, take_ofRange range, drop_ofRange range⟩

/-- A phrase with an asterisk, a bracket and the word between two bounds, as a lower bound. -/
example : wildcards (.between ⟨some (.text "a* TO ]"), none, true, false⟩) = [16] ∧
    brackets (.between ⟨some (.text "a* TO ]"), none, true, false⟩) = [0, 17] ∧
    gaps (.between ⟨some (.text "a* TO ]"), none, true, false⟩) = [12, 15] := by
  decide

end Fragment

end SolrClause
