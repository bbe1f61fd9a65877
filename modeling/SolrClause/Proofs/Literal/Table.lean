import SolrClause.Literal

/-! The token table and the escaper. A scan takes a token of the table wherever one starts, and at
no place can it choose between two; the escaper, which looks at one character and the next, puts its
backslashes before the characters of exactly these tokens. -/

namespace SolrClause.Literal

/-- A step of a scan: a token of the table, or a character at which none starts. -/
inductive Piece where
  | token (chars : List Char)
  | plain (c : Char)
  deriving DecidableEq, Repr

namespace Piece

/-- The characters that the step takes. -/
def source : Piece → List Char
  | token chars => chars
  | plain c => [c]

/-- A backslash before each character of a token, and any other character as it is. -/
def escaped : Piece → List Char
  | token chars => chars.flatMap fun c => ['\\', c]
  | plain c => [c]

/-- The characters that a token covers. -/
def covered : Piece → List Char
  | token chars => chars
  | plain _ => []

end Piece

/-- The token of the table that a text starts with, if one does. -/
def tokenAt? (text : List Char) : Option (List Char) :=
  reservedTokens.find? fun token => token.isPrefixOf text

/-- From left to right, the token that starts at a place and then what comes after it, or a single
character where none starts. -/
def scan : List Char → List Piece
  | [] => []
  | c :: rest =>
    match tokenAt? (c :: rest) with
    | some token => .token token :: scan (rest.drop (token.length - 1))
    | none => .plain c :: scan rest
  termination_by text => text.length

/-- The characters of a text that the tokens of its scan cover. -/
def coveredChars (text : List Char) : List Char := (scan text).flatMap Piece.covered

variable {c : Char} {token text rest : List Char}

/-! ### The table -/

/-- The table holds the characters that are reserved on their own, and the others doubled. -/
theorem reservedTokens_perm :
    reservedTokens.Perm (reservedChars.map (fun c => [c]) ++ pairedChars.map fun c => [c, c]) := by
  decide

theorem mem_reservedTokens :
    token ∈ reservedTokens ↔
      (∃ c, isReserved c ∧ token = [c]) ∨ ∃ c ∈ pairedChars, token = [c, c] := by
  rw [reservedTokens_perm.mem_iff, List.mem_append, List.mem_map, List.mem_map]
  simp only [isReserved, List.contains_iff_mem, eq_comm (a := token)]

theorem single_mem_reservedTokens (hc : isReserved c) : [c] ∈ reservedTokens :=
  mem_reservedTokens.mpr (.inl ⟨c, hc, rfl⟩)

theorem pair_mem_reservedTokens (hc : c ∈ pairedChars) : [c, c] ∈ reservedTokens :=
  mem_reservedTokens.mpr (.inr ⟨c, hc, rfl⟩)

/-- No token of the table is the beginning of another. -/
theorem eq_of_isPrefix : ∀ s ∈ reservedTokens, ∀ t ∈ reservedTokens, s <+: t → s = t := by
  decide

/-- Tokens that start at one place are the same. -/
theorem token_unique {s t : List Char} (hs : s ∈ reservedTokens) (ht : t ∈ reservedTokens)
    (h : s <+: text) (h' : t <+: text) : s = t := by
  rcases List.prefix_or_prefix_of_prefix h h' with hst | hts
  · exact eq_of_isPrefix s hs t ht hst
  · exact (eq_of_isPrefix t ht s hs hts).symm

/-- At most one token of the table starts a text. -/
theorem countP_isPrefixOf_le_one (text : List Char) :
    reservedTokens.countP (fun token => token.isPrefixOf text) ≤ 1 := by
  have htable : reservedTokens.Nodup := by decide
  have hnodup := htable.filter fun token => token.isPrefixOf text
  have hunique : ∀ s ∈ reservedTokens.filter (fun token => token.isPrefixOf text),
      ∀ t ∈ reservedTokens.filter (fun token => token.isPrefixOf text), s = t := by
    intro s hs t ht
    obtain ⟨hs, hsprefix⟩ := List.mem_filter.mp hs
    obtain ⟨ht, htprefix⟩ := List.mem_filter.mp ht
    exact token_unique hs ht (List.isPrefixOf_iff_prefix.mp hsprefix)
      (List.isPrefixOf_iff_prefix.mp htprefix)
  rw [List.countP_eq_length_filter]
  cases hfound : reservedTokens.filter fun token => token.isPrefixOf text with
  | nil => exact Nat.zero_le 1
  | cons s tail =>
    cases tail with
    | nil => exact Nat.le_refl 1
    | cons t tail =>
      rw [hfound] at hnodup hunique
      have hst : s = t := hunique s (by simp) t (by simp)
      simp [hst] at hnodup

theorem tokenAt?_eq_some (ht : token ∈ reservedTokens) (h : token <+: text) :
    tokenAt? text = some token := by
  cases hat : tokenAt? text with
  | none =>
    rw [tokenAt?, List.find?_eq_none] at hat
    exact absurd (List.isPrefixOf_iff_prefix.mpr h) (hat token ht)
  | some found =>
    have hprefix := List.find?_some hat
    have hmem := List.mem_of_find?_eq_some hat
    rw [token_unique hmem ht (List.isPrefixOf_iff_prefix.mp hprefix) h]

theorem tokenAt?_eq_none (h : ∀ t ∈ reservedTokens, ¬t <+: text) : tokenAt? text = none := by
  rw [tokenAt?, List.find?_eq_none]
  exact fun t ht hprefix => h t ht (List.isPrefixOf_iff_prefix.mp hprefix)

/-! ### The scan -/

@[simp] theorem scan_nil : scan [] = [] := by rw [scan]

theorem scan_token (ht : token ∈ reservedTokens) (rest : List Char) :
    scan (token ++ rest) = .token token :: scan rest := by
  have hat : tokenAt? (token ++ rest) = some token :=
    tokenAt?_eq_some ht (List.prefix_append token rest)
  cases token with
  | nil => exact absurd ht (by decide)
  | cons c token =>
    rw [List.cons_append] at hat ⊢
    rw [scan, hat]
    simp

theorem scan_pair (hc : c ∈ pairedChars) (rest : List Char) :
    scan (c :: c :: rest) = .token [c, c] :: scan rest :=
  scan_token (pair_mem_reservedTokens hc) rest

theorem scan_reserved (hc : isReserved c) (rest : List Char) :
    scan (c :: rest) = .token [c] :: scan rest :=
  scan_token (single_mem_reservedTokens hc) rest

/-- No token starts at a character that is neither reserved on its own nor the first of a pair. -/
theorem not_isPrefix_cons (hc : isReserved c = false)
    (hpair : c ∈ pairedChars → rest.head? ≠ some c) (ht : token ∈ reservedTokens) :
    ¬token <+: c :: rest := by
  intro hprefix
  rcases mem_reservedTokens.mp ht with ⟨d, hd, rfl⟩ | ⟨d, hd, rfl⟩
  · obtain ⟨rfl, -⟩ := List.cons_prefix_cons.mp hprefix
    simp [hc] at hd
  · obtain ⟨rfl, tail, rfl⟩ := List.cons_prefix_cons.mp hprefix
    exact hpair hd rfl

theorem scan_plain (hc : isReserved c = false) (hpair : c ∈ pairedChars → rest.head? ≠ some c) :
    scan (c :: rest) = .plain c :: scan rest := by
  have hnone : tokenAt? (c :: rest) = none :=
    tokenAt?_eq_none fun _ ht => not_isPrefix_cons hc hpair ht
  rw [scan, hnone]

/-! ### The escaper -/

theorem escapeChars_pair (hc : c ∈ pairedChars) (rest : List Char) :
    escapeChars (c :: c :: rest) = '\\' :: c :: '\\' :: c :: escapeChars rest := by
  simp only [pairedChars, List.mem_cons, List.not_mem_nil, or_false] at hc
  rcases hc with rfl | rfl <;> rfl

theorem escapeChars_reserved (hc : isReserved c) (rest : List Char) :
    escapeChars (c :: rest) = '\\' :: c :: escapeChars rest := by
  rw [escapeChars, if_pos hc]
  · rintro _ rfl
    exact absurd hc (by decide)
  · rintro _ rfl
    exact absurd hc (by decide)

theorem escapeChars_plain (hc : isReserved c = false)
    (hpair : c ∈ pairedChars → rest.head? ≠ some c) :
    escapeChars (c :: rest) = c :: escapeChars rest := by
  rw [escapeChars, if_neg (by simp [hc])]
  · rintro tail rfl rfl
    exact hpair (by decide) rfl
  · rintro tail rfl rfl
    exact hpair (by decide) rfl

/-- Induction along the scan of a text: it is empty, or it starts with a pair, with a character that
is reserved on its own, or with one at which no token starts. -/
@[elab_as_elim]
theorem scan_induction {motive : List Char → Prop} (text : List Char) (nil : motive [])
    (pair : ∀ c rest, c ∈ pairedChars → motive rest → motive (c :: c :: rest))
    (reserved : ∀ c rest, isReserved c = true → motive rest → motive (c :: rest))
    (plain : ∀ c rest, isReserved c = false → (c ∈ pairedChars → rest.head? ≠ some c) →
      motive rest → motive (c :: rest)) : motive text := by
  induction text using escapeChars.induct with
  | case1 rest ih => exact pair '&' rest (by decide) ih
  | case2 rest ih => exact pair '|' rest (by decide) ih
  | case3 c rest _ _ hc ih => exact reserved c rest hc ih
  | case4 c rest hand hor hc ih =>
    refine plain c rest (by simpa using hc) (fun hmem hhead => ?_) ih
    obtain ⟨tail, htail⟩ := List.head?_eq_some_iff.mp hhead
    simp only [pairedChars, List.mem_cons, List.not_mem_nil, or_false] at hmem
    rcases hmem with rfl | rfl
    · exact hand tail rfl htail
    · exact hor tail rfl htail
  | case5 => exact nil

theorem escapeChars_eq_scan (text : List Char) :
    escapeChars text = (scan text).flatMap Piece.escaped := by
  induction text using scan_induction with
  | nil => rw [scan_nil, escapeChars_nil, List.flatMap_nil]
  | pair c rest hc ih =>
    rw [escapeChars_pair hc, scan_pair hc, List.flatMap_cons, ← ih]
    rfl
  | reserved c rest hc ih =>
    rw [escapeChars_reserved hc, scan_reserved hc, List.flatMap_cons, ← ih]
    rfl
  | plain c rest hc hpair ih =>
    rw [escapeChars_plain hc hpair, scan_plain hc hpair, List.flatMap_cons, ← ih]
    rfl

/-- Escaping is the scan by the token table: a backslash goes before each character of a token, and
the other characters are copied. At no place of a text can the scan choose between two tokens. -/
theorem escape_eq_scan :
    (∀ v : String, escape v = String.ofList ((scan v.toList).flatMap Piece.escaped)) ∧
    ∀ (v : String) (place : Nat),
      reservedTokens.countP (fun token => token.isPrefixOf (v.toList.drop place)) ≤ 1 := by
  refine ⟨fun v => ?_, fun v place => countP_isPrefixOf_le_one _⟩
  rw [escape, escapeChars_eq_scan]

/-- Runs of paired characters of odd length, one of them before a reserved character. -/
example : scan "&&&*|||".toList =
    [.token ['&', '&'], .plain '&', .token ['*'], .token ['|', '|'], .plain '|'] := by
  simp [scan, tokenAt?, reservedTokens]

/-! ### What a scan covers -/

/-- The steps of a scan take the whole text, in order. -/
theorem flatMap_source_scan (text : List Char) : (scan text).flatMap Piece.source = text := by
  induction text using scan_induction with
  | nil => rw [scan_nil, List.flatMap_nil]
  | pair c rest hc ih =>
    rw [scan_pair hc, List.flatMap_cons, ih]
    rfl
  | reserved c rest hc ih =>
    rw [scan_reserved hc, List.flatMap_cons, ih]
    rfl
  | plain c rest hc hpair ih =>
    rw [scan_plain hc hpair, List.flatMap_cons, ih]
    rfl

theorem Piece.length_escaped (piece : Piece) :
    piece.escaped.length = piece.source.length + piece.covered.length := by
  cases piece with
  | token chars =>
    show (chars.flatMap fun c => ['\\', c]).length = chars.length + chars.length
    induction chars with
    | nil => rfl
    | cons c chars ih =>
      rw [List.flatMap_cons, List.length_append, ih]
      simp
      omega
  | plain c => rfl

theorem Piece.covered_sublist (piece : Piece) : piece.covered.Sublist piece.source := by
  cases piece with
  | token chars => exact List.Sublist.refl chars
  | plain c => exact List.nil_sublist [c]

theorem length_flatMap_escaped (pieces : List Piece) :
    (pieces.flatMap Piece.escaped).length =
      (pieces.flatMap Piece.source).length + (pieces.flatMap Piece.covered).length := by
  induction pieces with
  | nil => rfl
  | cons piece pieces ih =>
    simp only [List.flatMap_cons, List.length_append, piece.length_escaped, ih]
    omega

/-- Escaping adds one character for each that a token covers. -/
theorem length_escapeChars (text : List Char) :
    (escapeChars text).length = text.length + (coveredChars text).length := by
  rw [escapeChars_eq_scan, length_flatMap_escaped, flatMap_source_scan, coveredChars]

theorem flatMap_covered_sublist (pieces : List Piece) :
    (pieces.flatMap Piece.covered).Sublist (pieces.flatMap Piece.source) := by
  induction pieces with
  | nil => exact List.Sublist.slnil
  | cons piece pieces ih =>
    rw [List.flatMap_cons, List.flatMap_cons]
    exact piece.covered_sublist.append ih

theorem coveredChars_sublist (text : List Char) : (coveredChars text).Sublist text := by
  have h := flatMap_covered_sublist (scan text)
  rwa [flatMap_source_scan] at h

end SolrClause.Literal
