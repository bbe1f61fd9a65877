import SolrClause.FileTree
import SolrClause.Proofs.CommandLine.Scan

/-! Reading from a file tree. A name leads to what stands under it in the working folder, so that a
tree can stand for the files of a run. -/

namespace SolrClause.FileTree

open SolrClause.CommandLine

/-- Something can stand under the name in a folder: it is one part of a path, it means neither the
folder itself nor the one above, and it is not too long. -/
def IsName (name : String) : Prop :=
  name ∉ ["", ".", ".."] ∧ '/' ∉ name.toList ∧ '\x00' ∉ name.toList ∧
    byteSize (Argument.ofString name).glyphs ≤ longestName

instance (name : String) : Decidable (IsName name) := by unfold IsName; infer_instance

theorem splitPath_of_notMem [DecidableEq α] {slash : α} {rest : List α} (h : slash ∉ rest)
    (part : List α) : splitPath slash part rest = [part.reverse ++ rest] := by
  induction rest generalizing part with
  | nil => rw [splitPath, List.append_nil]
  | cons g rest ih =>
    obtain ⟨hg, hrest⟩ := List.ne_and_not_mem_of_not_mem_cons h
    rw [splitPath, if_neg hg.symm, ih hrest, List.reverse_cons, List.append_assoc,
      List.singleton_append]

theorem char_mem_glyphs {c : Char} {text : String} :
    Glyph.char c ∈ (Argument.ofString text).glyphs ↔ c ∈ text.toList := by
  simp [Argument.ofString, Argument.ofChars]

/-- What is read where this stands. -/
def contentOf : Option FileEntry → Except FileFault String
  | none => .error .missing
  | some .folder => .error .isDirectory
  | some .bytes => .error .notText
  | some (.text content) => .ok content

variable {tree : FileTree} {name : String}

theorem IsName.glyphs_ne (h : IsName name) {text : String} (htext : text ∈ ["", ".", ".."]) :
    (Argument.ofString name).glyphs ≠ (Argument.ofString text).glyphs := by
  intro heq
  have hname : name = text := Argument.ofString_inj.mp (congrArg Argument.mk heq)
  exact h.1 (hname ▸ htext)

/-- The last part of a path leads to what stands under it. -/
theorem walk_name (h : IsName name) (here : Location) :
    tree.walk here [(Argument.ofString name).glyphs] = contentOf (tree.find? (here ++ [name])) := by
  have hidle : isIdle (Argument.ofString name).glyphs = false := by
    rw [isIdle, Bool.or_eq_false_iff, List.isEmpty_eq_false_iff, decide_eq_false_iff_not]
    exact ⟨h.glyphs_ne (show "" ∈ _ by decide), h.glyphs_ne (show "." ∈ _ by decide)⟩
  have hparent : isParent (Argument.ofString name).glyphs = false :=
    decide_eq_false (h.glyphs_ne (show ".." ∈ _ by decide))
  have hfits : ¬longestName < byteSize (Argument.ofString name).glyphs :=
    Nat.not_lt.mpr h.2.2.2
  have htext : (Argument.mk (Argument.ofString name).glyphs).text? = some name :=
    Argument.text?_ofString name
  simp only [walk, hidle, hparent, if_neg hfits, htext, Bool.false_eq_true, if_false]
  cases tree.find? (here ++ [name]) with
  | none => rfl
  | some entry => cases entry <;> rfl

/-- A name leads to what stands under it in the working folder. -/
theorem read_name (h : IsName name) :
    tree.read (.ofString name) = contentOf (tree.find? (tree.working ++ [name])) := by
  obtain ⟨-, hslash, hnul, hfits⟩ := id h
  rw [← char_mem_glyphs] at hslash hnul
  have hempty : (Argument.ofString name).isEmpty = false :=
    List.isEmpty_eq_false_iff.mpr (h.glyphs_ne (show "" ∈ _ by decide))
  have hlong : ¬longestPath < byteSize (Argument.ofString name).glyphs := by
    unfold longestPath longestName at *
    omega
  have hrelative : (Argument.ofString name).glyphs.head? ≠ some (.char '/') :=
    fun hhead => hslash (List.mem_of_head? hhead)
  rw [read, if_neg (by rwa [List.contains_iff_mem]), hempty, if_neg (by decide), if_neg hlong,
    if_neg hrelative, splitPath_of_notMem hslash]
  exact walk_name h tree.working

end SolrClause.FileTree
