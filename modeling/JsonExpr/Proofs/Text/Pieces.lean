import JsonExpr.Text.Parts

-- The pieces of a text between delimiters: the delimiters put back between them give the text
-- again, no piece contains the delimiter, and if that is one character the pieces are the only ones.
namespace JsonExpr

namespace Parts

variable {first : Char} {others piece text : List Char} {skip : Nat}

theorem splitFrom_ne_nil : splitFrom first others skip piece text ≠ [] := by
  fun_induction splitFrom first others skip piece text <;> simp_all

-- What has been read of a piece stands in front, and what is to be skipped is no part of the rest.
theorem intercalate_splitFrom :
    (first :: others).intercalate (splitFrom first others skip piece text) =
      piece.reverse ++ text.drop skip := by
  fun_induction splitFrom first others skip piece text with
  | case1 => simp
  | case2 skip piece c rest ih => simpa using ih
  | case3 piece c rest hmatch ih =>
    obtain ⟨rfl, hothers⟩ := hmatch
    have hrest := List.prefix_iff_eq_append.mp (List.isPrefixOf_iff_prefix.mp hothers)
    rw [List.intercalate_cons_of_ne_nil splitFrom_ne_nil, ih, List.reverse_nil, List.nil_append,
      List.append_assoc, List.cons_append, hrest, List.drop_zero]
  | case4 piece c rest hmatch ih => simpa using ih

-- A delimiter inside of a piece would begin at a place where it has been looked for in vain.
theorem not_infix_of_mem_splitFrom
    (h : ∀ tail, tail ≠ [] → tail <:+ piece.reverse →
      ¬(first :: others) <+: tail ++ text.drop skip) :
    ∀ found ∈ splitFrom first others skip piece text, ¬(first :: others) <:+: found := by
  have hpiece {piece rest : List Char}
      (h : ∀ tail, tail ≠ [] → tail <:+ piece.reverse → ¬(first :: others) <+: tail ++ rest) :
      ¬(first :: others) <:+: piece.reverse := by
    intro hinfix
    obtain ⟨tail, hfront, hsuffix⟩ := List.infix_iff_prefix_suffix.mp hinfix
    refine h tail ?_ hsuffix (hfront.trans (List.prefix_append tail rest))
    rintro rfl
    simp at hfront
  fun_induction splitFrom first others skip piece text with
  | case1 => simpa using hpiece h
  | case2 skip piece c rest ih => exact ih (by simpa using h)
  | case3 piece c rest hmatch ih =>
    refine List.forall_mem_cons.mpr ⟨hpiece h, ih fun tail hne hsuffix => ?_⟩
    exact absurd (List.suffix_nil.mp hsuffix) hne
  | case4 piece c rest hmatch ih =>
    refine ih fun tail hne hsuffix => ?_
    rw [List.reverse_cons, List.suffix_concat_iff] at hsuffix
    obtain ⟨before, rfl, hbefore⟩ := hsuffix.resolve_left hne
    rw [List.append_assoc, List.singleton_append, List.drop_zero]
    by_cases hnil : before = []
    · subst hnil
      rintro hfront
      obtain ⟨rfl, hothers⟩ := List.cons_prefix_cons.mp hfront
      exact hmatch ⟨rfl, List.isPrefixOf_iff_prefix.mpr hothers⟩
    · exact h before hnil hbefore

-- Between single characters nothing is ever skipped.
theorem splitFrom_singleton (c : Char) (piece text : List Char) :
    splitFrom c [] 0 piece text = List.splitOnPPrepend (· == c) text piece := by
  induction text generalizing piece with
  | nil => rw [splitFrom, List.splitOnPPrepend_nil]
  | cons d rest ih =>
    rw [splitFrom, List.splitOnPPrepend_cons_eq_if]
    by_cases hd : d = c
    · simp [hd, ih]
    · simp [hd, ih]

end Parts

theorem intercalate_empty (pieces : List (List Char)) : [].intercalate pieces = pieces.flatten := by
  induction pieces with
  | nil => rfl
  | cons piece rest ih =>
    cases rest with
    | nil => simp
    | cons next rest =>
      rw [List.intercalate_cons_cons, ih, List.append_nil, List.flatten_cons (l := piece)]

-- Nothing of a text is lost between the pieces but the delimiters, also if there is no delimiter.
theorem intercalate_splitText (delimiter text : List Char) :
    delimiter.intercalate (splitText delimiter text) = text := by
  cases delimiter with
  | nil => rw [splitText, intercalate_empty, ← List.flatMap_def, List.flatMap_singleton']
  | cons first others => exact Parts.intercalate_splitFrom

theorem not_infix_of_mem_splitText {delimiter text : List Char} (hne : delimiter ≠ []) :
    ∀ piece ∈ splitText delimiter text, ¬delimiter <:+: piece := by
  obtain ⟨first, others, rfl⟩ := List.exists_cons_of_ne_nil hne
  exact Parts.not_infix_of_mem_splitFrom fun tail hne hsuffix =>
    absurd (List.suffix_nil.mp hsuffix) hne

theorem splitText_intercalate {c : Char} {pieces : List (List Char)} (hne : pieces ≠ [])
    (h : ∀ piece ∈ pieces, c ∉ piece) : splitText [c] ([c].intercalate pieces) = pieces := by
  rw [splitText, Parts.splitFrom_singleton, ← List.splitOnP_eq_splitOnPPrepend,
    ← List.splitOn_eq_splitOnP]
  exact List.splitOn_intercalate c h hne

-- The pieces as texts.
def piecesOf (delimiter text : String) : List String :=
  (splitText delimiter.toList text.toList).map String.ofList

theorem map_toList_piecesOf (delimiter text : String) :
    (piecesOf delimiter text).map String.toList = splitText delimiter.toList text.toList := by
  simp [piecesOf]

theorem intercalate_piecesOf (delimiter text : String) :
    delimiter.intercalate (piecesOf delimiter text) = text := by
  rw [← String.toList_inj, String.toList_intercalate, map_toList_piecesOf, intercalate_splitText]

theorem not_infix_of_mem_piecesOf {delimiter text : String} (hne : delimiter ≠ "") :
    ∀ piece ∈ piecesOf delimiter text, ¬delimiter.toList <:+: piece.toList := by
  intro piece hmem
  have hsplit : piece.toList ∈ splitText delimiter.toList text.toList :=
    map_toList_piecesOf delimiter text ▸ List.mem_map_of_mem hmem
  exact not_infix_of_mem_splitText (by simpa using hne) piece.toList hsplit

theorem piecesOf_intercalate {c : Char} {pieces : List String} (hne : pieces ≠ [])
    (h : ∀ piece ∈ pieces, c ∉ piece.toList) :
    piecesOf (String.singleton c) ((String.singleton c).intercalate pieces) = pieces := by
  have hpieces : ∀ piece ∈ pieces.map String.toList, c ∉ piece := by simpa using h
  rw [piecesOf, String.toList_intercalate, String.toList_singleton,
    splitText_intercalate (by simpa using hne) hpieces]
  simp

end JsonExpr
