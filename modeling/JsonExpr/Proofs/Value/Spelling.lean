import JsonExpr.Proofs.Value.Reading

-- Paths as texts: a segment is written behind a point or in brackets, and parsing the text gives the
-- segments back, however each of them is written.
namespace JsonExpr

namespace Path

-- How a segment is written: behind a point, which the first one does without, or in brackets.
inductive Style where
  | dotted
  | bracketed
deriving Repr, DecidableEq

-- A segment that may be written in both ways: it is not empty and has no point or bracket in it.
def IsPlain (segment : String) : Prop :=
  segment.toList ≠ [] ∧ '.' ∉ segment.toList ∧ '[' ∉ segment.toList ∧ ']' ∉ segment.toList

instance (segment : String) : Decidable (IsPlain segment) :=
  inferInstanceAs (Decidable (_ ∧ _ ∧ _ ∧ _))

def writeMore : List (Style × String) → String
  | [] => ""
  | (.dotted, segment) :: rest => "." ++ segment ++ writeMore rest
  | (.bracketed, segment) :: rest => "[" ++ segment ++ "]" ++ writeMore rest

def write : List (Style × String) → String
  | (.dotted, segment) :: rest => segment ++ writeMore rest
  | segments => writeMore segments

section Parsing

variable {piece rest : List Char} {separator : Char}

theorem unbracket_append (h : '[' ∉ piece) (rest : List Char) :
    unbracket (piece ++ rest) = piece ++ unbracket rest := by
  induction piece with
  | nil => rfl
  | cons c piece ih =>
    obtain ⟨hc, hpiece⟩ := List.ne_and_not_mem_of_not_mem_cons h
    rw [List.cons_append, unbracket, ih hpiece, List.cons_append]
    exact fun heq => hc heq.symm

-- What the first closing bracket ends is what the brackets hold.
theorem unbracket_brackets (h : ']' ∉ piece) (rest : List Char) :
    unbracket ('[' :: (piece ++ ']' :: rest)) = '.' :: (piece ++ unbracket rest) := by
  have hinside : ∀ c ∈ piece, (c != ']') = true := by
    rintro c hc
    exact bne_iff_ne.mpr fun heq => h (heq ▸ hc)
  have hdrop : (piece ++ ']' :: rest).dropWhile (· != ']') = ']' :: rest := by
    simp [List.dropWhile_append_of_pos hinside]
  have htake : (piece ++ ']' :: rest).takeWhile (· != ']') = piece := by
    simp [List.takeWhile_append_of_pos hinside]
  rw [unbracket]
  split
  · next hunclosed =>
    rw [hdrop] at hunclosed
    cases hunclosed
  · next hclosed =>
    obtain ⟨-, rfl⟩ := List.cons.inj (hdrop.symm.trans hclosed)
    rw [htake, List.cons_append]

theorem split_of_not_mem (h : separator ∉ piece) : split separator piece = [piece] := by
  induction piece with
  | nil => rfl
  | cons c piece ih =>
    obtain ⟨hc, hpiece⟩ := List.ne_and_not_mem_of_not_mem_cons h
    rw [split, if_neg hc.symm, ih hpiece]

theorem split_append (h : separator ∉ piece) (rest : List Char) :
    split separator (piece ++ separator :: rest) = piece :: split separator rest := by
  induction piece with
  | nil => rw [List.nil_append, split, if_pos rfl]
  | cons c piece ih =>
    obtain ⟨hc, hpiece⟩ := List.ne_and_not_mem_of_not_mem_cons h
    rw [List.cons_append, split, if_neg hc.symm, ih hpiece]

end Parsing

-- With its brackets replaced, every further segment stands behind a point.
theorem unbracket_writeMore_cons {segment : String} (h : IsPlain segment) (style : Style)
    (rest : List (Style × String)) :
    unbracket (writeMore ((style, segment) :: rest)).toList =
      '.' :: (segment.toList ++ unbracket (writeMore rest).toList) := by
  obtain ⟨-, -, hopen, hclose⟩ := h
  cases style with
  | dotted =>
    have htext : (writeMore ((.dotted, segment) :: rest)).toList =
        '.' :: (segment.toList ++ (writeMore rest).toList) := by simp [writeMore]
    rw [htext, unbracket, unbracket_append hopen]
    decide
  | bracketed =>
    have htext : (writeMore ((.bracketed, segment) :: rest)).toList =
        '[' :: (segment.toList ++ ']' :: (writeMore rest).toList) := by simp [writeMore]
    rw [htext, unbracket_brackets hclose]

-- So the pieces of a text are what stands in front of the first point and the segments behind it.
theorem split_unbracket {piece : List Char} (hpiece : '.' ∉ piece)
    {segments : List (Style × String)} (h : ∀ segment ∈ segments, IsPlain segment.2) :
    split '.' (piece ++ unbracket (writeMore segments).toList) =
      piece :: segments.map fun segment => segment.2.toList := by
  induction segments generalizing piece with
  | nil => simpa [writeMore, unbracket] using split_of_not_mem hpiece
  | cons segment rest ih =>
    obtain ⟨hsegment, hrest⟩ := List.forall_mem_cons.mp h
    rw [unbracket_writeMore_cons hsegment, split_append hpiece, ih hsegment.2.1 hrest]
    rfl

theorem parse_append (start : String) (hpoint : '.' ∉ start.toList) (hopen : '[' ∉ start.toList)
    {segments : List (Style × String)} (h : ∀ segment ∈ segments, IsPlain segment.2) :
    parse (start ++ writeMore segments) =
      (if start.toList.isEmpty then [] else [start]) ++ segments.map Prod.snd := by
  have hsegments : ((segments.map fun segment => segment.2.toList).filter fun piece =>
      !piece.isEmpty) = segments.map fun segment => segment.2.toList := by
    refine List.filter_eq_self.mpr fun piece hpiece => ?_
    obtain ⟨segment, hmem, rfl⟩ := List.mem_map.mp hpiece
    simpa using (h segment hmem).1
  have hsplit := split_unbracket hpoint h
  rw [← unbracket_append hopen, ← String.toList_append] at hsplit
  rw [parse, hsplit, List.filter_cons, hsegments]
  cases start.toList.isEmpty <;> simp

theorem parse_write {segments : List (Style × String)}
    (h : ∀ segment ∈ segments, IsPlain segment.2) :
    parse (write segments) = segments.map Prod.snd := by
  unfold write
  split
  · next segment rest =>
    obtain ⟨⟨hne, hpoint, hopen, -⟩, hrest⟩ := List.forall_mem_cons.mp h
    rw [parse_append segment hpoint hopen hrest, if_neg (by simpa using hne)]
    rfl
  · simpa using parse_append "" (by simp) (by simp) h

end Path

end JsonExpr
