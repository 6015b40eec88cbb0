import JsonExpr.Proofs.Pattern.Progress
import JsonExpr.Regex.Replacement

-- A text is divided into the matches of a regular expression and what stands between them, and to
-- replace the matches is to put something else in their places.
namespace JsonExpr

namespace Regex

variable {regex : Regex} {text : List Char} {position : Nat} {strict : Bool} {found : Found}

section Searching

-- What is found, in what is left of a text, after the given number of characters or later.
structure Found.Within (found : Found) (regex : Regex) (skipped left : Nat) (strict : Bool) :
    Prop where
  later : skipped ≤ found.skipped
  inside : found.skipped + found.length ≤ skipped + left
  strict : strict = true → found.skipped = skipped → 0 < found.length
  groups : found.groups.length = regex.groups

theorem matchAt?_leadsTo {place t : Thread} (h : regex.matchAt? text place strict = some t) :
    place.LeadsTo t ∧ (strict = true → t.position ≠ place.position) := by
  obtain ⟨u, hleads, hend⟩ := regex.node.run_movesOn regex.flags place _ t h
  split at hend
  · cases hend
  · next hmoved =>
    cases hend
    exact ⟨hleads, fun hstrict hsame => hmoved (by simp [hstrict, hsame])⟩

theorem findAt?_within {place : Thread} {skipped : Nat}
    (h : regex.findAt? text skipped strict place = some found) :
    found.Within regex skipped place.after.length strict := by
  obtain ⟨t, hmatch, ⟨⟩⟩ := Option.bind_eq_some_iff.mp h
  obtain ⟨hleads, hmoved⟩ := matchAt?_leadsTo hmatch
  have hle := hleads.le_position
  have hend := hleads.position_le
  refine ⟨Nat.le_refl _, ?_, fun hstrict _ => ?_, ?_⟩
  · show skipped + (t.position - place.position) ≤ _
    omega
  · have hne := hmoved hstrict
    show 0 < t.position - place.position
    omega
  · simp

theorem searchFrom?_within {skipped : Nat} {before after : List Char}
    (h : regex.searchFrom? text skipped strict before position after = some found) :
    found.Within regex skipped after.length strict := by
  induction after generalizing skipped strict before position with
  | nil => exact findAt?_within h
  | cons c rest ih =>
    rw [searchFrom?] at h
    obtain hhere | ⟨-, hrest⟩ := (Option.orElse_eq_some _ _ _).mp h
    · exact findAt?_within hhere
    · obtain ⟨hlater, hinside, -, hgroups⟩ := ih hrest
      have hlength : (c :: rest).length = rest.length + 1 := rfl
      exact ⟨by omega, by omega, by omega, hgroups⟩

theorem search?_within (h : regex.search? text position strict = some found) :
    found.Within regex 0 (text.length - position) strict := by
  rw [← List.length_drop]
  exact searchFrom?_within h

end Searching

-- A text from a position on, divided as it is searched: each match with what stands before it, and
-- what is left after the last one.
inductive Divides (regex : Regex) (text : List Char) :
    Nat → Bool → List (List Char × Match) → List Char → Prop where
  | rest {position : Nat} {strict : Bool} (h : regex.search? text position strict = none) :
    Divides regex text position strict [] (text.drop position)
  | next {position : Nat} {strict : Bool} {found : Found} {parts : List (List Char × Match)}
    {rest : List Char} (h : regex.search? text position strict = some found)
    (hrest : Divides regex text (position + found.skipped + found.length) (found.length == 0)
      parts rest) :
    Divides regex text position strict
      (((text.drop position).take found.skipped,
        .of text (position + found.skipped) found.length found.groups) :: parts) rest

theorem Match.of_matched_append (text : List Char) (position length : Nat)
    (groups : List (List Char)) :
    (Match.of text position length groups).matched ++ text.drop (position + length) =
      text.drop position := by
  rw [← List.drop_drop]
  exact List.take_append_drop length (text.drop position)

-- The text with something in the place of each match.
def filledIn (fill : Match → List Char) (parts : List (List Char × Match)) (rest : List Char) :
    List Char :=
  parts.flatMap (fun part => part.1 ++ fill part.2) ++ rest

theorem filledIn_cons (fill : Match → List Char) (between : List Char) (m : Match)
    (parts : List (List Char × Match)) (rest : List Char) :
    filledIn fill ((between, m) :: parts) rest = between ++ fill m ++ filledIn fill parts rest := by
  rw [filledIn, List.flatMap_cons, List.append_assoc]
  rfl

namespace Divides

variable {parts : List (List Char × Match)} {rest : List Char}

-- With the matches themselves in their places it is the text as it was.
theorem filledIn_matched (h : Divides regex text position strict parts rest) :
    filledIn Match.matched parts rest = text.drop position := by
  induction h with
  | rest => rfl
  | next _ _ ih =>
    rw [filledIn_cons, ih, List.append_assoc, Match.of_matched_append, ← List.drop_drop,
      List.take_append_drop]

theorem of_mem (h : Divides regex text position strict parts rest) {part : List Char × Match}
    (hmem : part ∈ parts) :
    part.2.before ++ part.2.matched ++ part.2.after = text ∧
      part.2.groups.length = regex.groups := by
  induction h with
  | rest => cases hmem
  | next hsearch _ ih =>
    obtain rfl | hmem := List.mem_cons.mp hmem
    · exact ⟨Match.of_whole .., (search?_within hsearch).groups⟩
    · exact ih hmem

end Divides

-- How many more matches there can be at most. Each takes a character or is the first one at its
-- place, so that the next one there is not empty.
def matchesLeft (text : List Char) (position : Nat) (strict : Bool) : Nat :=
  2 * (text.length - position) + if strict then 0 else 1

theorem matchesLeft_lt (h : regex.search? text position strict = some found) :
    matchesLeft text (position + found.skipped + found.length) (found.length == 0) <
      matchesLeft text position strict := by
  obtain ⟨-, hinside, hmoved, -⟩ := search?_within h
  unfold matchesLeft
  by_cases hempty : found.length = 0
  · cases strict with
    | false => simp [hempty]; omega
    | true =>
      have hskipped : found.skipped ≠ 0 := fun hzero => by
        have := hmoved rfl hzero
        omega
      simp [hempty]; omega
  · simp [hempty]; split <;> omega

-- With more rounds than matches that can be left, every match is replaced. The matches are the same
-- for every replacement.
theorem exists_divides_replaceFrom {rounds : Nat} (h : matchesLeft text position strict < rounds) :
    ∃ parts rest, Divides regex text position strict parts rest ∧
      ∀ fill, regex.replaceFrom fill text rounds position strict = filledIn fill parts rest := by
  induction rounds generalizing position strict with
  | zero => exact absurd h (Nat.not_lt_zero _)
  | succ rounds ih =>
    cases hsearch : regex.search? text position strict with
    | none => exact ⟨[], _, .rest hsearch, fun fill => by rw [replaceFrom, hsearch]; rfl⟩
    | some found =>
      have hfewer := matchesLeft_lt hsearch
      obtain ⟨parts, rest, hdivides, hreplace⟩ :=
        ih (Nat.lt_of_lt_of_le hfewer (Nat.le_of_lt_succ h))
      refine ⟨_, rest, .next hsearch hdivides, fun fill => ?_⟩
      rw [replaceFrom, hsearch, filledIn_cons, ← hreplace]

theorem exists_divides_replaceAll (regex : Regex) (text : List Char) :
    ∃ parts rest, Divides regex text 0 false parts rest ∧
      ∀ fill, regex.replaceAll fill text = filledIn fill parts rest :=
  exists_divides_replaceFrom (by simp [matchesLeft]; omega)

end Regex

end JsonExpr
