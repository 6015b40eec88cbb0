import JsonExpr.Proofs.Text.EditLimit
import JsonExpr.Suggestion

-- The running search for the closest name keeps the earliest of the closest ones so far. It compares
-- distances that are cut off, which is enough: what it keeps is always within the limit.
namespace JsonExpr

open EditDistance

-- The distance of two names without regard to case.
def nameDistance (name candidate : String) : Nat :=
  distance (lowerChars name.toList) (lowerChars candidate.toList)

-- No candidate is closer to the name, and no earlier one is as close.
def FirstClosest (name : String) (candidates : List String) (best : String) : Prop :=
  ∃ before after, candidates = before ++ best :: after ∧
    (∀ other ∈ before, nameDistance name best < nameDistance name other) ∧
    ∀ other ∈ after, nameDistance name best ≤ nameDistance name other

namespace FirstClosest

variable {name best best' candidate : String} {candidates rest : List String}

theorem mem (h : FirstClosest name candidates best) : best ∈ candidates := by
  obtain ⟨before, after, rfl, -, -⟩ := h
  simp

theorem le (h : FirstClosest name candidates best) :
    ∀ other ∈ candidates, nameDistance name best ≤ nameDistance name other := by
  obtain ⟨before, after, rfl, hbefore, hafter⟩ := h
  intro other hmem
  rcases List.mem_append.mp hmem with hmem | hmem
  · exact (hbefore other hmem).le
  · rcases List.mem_cons.mp hmem with rfl | hmem
    · exact Nat.le_refl _
    · exact hafter other hmem

theorem cons_self (h : ∀ other ∈ rest, nameDistance name candidate ≤ nameDistance name other) :
    FirstClosest name (candidate :: rest) candidate := ⟨[], rest, rfl, by simp, h⟩

theorem cons_of_lt (hlt : nameDistance name best < nameDistance name candidate)
    (h : FirstClosest name rest best) : FirstClosest name (candidate :: rest) best := by
  obtain ⟨before, after, rfl, hbefore, hafter⟩ := h
  exact ⟨candidate :: before, after, rfl, List.forall_mem_cons.mpr ⟨hlt, hbefore⟩, hafter⟩

-- Of two such names the later one would be as close, and then it is not the first.
theorem unique (h : FirstClosest name candidates best)
    (h' : FirstClosest name candidates best') : best = best' := by
  have hle := h.le best' h'.mem
  have hle' := h'.le best h.mem
  obtain ⟨before, after, rfl, hbefore, -⟩ := h
  obtain ⟨before', after', heq, hbefore', -⟩ := h'
  rcases List.append_eq_append_iff.mp heq with ⟨middle, rfl, hcons⟩ | ⟨middle, rfl, hcons⟩
  · cases middle with
    | nil => exact (List.cons.inj hcons).1
    | cons =>
      obtain ⟨rfl, -⟩ := List.cons.inj hcons
      exact absurd (hbefore' best (by simp)) (by omega)
  · cases middle with
    | nil => exact (List.cons.inj hcons).1.symm
    | cons =>
      obtain ⟨rfl, -⟩ := List.cons.inj hcons
      exact absurd (hbefore best' (by simp)) (by omega)

end FirstClosest

section Search

variable (name : String) {limit : Nat}

-- One step, as long as the best distance so far is no more than what the cut-off can tell.
theorem closer_eq {best : Option String × Int} (hbest : best.2 ≤ (limit : Int) + 1)
    (candidate : String) :
    closer (lowerChars name.toList) limit best candidate =
      if nameDistance name candidate < best.2 then (some candidate, (nameDistance name candidate : Int))
      else best := by
  unfold closer
  by_cases hle : (nameDistance name candidate : Int) ≤ limit
  · rw [editDistance_of_le hle]
    rfl
  · have hlt := lt_editDistance_of_lt (Int.not_le.mp hle)
    rw [if_neg (by omega), if_neg (by omega)]

-- The search keeps the best from before, or ends with the first of the closest candidates.
theorem foldl_closer (best : Option String × Int) (hbest : best.2 ≤ (limit : Int) + 1)
    (candidates : List String) :
    let found := candidates.foldl (closer (lowerChars name.toList) limit) best
    (found = best ∧ ∀ other ∈ candidates, best.2 ≤ nameDistance name other) ∨
      ∃ first, found = (some first, (nameDistance name first : Int)) ∧
        nameDistance name first < best.2 ∧ FirstClosest name candidates first := by
  induction candidates generalizing best with
  | nil => exact .inl ⟨rfl, by simp⟩
  | cons candidate rest ih =>
    rw [List.foldl_cons, closer_eq name hbest]
    split
    · next hcloser =>
      right
      have hnext : (nameDistance name candidate : Int) ≤ limit + 1 := by omega
      rcases ih (some candidate, _) hnext with ⟨hfound, hrest⟩ | ⟨first, hfound, hlt, hfirst⟩
      · refine ⟨candidate, hfound, hcloser, .cons_self fun other hmem => ?_⟩
        exact Int.ofNat_le.mp (hrest other hmem)
      · exact ⟨first, hfound, hlt.trans hcloser, hfirst.cons_of_lt (Int.ofNat_lt.mp hlt)⟩
    · next hcloser =>
      rcases ih best hbest with ⟨hfound, hrest⟩ | ⟨first, hfound, hlt, hfirst⟩
      · exact .inl ⟨hfound, List.forall_mem_cons.mpr ⟨Int.not_lt.mp hcloser, hrest⟩⟩
      · exact .inr ⟨first, hfound, hlt, hfirst.cons_of_lt (by omega)⟩

-- The search as a whole: nothing is within the limit, or the first of the closest candidates is.
theorem suggestName_cases (candidates : List String) :
    (suggestName name candidates = none ∧
        ∀ other ∈ candidates, suggestionLimit name < nameDistance name other) ∨
      ∃ first, suggestName name candidates = some first ∧
        nameDistance name first ≤ suggestionLimit name ∧ FirstClosest name candidates first := by
  rcases foldl_closer name (none, (suggestionLimit name : Int) + 1) (Int.le_refl _) candidates with
    ⟨hfound, hrest⟩ | ⟨first, hfound, hlt, hfirst⟩
  · refine .inl ⟨congrArg Prod.fst hfound, fun other hmem => ?_⟩
    exact Int.ofNat_lt.mp (hrest other hmem)
  · exact .inr ⟨first, congrArg Prod.fst hfound, Int.ofNat_le.mp (Int.le_of_lt_add_one hlt), hfirst⟩

end Search

variable {name best : String} {candidates : List String}

theorem suggestName_eq_none_iff :
    suggestName name candidates = none ↔
      ∀ other ∈ candidates, suggestionLimit name < nameDistance name other := by
  rcases suggestName_cases name candidates with ⟨hnone, hfar⟩ | ⟨first, hfirst, hle, hclosest⟩
  · exact iff_of_true hnone hfar
  · refine iff_of_false (by simp [hfirst]) fun hfar => ?_
    exact absurd hle (Nat.not_le.mpr (hfar first hclosest.mem))

theorem suggestName_eq_some_iff :
    suggestName name candidates = some best ↔
      nameDistance name best ≤ suggestionLimit name ∧ FirstClosest name candidates best := by
  rcases suggestName_cases name candidates with ⟨hnone, hfar⟩ | ⟨first, hfirst, hle, hclosest⟩
  · refine iff_of_false (by simp [hnone]) fun ⟨hle, hclosest⟩ => ?_
    exact absurd hle (Nat.not_le.mpr (hfar best hclosest.mem))
  · rw [hfirst, Option.some_inj]
    constructor
    · rintro rfl
      exact ⟨hle, hclosest⟩
    · exact fun ⟨_, hbest⟩ => hclosest.unique hbest

end JsonExpr
