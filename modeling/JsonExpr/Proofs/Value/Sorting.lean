import JsonExpr.Proofs.Value.Order
import JsonExpr.Value.Sorting
import Mathlib.Data.List.Pairwise

-- Stable passes over a list by keys: what comes out of a pass is ordered by the key first, and by
-- what the list was ordered by before where keys are the same. Items without a key come last.
namespace JsonExpr

namespace Sorting

section Stable

variable {α β : Type} [LinearOrder β] {rank : α → β} {le : α → α → Bool} {xs : List α}
  {R : α → α → Prop}

theorem pairwise_zipIdx (xs : List α) : xs.zipIdx.Pairwise fun p q => p.2 < q.2 := by
  refine List.pairwise_map.mp ?_
  rw [List.zipIdx_map_snd]
  exact List.pairwise_lt_range'

theorem zipIdx_concat (xs : List α) (x : α) :
    (xs ++ [x]).zipIdx = xs.zipIdx ++ [(x, xs.length)] := by simp [List.zipIdx_append]

theorem rel_of_mem_zipIdx (hR : xs.Pairwise R) {p q : α × Nat} (hp : p ∈ xs.zipIdx)
    (hq : q ∈ xs.zipIdx) (hlt : p.2 < q.2) : R p.1 q.1 := by
  obtain ⟨hplace, hp⟩ := List.getElem?_eq_some_iff.mp (List.mem_zipIdx_iff_getElem?.mp hp)
  obtain ⟨hplace', hq⟩ := List.getElem?_eq_some_iff.mp (List.mem_zipIdx_iff_getElem?.mp hq)
  rw [← hp, ← hq]
  exact List.pairwise_iff_getElem.mp hR p.2 q.2 hplace hplace' hlt

-- A merge sort is stable: an order that the list had before remains among items of the same rank.
theorem pairwise_mergeSort_of_rank (hle : ∀ a ∈ xs, ∀ b ∈ xs, le a b = decide (rank a ≤ rank b))
    (hR : xs.Pairwise R) :
    (xs.mergeSort le).Pairwise fun x y => rank x < rank y ∨ rank x = rank y ∧ R x y := by
  let atMost (a b : α) : Bool := decide (rank a ≤ rank b)
  have hsame : xs.mergeSort le = xs.mergeSort atMost := by
    simpa using List.map_mergeSort (f := id) hle
  have htrans (a b c : α) (hab : atMost a b = true) (hbc : atMost b c = true) :
      atMost a c = true := by
    simp only [atMost, decide_eq_true_iff] at hab hbc ⊢
    exact hab.trans hbc
  have htotal (a b : α) : (atMost a b || atMost b a) = true := by
    simpa [atMost] using le_total (rank a) (rank b)
  -- with their positions, no two items are the same
  have hsorted := List.pairwise_mergeSort (List.zipIdxLE_trans htrans) (List.zipIdxLE_total htotal)
    xs.zipIdx
  have hperm := List.mergeSort_perm xs.zipIdx (List.zipIdxLE atMost)
  have hdistinct := (hperm.pairwise_iff fun h => Ne.symm h).mpr
    ((pairwise_zipIdx xs).imp fun h => Nat.ne_of_lt h)
  rw [hsame, ← List.mergeSort_zipIdx, List.pairwise_map]
  refine (hsorted.and hdistinct).imp_of_mem fun {p q} hp hq ⟨hpq, hne⟩ => ?_
  simp only [List.zipIdxLE, atMost] at hpq
  rcases lt_trichotomy (rank p.1) (rank q.1) with hlt | heq | hgt
  · exact .inl hlt
  · have hlt : p.2 < q.2 := lt_of_le_of_ne (by simpa [heq] using hpq) hne
    exact .inr ⟨heq, rel_of_mem_zipIdx hR (hperm.mem_iff.mp hp) (hperm.mem_iff.mp hq) hlt⟩
  · simp [not_le_of_gt hgt] at hpq

end Stable

-- The order of keys: whole numbers, and texts by their code points.
inductive Less : Value → Value → Prop where
  | ints {m n : Int} (h : m < n) : Less (.int m) (.int n)
  | strings {s t : String} (h : s < t) : Less (.string s) (.string t)

-- Whether a key has to come before another one. No key is missing before one that is there, in
-- either direction.
def Precedes (descending : Bool) (a b : Value) : Prop :=
  a ≠ .null ∧ (b = .null ∨ if descending then Less b a else Less a b)

theorem Less.asymm {a b : Value} (h : Less a b) : ¬Less b a := by
  intro h'
  cases h with
  | ints hlt =>
    cases h' with
    | ints hgt => exact lt_asymm hlt hgt
  | strings hlt =>
    cases h' with
    | strings hgt => exact lt_asymm hlt hgt

theorem Precedes.asymm {descending : Bool} {a b : Value} (h : Precedes descending a b) :
    ¬Precedes descending b a := by
  obtain ⟨ha, hab⟩ := h
  rintro ⟨hb, hba⟩
  have hless := hab.resolve_left hb
  have hless' := hba.resolve_left ha
  cases descending
  · exact Less.asymm hless hless'
  · exact Less.asymm hless hless'

-- Keys that are there for all items, and of one kind.
def OneKind {α : Type} (key : α → Value) (xs : List α) : Prop :=
  (∀ x ∈ xs, ∃ n, key x = .int n) ∨ ∀ x ∈ xs, ∃ s, key x = .string s

section Keys

variable {α β : Type} {key : α → Value} {xs : List α} {R : α → α → Prop}

def atMost (key : α → Value) (a b : α) : Bool := (key b).less? (key a) != some true

def intOf : Value → Int
  | .number (.int n) => n
  | _ => 0

def textOf : Value → String
  | .string s => s
  | _ => ""

theorem pairwise_mergeSort_atMost (hkeys : OneKind key xs) (hR : xs.Pairwise R) :
    (xs.mergeSort (atMost key)).Pairwise fun x y =>
      Less (key x) (key y) ∨ key x = key y ∧ R x y := by
  rcases hkeys with hints | hstrings
  · have hle : ∀ a ∈ xs, ∀ b ∈ xs, atMost key a b = decide (intOf (key a) ≤ intOf (key b)) := by
      intro a ha b hb
      obtain ⟨m, hm⟩ := hints a ha
      obtain ⟨n, hn⟩ := hints b hb
      simp only [atMost, hm, hn, Value.less?_int, intOf, ← not_lt (a := n), decide_not]
      cases decide (n < m) <;> rfl
    refine (pairwise_mergeSort_of_rank hle hR).imp_of_mem fun {x y} hx hy h => ?_
    obtain ⟨m, hm⟩ := hints x (List.mem_mergeSort.mp hx)
    obtain ⟨n, hn⟩ := hints y (List.mem_mergeSort.mp hy)
    rw [hm, hn] at h ⊢
    rcases h with hlt | ⟨heq, hxy⟩
    · exact .inl (.ints hlt)
    · exact .inr ⟨congrArg Value.int heq, hxy⟩
  · have hle : ∀ a ∈ xs, ∀ b ∈ xs, atMost key a b = decide (textOf (key a) ≤ textOf (key b)) := by
      intro a ha b hb
      obtain ⟨s, hs⟩ := hstrings a ha
      obtain ⟨t, ht⟩ := hstrings b hb
      simp only [atMost, hs, ht, Value.less?_string, textOf, ← not_lt (a := t), decide_not]
      cases decide (t < s) <;> rfl
    refine (pairwise_mergeSort_of_rank hle hR).imp_of_mem fun {x y} hx hy h => ?_
    obtain ⟨s, hs⟩ := hstrings x (List.mem_mergeSort.mp hx)
    obtain ⟨t, ht⟩ := hstrings y (List.mem_mergeSort.mp hy)
    rw [hs, ht] at h ⊢
    rcases h with hlt | ⟨heq, hxy⟩
    · exact .inl (.strings hlt)
    · exact .inr ⟨congrArg Value.string heq, hxy⟩

-- The items in the order of their keys, in either direction.
def inOrder (key : α → Value) (descending : Bool) (xs : List α) : List α :=
  if descending then (xs.reverse.mergeSort (atMost key)).reverse else xs.mergeSort (atMost key)

theorem inOrder_perm (key : α → Value) (descending : Bool) (xs : List α) :
    (inOrder key descending xs).Perm xs := by
  cases descending
  · exact List.mergeSort_perm xs _
  · exact (List.reverse_perm _).trans ((List.mergeSort_perm _ _).trans (List.reverse_perm xs))

theorem inOrder_map (key : α → Value) (descending : Bool) (f : β → α) (ys : List β) :
    inOrder key descending (ys.map f) = (inOrder (key ∘ f) descending ys).map f := by
  have hsort (ys : List β) :
      (ys.map f).mergeSort (atMost key) = (ys.mergeSort (atMost (key ∘ f))).map f := by
    rw [List.map_mergeSort]
    exact fun _ _ _ _ => rfl
  cases descending
  · exact hsort ys
  · simp only [inOrder, if_true, ← List.map_reverse, hsort]

theorem pairwise_inOrder (descending : Bool) (hkeys : OneKind key xs) (hR : xs.Pairwise R) :
    (inOrder key descending xs).Pairwise fun x y =>
      (if descending then Less (key y) (key x) else Less (key x) (key y)) ∨
        key x = key y ∧ R x y := by
  cases descending
  · exact pairwise_mergeSort_atMost hkeys hR
  · have hreverse : OneKind key xs.reverse := by simpa [OneKind] using hkeys
    have hsorted := pairwise_mergeSort_atMost hreverse (List.pairwise_reverse.mpr hR)
    refine List.pairwise_reverse.mpr (hsorted.imp fun {x y} h => ?_)
    exact h.imp id fun ⟨heq, hyx⟩ => ⟨heq.symm, hyx⟩

theorem allOrdered_of_forall {keys : List Value}
    (h : ∀ a ∈ keys, ∀ b ∈ keys, (a.less? b).isSome = true) : allOrdered keys = true := by
  induction keys with
  | nil => rfl
  | cons a rest ih =>
    have hrest := ih fun b hb c hc => h b (List.mem_cons_of_mem a hb) c (List.mem_cons_of_mem a hc)
    have hfirst : ∀ b ∈ rest, (a.less? b).isSome = true := fun b hb =>
      h a List.mem_cons_self b (List.mem_cons_of_mem a hb)
    rw [allOrdered, hrest, Bool.and_true, List.all_eq_true]
    exact hfirst

theorem OneKind.isSome_less? (hkeys : OneKind key xs) {x y : α} (hx : x ∈ xs) (hy : y ∈ xs) :
    ((key x).less? (key y)).isSome = true := by
  rcases hkeys with hints | hstrings
  · obtain ⟨m, hm⟩ := hints x hx
    obtain ⟨n, hn⟩ := hints y hy
    rw [hm, hn, Value.less?_int, Option.isSome_some]
  · obtain ⟨s, hs⟩ := hstrings x hx
    obtain ⟨t, ht⟩ := hstrings y hy
    rw [hs, ht, Value.less?_string, Option.isSome_some]

theorem OneKind.hasNoPlace_eq_false (hkeys : OneKind key xs) {x : α} (hx : x ∈ xs) :
    hasNoPlace (key x) = false := by
  rcases hkeys with hints | hstrings
  · obtain ⟨n, hn⟩ := hints x hx
    rw [hn]
    rfl
  · obtain ⟨s, hs⟩ := hstrings x hx
    rw [hs, hasNoPlace]
    · nofun
    · nofun

theorem ascending?_keyed (hkeys : OneKind key xs) :
    ascending? (xs.map fun x => (key x, x)) =
      some ((xs.mergeSort (atMost key)).map fun x => (key x, x)) := by
  have hordered : allOrdered ((xs.map fun x => (key x, x)).map Prod.fst) = true := by
    refine allOrdered_of_forall fun a ha b hb => ?_
    rw [List.map_map] at ha hb
    obtain ⟨x, hx, rfl⟩ := List.mem_map.mp ha
    obtain ⟨y, hy, rfl⟩ := List.mem_map.mp hb
    exact hkeys.isSome_less? hx hy
  have hplace : ((xs.map fun x => (key x, x)).any fun item => hasNoPlace item.1) = false := by
    rw [List.any_map, List.any_eq_false]
    intro x hx
    simp [hkeys.hasNoPlace_eq_false hx]
  rw [ascending?, hordered, hplace, Bool.not_false, Bool.and_true, if_pos rfl, List.map_mergeSort]
  exact fun _ _ _ _ => rfl

theorem zip_keys (key : α → Value) (xs : List α) :
    (xs.map key).zip xs = xs.map fun x => (key x, x) := by
  conv_lhs => rw [← List.map_id xs, List.map_map]
  exact List.zip_map'

-- Sorting by keys puts the items into order.
theorem byKeys?_eq_inOrder (descending : Bool) (hkeys : OneKind key xs) :
    byKeys? descending ((xs.map key).zip xs) = some (inOrder key descending xs) := by
  rw [zip_keys, byKeys?]
  cases descending
  · rw [if_neg Bool.false_ne_true, ascending?_keyed hkeys]
    simp [inOrder, Function.comp_def]
  · have hreverse : OneKind key xs.reverse := by simpa [OneKind] using hkeys
    rw [if_pos rfl, ← List.map_reverse, ascending?_keyed hreverse]
    simp [inOrder, Function.comp_def]

-- One pass: the items with a key in order, and then those without.
def pass (key : α → Value) (descending : Bool) (xs : List α) : List α :=
  inOrder key descending (xs.filter fun x => !(key x).isNull) ++ xs.filter fun x => (key x).isNull

-- Keys of one kind, where there are any.
def Uniform (key : α → Value) (xs : List α) : Prop :=
  (∀ x ∈ xs, key x ≠ .null → ∃ n, key x = .int n) ∨
    ∀ x ∈ xs, key x ≠ .null → ∃ s, key x = .string s

theorem Uniform.oneKind_present (hkeys : Uniform key xs) :
    OneKind key (xs.filter fun x => !(key x).isNull) := by
  have hpresent {P : α → Prop} (h : ∀ x ∈ xs, key x ≠ .null → P x) :
      ∀ x ∈ xs.filter fun x => !(key x).isNull, P x := by
    intro x hx
    obtain ⟨hmem, hnull⟩ := List.mem_filter.mp hx
    exact h x hmem (Value.not_isNull_iff.mp hnull)
  exact hkeys.imp hpresent hpresent

theorem Uniform.perm {ys : List α} (hkeys : Uniform key xs) (hperm : ys.Perm xs) :
    Uniform key ys := by
  simpa only [Uniform, hperm.mem_iff] using hkeys

theorem pass_perm (key : α → Value) (descending : Bool) (xs : List α) :
    (pass key descending xs).Perm xs := by
  refine ((inOrder_perm key descending _).append_right _).trans ?_
  simpa using List.filter_append_perm (fun x => !(key x).isNull) xs

theorem pass_map (key : α → Value) (descending : Bool) (f : β → α) (ys : List β) :
    pass key descending (ys.map f) = (pass (key ∘ f) descending ys).map f := by
  simp only [pass, List.filter_map, inOrder_map, List.map_append]
  rfl

theorem pairwise_pass (descending : Bool) (hkeys : Uniform key xs) (hR : xs.Pairwise R) :
    (pass key descending xs).Pairwise fun x y =>
      Precedes descending (key x) (key y) ∨ key x = key y ∧ R x y := by
  have hpresent {x : α} (hx : x ∈ inOrder key descending (xs.filter fun x => !(key x).isNull)) :
      key x ≠ .null :=
    Value.not_isNull_iff.mp (List.mem_filter.mp ((inOrder_perm key descending _).mem_iff.mp hx)).2
  have hmissing {x : α} (hx : x ∈ xs.filter fun x => (key x).isNull) : key x = .null :=
    Value.isNull_iff.mp (List.mem_filter.mp hx).2
  rw [pass, List.pairwise_append]
  refine ⟨?_, ?_, fun x hx y hy => .inl ⟨hpresent hx, .inl (hmissing hy)⟩⟩
  · have hsorted := pairwise_inOrder descending hkeys.oneKind_present (hR.filter _)
    exact hsorted.imp_of_mem fun hx _ h => h.imp_left fun hless => ⟨hpresent hx, .inr hless⟩
  · refine (hR.filter _).imp_of_mem fun hx hy hxy => ?_
    exact .inr ⟨(hmissing hx).trans (hmissing hy).symm, hxy⟩

end Keys

end Sorting

end JsonExpr
