import JsonExpr.Proofs.Builtin.Embedding
import JsonExpr.Proofs.Builtin.Resolving
import JsonExpr.Proofs.Run.Yields
import JsonExpr.Proofs.Value.Sorting

-- Sorting by several criteria. The passes go from the last criterion to the first, and each keeps
-- what the ones before it have done wherever its own keys are the same.
namespace JsonExpr

namespace Builtin

open Sorting

mutual

-- The criteria that an operand lists: a path, a selector with or without a direction, or the
-- criteria of at least one part.
inductive Lists : Value → List Criterion → Prop where
  | path (path : String) : Lists (.string path) [⟨.string path, false⟩]
  | selector {fields : Object} {selector : Value} (hby : fields.find? "by" = some selector) :
    Lists (.object fields) [⟨selector, (fields.find? "desc").any Value.isTruthy⟩]
  | parts {part : Value} {rest : List Value} {criteria : List Criterion}
    (h : ListsAll (part :: rest) criteria) : Lists (.array (part :: rest)) criteria

inductive ListsAll : List Value → List Criterion → Prop where
  | nil : ListsAll [] []
  | cons {part : Value} {rest : List Value} {first others : List Criterion} (h : Lists part first)
    (hrest : ListsAll rest others) : ListsAll (part :: rest) (first ++ others)

end

mutual

theorem criteria?_of_lists {operand : Value} {criteria : List Criterion} :
    Lists operand criteria → criteria? operand = some criteria
  | .path _ => by rw [criteria?]
  | @Lists.selector fields selector hby => by
    rw [criteria?, hby]
    cases Fields.find? "desc" fields <;> rfl
  | .parts h => by
    rw [criteria?]
    exact criteriaOfItems?_of_listsAll h

theorem criteriaOfItems?_of_listsAll {parts : List Value} {criteria : List Criterion} :
    ListsAll parts criteria → criteriaOfItems? parts = some criteria
  | .nil => by rw [criteriaOfItems?]
  | .cons h hrest => by
    rw [criteriaOfItems?, criteria?_of_lists h, criteriaOfItems?_of_listsAll hrest]
    rfl

end

theorem lists_of_criteria? {operand : Value} {criteria : List Criterion}
    (h : criteria? operand = some criteria) : Lists operand criteria := by
  induction operand using Value.induct generalizing criteria with
  | null | bool | number => simp [criteria?] at h
  | string path =>
    obtain rfl : [⟨.string path, false⟩] = criteria := by simpa [criteria?] using h
    exact .path path
  | object fields _ =>
    obtain ⟨selector, hby, rfl⟩ := Option.map_eq_some_iff.mp (by simpa only [criteria?] using h)
    have hdescending : ((Fields.find? "desc" fields).getD .null).isTruthy =
        (Fields.find? "desc" fields).any Value.isTruthy := by
      cases Fields.find? "desc" fields <;> rfl
    rw [hdescending]
    exact .selector hby
  | array items ih =>
    have hparts : ∀ parts : List Value, (∀ part ∈ parts, part ∈ items) → ∀ found,
        criteriaOfItems? parts = some found → ListsAll parts found := by
      intro parts
      induction parts with
      | nil =>
        intro _ found hfound
        obtain rfl : [] = found := by simpa [criteriaOfItems?] using hfound
        exact .nil
      | cons part rest ihrest =>
        intro hsub found hfound
        obtain ⟨hpart, hrest⟩ := List.forall_mem_cons.mp hsub
        simp only [criteriaOfItems?, Option.bind_eq_bind, Option.bind_eq_some_iff] at hfound
        obtain ⟨first, hfirst, others, hothers, heq⟩ := hfound
        obtain rfl := Option.some.inj heq
        exact .cons (ih part hpart hfirst) (ihrest hrest others hothers)
    cases items with
    | nil => simp [criteria?] at h
    | cons part rest =>
      rw [criteria?] at h
      exact .parts (hparts (part :: rest) (fun _ hmem => hmem) criteria h)

-- An operand lists at most one list of criteria, and is accepted if it lists any.
theorem criteria?_eq_some_iff {operand : Value} {criteria : List Criterion} :
    criteria? operand = some criteria ↔ Lists operand criteria :=
  ⟨lists_of_criteria?, criteria?_of_lists⟩

section Passes

variable {α β : Type} {key : Criterion → α → Value} {criteria : List Criterion} {xs : List α}
  {R : α → α → Prop}

-- Whether an item has to come before another one, by the first criterion that tells them apart.
inductive Before (key : Criterion → α → Value) : List Criterion → α → α → Prop where
  | first {criterion : Criterion} {x y : α}
    (h : Precedes criterion.descending (key criterion x) (key criterion y))
    (rest : List Criterion) : Before key (criterion :: rest) x y
  | later {criterion : Criterion} {x y : α} (htie : key criterion x = key criterion y)
    {rest : List Criterion} (h : Before key rest x y) : Before key (criterion :: rest) x y

theorem Before.of_comp {f : β → α} {x y : β}
    (h : Before (fun criterion => key criterion ∘ f) criteria x y) :
    Before key criteria (f x) (f y) := by
  induction h with
  | first h rest => exact .first h rest
  | later htie _ ih => exact .later htie ih

theorem Before.not_tie {x y : α} (h : Before key criteria x y) :
    ¬∀ criterion ∈ criteria, key criterion x = key criterion y := by
  induction h with
  | first h rest =>
    intro hties
    rw [hties _ List.mem_cons_self] at h
    exact h.asymm h
  | later _ _ ih => exact fun hties => ih fun criterion hmem => hties criterion (.tail _ hmem)

theorem Before.asymm {x y : α} (h : Before key criteria x y) : ¬Before key criteria y x := by
  induction h with
  | first h rest =>
    intro h'
    cases h' with
    | first h' => exact h.asymm h'
    | later htie =>
      rw [htie] at h
      exact h.asymm h
  | later htie _ ih =>
    intro h'
    cases h' with
    | first h' =>
      rw [htie] at h'
      exact h'.asymm h'
    | later _ h' => exact ih h'

def passes (key : Criterion → α → Value) (criteria : List Criterion) (xs : List α) : List α :=
  criteria.foldr (fun criterion xs => pass (key criterion) criterion.descending xs) xs

theorem passes_perm (key : Criterion → α → Value) (criteria : List Criterion) (xs : List α) :
    (passes key criteria xs).Perm xs := by
  induction criteria with
  | nil => exact .refl xs
  | cons criterion rest ih => exact (pass_perm _ _ _).trans ih

theorem passes_map (key : Criterion → α → Value) (criteria : List Criterion) (f : β → α)
    (ys : List β) :
    passes key criteria (ys.map f) =
      (passes (fun criterion => key criterion ∘ f) criteria ys).map f := by
  induction criteria with
  | nil => rfl
  | cons criterion rest ih =>
    rw [passes, List.foldr_cons, ← passes, ih, pass_map]
    rfl

theorem pairwise_passes (hkeys : ∀ criterion ∈ criteria, Uniform (key criterion) xs)
    (hR : xs.Pairwise R) :
    (passes key criteria xs).Pairwise fun x y =>
      Before key criteria x y ∨ (∀ criterion ∈ criteria, key criterion x = key criterion y) ∧
        R x y := by
  induction criteria with
  | nil => exact hR.imp fun hxy => .inr ⟨nofun, hxy⟩
  | cons criterion rest ih =>
    obtain ⟨hfirst, hrest⟩ := List.forall_mem_cons.mp hkeys
    have huniform := hfirst.perm (passes_perm key rest xs)
    -- the last pass is the one of the first criterion, and what it ties is in the order of the rest
    refine (pairwise_pass criterion.descending huniform (ih hrest)).imp fun {x y} h => ?_
    rcases h with hprecedes | ⟨htie, hbefore | ⟨hties, hxy⟩⟩
    · exact .inl (.first hprecedes rest)
    · exact .inl (.later htie hbefore)
    · exact .inr ⟨List.forall_mem_cons.mpr ⟨htie, hties⟩, hxy⟩

end Passes

-- A list in the order of the criteria. Every item has its position in the original list beside it,
-- which decides where no criterion does.
def InOrderOf (key : Criterion → Value → Value) (criteria : List Criterion)
    (items sorted : List Value) : Prop :=
  ∃ placed : List (Value × Nat), placed.Perm items.zipIdx ∧ placed.map Prod.fst = sorted ∧
    placed.Pairwise fun x y =>
      Before key criteria x.1 y.1 ∨
        (∀ criterion ∈ criteria, key criterion x.1 = key criterion y.1) ∧ x.2 < y.2

theorem inOrderOf_passes {key : Criterion → Value → Value} {criteria : List Criterion}
    {items : List Value} (hkeys : ∀ criterion ∈ criteria, Uniform (key criterion) items) :
    InOrderOf key criteria items (passes key criteria items) := by
  have hplaced : ∀ criterion ∈ criteria, Uniform (key criterion ∘ Prod.fst) items.zipIdx := by
    have hitem {x : Value × Nat} (hx : x ∈ items.zipIdx) : x.1 ∈ items := by
      rw [← List.zipIdx_map_fst 0 items]
      exact List.mem_map_of_mem hx
    intro criterion hmem
    exact (hkeys criterion hmem).imp (fun h x hx => h x.1 (hitem hx)) fun h x hx => h x.1 (hitem hx)
  have hordered := pairwise_passes hplaced (pairwise_zipIdx items)
  refine ⟨passes (fun criterion => key criterion ∘ Prod.fst) criteria items.zipIdx,
    passes_perm _ _ _, ?_, hordered.imp fun h => h.imp_left .of_comp⟩
  rw [← passes_map, List.zipIdx_map_fst]

-- Criteria and positions together leave no choice.
theorem InOrderOf.eq {key : Criterion → Value → Value} {criteria : List Criterion}
    {items sorted other : List Value} (h : InOrderOf key criteria items sorted)
    (h' : InOrderOf key criteria items other) : sorted = other := by
  obtain ⟨placed, hperm, rfl, hplaced⟩ := h
  obtain ⟨placed', hperm', rfl, hplaced'⟩ := h'
  have hsame : placed = placed' := by
    refine (hperm.trans hperm'.symm).eq_of_pairwise (fun x y _ _ hxy hyx => ?_) hplaced hplaced'
    rcases hxy with hxy | ⟨hties, hlt⟩
    · rcases hyx with hyx | ⟨hties, -⟩
      · exact absurd hyx hxy.asymm
      · exact absurd (fun criterion hmem => (hties criterion hmem).symm) hxy.not_tie
    · rcases hyx with hyx | ⟨-, hgt⟩
      · exact absurd (fun criterion hmem => (hties criterion hmem).symm) hyx.not_tie
      · exact absurd hgt (lt_asymm hlt)
  rw [hsame]

theorem inOrderOf_iff {key : Criterion → Value → Value} {criteria : List Criterion}
    {items sorted : List Value} (hkeys : ∀ criterion ∈ criteria, Uniform (key criterion) items) :
    InOrderOf key criteria items sorted ↔ sorted = passes key criteria items := by
  constructor
  · exact fun h => h.eq (inOrderOf_passes hkeys)
  · rintro rfl
    exact inOrderOf_passes hkeys

section Runs

variable {resolve : Request → Run Value} {registered : String → Bool}

-- The key that an item has: what is at the path, or what the expression always resolves to.
def HasKey (resolve : Request → Run Value) (selector item key : Value) : Prop :=
  match selector with
  | .string path => item.read (Path.parse path) = key
  | _ => (resolve (.apply selector item)).Yields key

-- So it is for every criterion and every item.
def HasKeys (resolve : Request → Run Value) (key : Criterion → Value → Value)
    (criteria : List Criterion) (items : List Value) : Prop :=
  ∀ criterion ∈ criteria, ∀ item ∈ items,
    HasKey resolve criterion.selector item (key criterion item)

theorem yields_selectKey {selector item key : Value} (h : HasKey resolve selector item key) :
    ((selectKey selector item).run resolve registered).Yields key := by
  unfold HasKey at h
  unfold selectKey
  split at h
  · rw [← h]
    exact Run.yields_done _
  · simpa using h

theorem yields_sortPass {criterion : Criterion} {key : Value → Value} {items : List Value}
    (hkey : ∀ item ∈ items, HasKey resolve criterion.selector item (key item))
    (huniform : Uniform key items) :
    ((sortPass criterion items).run resolve registered).Yields
      (pass key criterion.descending items) := by
  have htest (test : Value → Bool) :
      ((Script.keep (fun item => do return test (← selectKey criterion.selector item)) items).run
        resolve registered).Yields (items.filter fun item => test (key item)) := by
    refine Script.yields_keep fun item hmem => ?_
    rw [Script.run_bind]
    exact (yields_selectKey (hkey item hmem)).bind (Run.yields_done _)
  have hkeys : ((Script.each (selectKey criterion.selector)
      (items.filter fun item => !(key item).isNull)).run resolve registered).Yields
        ((items.filter fun item => !(key item).isNull).map key) :=
    Script.yields_each fun item hmem => yields_selectKey (hkey item (List.mem_filter.mp hmem).1)
  simp only [sortPass, Script.run_bind]
  refine (htest fun key => !key.isNull).bind ((htest Value.isNull).bind ?_)
  rw [Script.run_guard]
  refine (hkeys.guard _).bind ?_
  rw [byKeys?_eq_inOrder criterion.descending huniform.oneKind_present]
  exact Run.yields_done _

variable {operand : Value} {criteria : List Criterion} (hlists : Lists operand criteria)
  {key : Criterion → Value → Value} {items : List Value}
  (hkeys : HasKeys resolve key criteria items)
  (huniform : ∀ criterion ∈ criteria, Uniform (key criterion) items)

include hlists hkeys huniform

theorem yields_sortItems :
    ((sortItems (.array items) operand).run resolve registered).Yields
      (.array (passes key criteria items)) := by
  have hpasses : ((Script.fold (fun items criterion => sortPass criterion items) items
      criteria.reverse).run resolve registered).Yields (passes key criteria items) := by
    rw [passes, ← List.foldl_reverse]
    refine Script.yields_fold (fun sorted => sorted.Perm items) (.refl items) ?_
    intro sorted hperm criterion hmem
    have hmem := List.mem_reverse.mp hmem
    refine ⟨(pass_perm _ _ _).trans hperm, yields_sortPass (fun item hitem => ?_) ?_⟩
    · exact hkeys criterion hmem item (hperm.mem_iff.mp hitem)
    · exact (huniform criterion hmem).perm hperm
  simp only [sortItems, requireList, criteria?_eq_some_iff.mpr hlists, Script.run_bind,
    Script.run_done, Run.bind_done]
  exact hpasses.bind (Run.yields_done _)

theorem yields_sort_applied :
    ((sort.call .apply operand (.array items)).run resolve registered).Yields
      (.array (passes key criteria items)) :=
  yields_sortItems hlists hkeys huniform

theorem yields_sort_evaluated {fields : Object} {array input : Value}
    (harray : fields.find? "array" = some array)
    (hcriteria : fields.find? "sortCriteria" = some operand)
    (hitems : (resolve (.evaluate array)).Yields (.array items)) :
    ((sort.call .evaluate (.object fields) input).run resolve registered).Yields
      (.array (passes key criteria items)) := by
  have hfields : requireKeys "$sort" ["array", "sortCriteria"] (.object fields) = .done fields :=
    requireKeys_of_contains (by simp [contains_of_find? harray, contains_of_find? hcriteria])
  simp only [sort, both, Operation.call, hfields, field_of_find? harray, field_of_find? hcriteria,
    Script.run_bind, Script.run_done, Script.run_evaluate, Run.bind_done]
  exact hitems.bind (yields_sortItems hlists hkeys huniform)

end Runs

end Builtin

end JsonExpr
