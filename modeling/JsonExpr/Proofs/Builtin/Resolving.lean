import JsonExpr.Builtin.Conditions
import JsonExpr.Builtin.Flow
import JsonExpr.Builtin.Iteration
import JsonExpr.Builtin.Reading
import JsonExpr.Proofs.Builtin.Limits

-- Operations that choose which parts of their operand they have resolved, or have them resolved
-- again and again.
namespace JsonExpr

open Script

namespace Builtin

variable {registered : String → Bool} {operand : Value} {name : String}

-- Operations whose two forms differ in the way they resolve values only.
section Resolving

-- A way to resolve values that stays within limits on every value that they allow.
variable {resolve : Value → Script Value}
  (hresolve : ∀ value, operand.Offers value →
    (resolve value).Within (.ordinary registered operand) fun _ => True)

include hresolve

theorem withDefault_within :
    (withDefault resolve operand).Within (.ordinary registered operand) fun _ => True := by
  have hparts : ∀ expression fallback, operand.Offers expression → operand.Offers fallback →
      (do let result ← resolve expression
          if result.isNull then resolve fallback else return result).Within
        (.ordinary registered operand) fun _ => True := by
    intro expression fallback hexpression hfallback
    rw [within_bind]
    refine (hresolve expression hexpression).mono fun result _ => ?_
    split
    · exact hresolve fallback hfallback
    · trivial
  rw [withDefault, within_bind]
  unfold defaultParts
  split
  · exact hparts _ _ (Value.offers_item (by simp)) (Value.offers_item (by simp))
  · trivial
  · split
    · next hexpression hfallback =>
      exact hparts _ _ (.inr (.of_find? (by decide) hexpression))
        (.inr (.of_find? (by decide) hfallback))
    · trivial
  · trivial

theorem chooseBranch_within :
    (chooseBranch resolve operand).Within (.ordinary registered operand) fun _ => True := by
  rw [chooseBranch, within_bind, within_requireFields (Limits.ordinary_allowsOwn _ _)]
  rintro fields rfl
  split
  · trivial
  · next condition hcondition =>
    rw [within_bind]
    refine (hresolve condition (.inr (.of_find? (by decide) hcondition))).mono fun value _ => ?_
    rw [within_bind]
    unfold requireCondition
    split
    · next holds => cases holds <;> exact hresolve _ (Value.offers_field (by decide))
    · trivial

theorem clauseMatches_within {clause : Value} (value : Value)
    (hclause : Value.Exposed operand clause) :
    (clauseMatches resolve clause value).Within (.ordinary registered operand)
      fun _ => True := by
  rw [clauseMatches, within_bind, within_isExpression]
  refine ⟨hclause.part, ?_⟩
  split
  · refine within_apply_bind (.inr hclause) fun answer => ?_
    split <;> trivial
  · rw [within_bind]
    exact (hresolve clause (.inr hclause)).mono fun _ _ => trivial

theorem firstCase?_within (value : Value) {cases : List Value}
    (hcases : ∀ item ∈ cases, Value.Exposed operand item) :
    (firstCase? resolve value cases).Within (.ordinary registered operand) fun _ => True := by
  induction cases with
  | nil => trivial
  | cons item rest ih =>
    obtain ⟨hitem, hrest⟩ := List.forall_mem_cons.mp hcases
    unfold firstCase?
    split
    · trivial
    · next fields _ heq =>
      obtain ⟨rfl, rfl⟩ := List.cons.inj heq
      split
      · trivial
      · next clause hwhen =>
        rw [within_bind]
        have hclause := hitem.trans (.of_find? (by decide) hwhen)
        refine (clauseMatches_within hresolve value hclause).mono fun holds _ => ?_
        cases holds
        · exact ih hrest
        · simp only [ite_true, within_bind]
          have hthen : operand.Offers (field "then" fields) :=
            Value.Offers.trans_exposed hitem (Value.offers_field (by decide))
          exact (hresolve _ hthen).mono fun _ _ => trivial
    · trivial

theorem selectCase_within :
    (selectCase resolve operand).Within (.ordinary registered operand) fun _ => True := by
  rw [selectCase, within_bind, within_requireFields (Limits.ordinary_allowsOwn _ _)]
  rintro fields rfl
  split
  · next cases hcases =>
    rw [within_bind]
    refine (hresolve _ (Value.offers_field (by decide))).mono fun value _ => ?_
    rw [within_bind]
    have hlist : Value.Exposed (.object fields) (.array cases) := .of_find? (by decide) hcases
    refine (firstCase?_within hresolve value fun item hmem =>
      hlist.trans (.item hmem (.refl item))).mono fun found _ => ?_
    cases found
    · exact hresolve _ (Value.offers_field (by decide))
    · trivial
  · trivial

theorem debugWith_within :
    (debugWith resolve operand).Within (.ordinary registered operand) fun _ => True := by
  rw [debugWith, within_bind]
  exact (hresolve operand (Value.offers_self operand)).mono fun _ _ => trivial

end Resolving

theorem resolving_ordinary {run : (Value → Script Value) → Value → Script Value}
    (hrun : ∀ {registered operand} {resolve : Value → Script Value},
      (∀ value, operand.Offers value →
        (resolve value).Within (.ordinary registered operand) fun _ => True) →
      (run resolve operand).Within (.ordinary registered operand) fun _ => True) :
    (both (fun operand input => run (fun value => .apply value input) operand)
      (run .evaluate)).Ordinary := by
  refine within_both (fun registered operand input => ?_) fun registered operand => ?_
  · exact hrun fun value hoffers => ⟨hoffers, fun _ => trivial⟩
  · exact hrun fun value hoffers => ⟨hoffers, fun _ => trivial⟩

theorem connective_ordinary {decide : (Value → Script Bool) → List Value → Script Bool}
    (hdecide : ∀ {limits : Limits} {test : Value → Script Bool} {items : List Value},
      (∀ item ∈ items, (test item).Within limits fun _ => True) →
      (decide test items).Within limits fun _ => True) :
    (connective name decide).Ordinary := by
  refine within_both (fun registered operand input => ?_) fun registered operand => ?_
  all_goals
    rw [within_bind]
    unfold requireExpressions
    split
    · rw [within_done, within_bind]
      refine (hdecide fun item hmem => ?_).mono fun _ _ => trivial
      exact ⟨Value.offers_item hmem, fun _ => trivial⟩
    · trivial

-- A composition applies no expression that it has not asked about.
theorem composition_ordinary {order : List Value → List Value}
    (horder : ∀ items, ∀ item ∈ order items, item ∈ items) : (composition name order).Ordinary := by
  have hchain : ∀ registered operand items start,
      (∀ item ∈ items, Value.Exposed operand item) →
      (chain (order items) start).Within (.ordinary registered operand) fun _ => True := by
    intro registered operand items start hitems
    refine within_fold fun item hmem acc => ?_
    exact ⟨.inr (hitems item (horder items item hmem)), fun _ => trivial⟩
  have hcomposable : ∀ registered operand expressions,
      Value.Exposed operand expressions →
      (requireComposable name expressions).Within (.ordinary registered operand)
        fun items => ∀ item ∈ items, Value.Exposed operand item := by
    intro registered operand expressions hexposed
    unfold requireComposable
    split
    · next items =>
      have hitems : ∀ item ∈ items, Value.Exposed operand item := fun item hmem =>
        hexposed.trans (.item hmem (.refl item))
      rw [within_bind]
      refine (within_first? fun item hmem => ?_).mono fun found _ => ?_
      · exact ⟨(hitems item hmem).part, trivial⟩
      · split
        · trivial
        · exact hitems
    · trivial
  refine within_both (fun registered operand input => ?_) fun registered operand => ?_
  · rw [within_bind]
    exact (hcomposable registered operand operand (.refl operand)).mono fun items hitems =>
      hchain registered operand items input hitems
  · rw [within_bind, within_requirePair (Limits.ordinary_allowsOwn registered operand)]
    rintro first seed rfl
    simp only [within_bind]
    refine (hcomposable registered _ first (.item (by simp) (.refl first))).mono
      fun items hitems => ?_
    exact ⟨Value.offers_item (by simp), fun start => hchain registered _ items start hitems⟩

theorem iteration_ordinary {run : (Value → Script Value) → List Value → Script Value}
    (hrun : ∀ {limits : Limits} {step : Value → Script Value} {items : List Value},
      (∀ item ∈ items, (step item).Within limits fun _ => True) →
      (run step items).Within limits fun _ => True) :
    (iteration name run).Ordinary := by
  refine within_both (fun registered operand input => ?_) fun registered operand => ?_
  · rw [within_bind, within_requireList (Limits.ordinary_allowsOwn registered operand)]
    exact fun items _ => hrun fun item _ => ⟨Value.offers_self operand, fun _ => trivial⟩
  · rw [within_bind, within_requirePair (Limits.ordinary_allowsOwn registered operand)]
    rintro array expression rfl
    refine within_evaluate_bind (Value.offers_item (by simp)) fun value => ?_
    rw [within_bind, within_requireList (Limits.ordinary_allowsOwn registered _)]
    exact fun items _ => hrun fun item _ => ⟨Value.offers_item (by simp), fun _ => trivial⟩

theorem each_within {limits : Limits} {step : Value → Script Value} {items : List Value}
    (change : List Value → List Value)
    (h : ∀ item ∈ items, (step item).Within limits fun _ => True) :
    (do return Value.array (change (← Script.each step items))).Within limits fun _ => True := by
  rw [within_bind]
  exact (within_each h).mono fun _ _ => trivial

theorem asTest_within {limits : Limits} {step : Value → Script Value} {item : Value}
    (h : (step item).Within limits fun _ => True) :
    (asTest step item).Within limits fun _ => True := by
  rw [asTest, within_bind]
  exact h.mono fun _ _ => trivial

theorem selectKey_within {selector : Value} (item : Value) (hselector : operand.Offers selector) :
    (selectKey selector item).Within (.ordinary registered operand) fun _ => True := by
  unfold selectKey
  split
  · trivial
  · exact ⟨hselector, fun _ => trivial⟩

-- An operation on a list and a selector of the operand.
theorem selection_ordinary {shape : String} {run : Value → Value → Script Value}
    (hrun : ∀ {registered operand selector} (items : Value), Value.Offers operand selector →
      (run items selector).Within (.ordinary registered operand) fun _ => True) :
    (both (fun operand input => run input operand) fun operand => do
      let (array, selector) ← requirePair name shape operand
      run (← .evaluate array) selector).Ordinary := by
  refine within_both (fun registered operand input => ?_) fun registered operand => ?_
  · exact hrun input (Value.offers_self operand)
  · rw [within_bind, within_requirePair (Limits.ordinary_allowsOwn registered operand)]
    rintro array selector rfl
    exact within_evaluate_bind (Value.offers_item (by simp)) fun items =>
      hrun items (Value.offers_item (by simp))

theorem pluck_ordinary : pluck.Ordinary := by
  refine selection_ordinary fun {registered operand selector} items hselector => ?_
  rw [pluckFrom, within_bind, within_requireList (Limits.ordinary_allowsOwn registered operand)]
  intro items _
  rw [within_bind]
  exact (within_each fun item _ => selectKey_within item hselector).mono fun _ _ => trivial

theorem groupItems_within {selector : Value} (hselector : operand.Offers selector)
    (groups : Fields (List Value)) (items : List Value) :
    (groupItems selector groups items).Within (.ordinary registered operand) fun _ => True := by
  induction items generalizing groups with
  | nil => trivial
  | cons item rest ih =>
    rw [groupItems, within_bind]
    refine (selectKey_within item hselector).mono fun key _ => ?_
    split
    · trivial
    · exact ih _

theorem groupBy_ordinary : groupBy.Ordinary := by
  refine selection_ordinary fun {registered operand selector} items hselector => ?_
  rw [groupFrom, within_bind, within_requireList (Limits.ordinary_allowsOwn registered operand)]
  intro items _
  rw [within_bind]
  exact (groupItems_within hselector [] items).mono fun _ _ => trivial

-- The selectors of sort criteria are exposed in the operand that gives the criteria.
theorem exposed_of_criteria? {operand : Value} {criteria : List Criterion}
    (h : criteria? operand = some criteria) :
    ∀ criterion ∈ criteria, Value.Exposed operand criterion.selector := by
  induction operand using Value.induct generalizing criteria with
  | null | bool | number => simp [criteria?] at h
  | string path =>
    obtain rfl : [⟨.string path, false⟩] = criteria := by simpa [criteria?] using h
    simpa using Value.Exposed.refl _
  | object fields _ =>
    obtain ⟨selector, hby, rfl⟩ := Option.map_eq_some_iff.mp (by simpa only [criteria?] using h)
    simpa using Value.Exposed.of_find? (by decide) hby
  | array items ih =>
    have hitems : ∀ (parts : List Value), (∀ part ∈ parts, part ∈ items) → ∀ found,
        criteriaOfItems? parts = some found →
        ∀ criterion ∈ found, Value.Exposed (.array items) criterion.selector := by
      intro parts
      induction parts with
      | nil =>
        intro _ found hfound
        obtain rfl : [] = found := by simpa [criteriaOfItems?] using hfound
        simp
      | cons part rest ihrest =>
        intro hsub found hfound
        obtain ⟨hpart, hrest⟩ := List.forall_mem_cons.mp hsub
        simp only [criteriaOfItems?, Option.bind_eq_bind, Option.bind_eq_some_iff] at hfound
        obtain ⟨first, hfirst, others, hothers, heq⟩ := hfound
        obtain rfl := Option.some.inj heq
        intro criterion hmem
        rcases List.mem_append.mp hmem with hmem | hmem
        · exact .item hpart (ih part hpart hfirst criterion hmem)
        · exact ihrest hrest others hothers criterion hmem
    cases items with
    | nil => simp [criteria?] at h
    | cons part rest => exact hitems _ (fun _ hmem => hmem) criteria h

theorem sortPass_within {criterion : Criterion} (items : List Value)
    (hselector : operand.Offers criterion.selector) :
    (sortPass criterion items).Within (.guarding registered operand) fun _ => True := by
  have hkey (item : Value) : (selectKey criterion.selector item).Within
      (.guarding registered operand) fun _ => True :=
    (selectKey_within item hselector).widen (Limits.offering_wider False.elim id registered operand)
  have htest (test : Value → Bool) (item : Value) :
      (do return test (← selectKey criterion.selector item)).Within (.guarding registered operand)
        fun _ => True := by
    rw [within_bind]
    exact (hkey item).mono fun _ _ => trivial
  simp only [sortPass, within_bind]
  refine (within_keep fun item _ => htest (fun key => !key.isNull) item).mono
    fun present _ => ?_
  refine (within_keep fun item _ => htest Value.isNull item).mono fun missing _ => ?_
  have hkeys : (each (selectKey criterion.selector) present).Within
      (.guarding registered operand) fun _ => True := within_each fun item _ => hkey item
  refine (within_guard hkeys trivial trivial).mono fun keys _ => ?_
  split <;> trivial

theorem sortItems_within (items : Value) {criteria : Value}
    (hcriteria : operand.Offers criteria) :
    (sortItems items criteria).Within (.guarding registered operand) fun _ => True := by
  rw [sortItems, within_bind, within_requireList (Limits.guarding_allowsOwn registered operand)]
  intro items _
  split
  · trivial
  · next found hfound =>
    rw [within_bind]
    refine (within_fold fun criterion hmem sorted => ?_).mono fun _ _ => trivial
    have hexposed := exposed_of_criteria? hfound criterion (List.mem_reverse.mp hmem)
    exact sortPass_within sorted (hcriteria.trans (.inr hexposed))

theorem sort_guarding : sort.Within .guarding := by
  refine within_both (fun registered operand input => ?_) fun registered operand => ?_
  · exact sortItems_within input (Value.offers_self operand)
  · rw [within_bind, within_requireKeys (Limits.guarding_allowsOwn registered operand)]
    rintro fields rfl -
    exact within_evaluate_bind (Value.offers_field (by decide)) fun items =>
      sortItems_within items (Value.offers_field (by decide))

theorem computes_requirePath (value : Value) : (requirePath value).Computes := by
  unfold requirePath
  split <;> simp

theorem orDefault_within {resolve : Value → Script Value} (found : Value) {fallback : Value}
    (hresolve : (resolve fallback).Within (.ordinary registered operand) fun _ => True) :
    (orDefault found fallback resolve).Within (.ordinary registered operand) fun _ => True := by
  unfold orDefault
  split
  · exact hresolve
  · trivial

theorem get_ordinary : get.Ordinary := by
  refine within_both (fun registered operand input => ?_) fun registered operand => ?_
  · unfold getWithInput
    split
    · split
      · trivial
      · next path hpath =>
        refine within_apply_bind (.inr (.of_find? (by decide) hpath)) fun value => ?_
        rw [within_bind]
        refine (within_of_computes (computes_requirePath value)).mono fun path _ => ?_
        exact orDefault_within _ ⟨Value.offers_field (by decide), fun _ => trivial⟩
    · refine within_apply_bind (Value.offers_self _) fun value => ?_
      rw [within_bind]
      exact (within_of_computes (computes_requirePath value)).mono fun _ _ => trivial
  · rw [getAlone, within_bind, within_requireKeys (Limits.ordinary_allowsOwn registered operand)]
    rintro fields rfl -
    refine within_evaluate_bind (Value.offers_field (by decide)) fun object => ?_
    refine within_evaluate_bind (Value.offers_field (by decide)) fun value => ?_
    rw [within_bind]
    refine (within_of_computes (computes_requirePath value)).mono fun path _ => ?_
    exact orDefault_within _ ⟨Value.offers_field (by decide), fun _ => trivial⟩

theorem computes_selectOne (input key : Value) : (selectOne input key).Computes := by
  refine computes_bind (computes_ofExcept _) fun segments => ?_
  refine computes_bind (computes_ofExcept _) fun value => ?_
  split
  · simp
  · split <;> simp

theorem selectPaths_within (input : Value) {paths : List Value}
    (hpaths : ∀ path ∈ paths, operand.Offers path) (selected : Object) :
    (selectPaths input paths selected).Within (.ordinary registered operand) fun _ => True := by
  induction paths generalizing selected with
  | nil => trivial
  | cons path rest ih =>
    obtain ⟨hpath, hrest⟩ := List.forall_mem_cons.mp hpaths
    have hkey (key : Value) : (selectOne input key).Within (.ordinary registered operand)
        fun _ => True := within_of_computes (computes_selectOne input key)
    unfold selectPaths
    split
    · rw [within_bind, within_done, within_bind]
      refine (hkey _).mono fun found _ => ?_
      split <;> exact ih hrest _
    · refine within_apply_bind hpath fun key => ?_
      rw [within_bind]
      refine (hkey key).mono fun found _ => ?_
      split <;> exact ih hrest _

theorem selectFrom_within (input : Value) {selection : Value}
    (hselection : operand.Offers selection) :
    (selectFrom selection input).Within (.ordinary registered operand) fun _ => True := by
  unfold selectFrom
  split
  · rw [within_bind]
    refine (selectPaths_within input (fun path hmem => ?_) []).mono fun _ _ => trivial
    exact hselection.trans (Value.offers_item hmem)
  · next fields hnone =>
    rw [within_bind]
    refine (within_each fun entry hmem => ?_).mono fun _ _ => trivial
    have hentry := Value.Exposed.of_expression?_eq_none hnone hmem
    exact within_apply_bind (hselection.trans (.inr hentry)) fun _ => trivial
  · trivial

theorem select_ordinary : select.Ordinary := by
  refine within_both (fun registered operand input => ?_) fun registered operand => ?_
  · exact selectFrom_within input (Value.offers_self operand)
  · rw [within_bind, within_requireKeys (Limits.ordinary_allowsOwn registered operand)]
    rintro fields rfl -
    exact within_evaluate_bind (Value.offers_field (by decide)) fun object =>
      selectFrom_within object (Value.offers_field (by decide))

theorem not_ordinary : not.Ordinary :=
  within_both (fun _ operand _ => ⟨Value.offers_self operand, fun _ => trivial⟩)
    fun _ operand => ⟨Value.offers_self operand, fun _ => trivial⟩

theorem choices_ordinary :
    ifThenElse.Ordinary ∧ caseOf.Ordinary ∧ defaultTo.Ordinary ∧ debug.Ordinary ∧
      and.Ordinary ∧ or.Ordinary ∧ not.Ordinary :=
  ⟨resolving_ordinary chooseBranch_within, resolving_ordinary selectCase_within,
    resolving_ordinary withDefault_within, resolving_ordinary debugWith_within,
    connective_ordinary within_every, connective_ordinary within_any, not_ordinary⟩

theorem compositions_ordinary : pipe.Ordinary ∧ compose.Ordinary :=
  ⟨composition_ordinary fun _ _ hmem => hmem,
    composition_ordinary fun _ _ hmem => List.mem_reverse.mp hmem⟩

theorem iterations_ordinary :
    map.Ordinary ∧ filter.Ordinary ∧ find.Ordinary ∧ all.Ordinary ∧ any.Ordinary ∧
      flatMap.Ordinary := by
  refine ⟨iteration_ordinary (each_within id), iteration_ordinary fun h => ?_,
    iteration_ordinary fun h => ?_, iteration_ordinary fun h => ?_,
    iteration_ordinary fun h => ?_,
    iteration_ordinary (each_within fun results => results.flatMap Value.wildcardItems)⟩
  all_goals rw [within_bind]
  · exact (within_keep fun item hmem => asTest_within (h item hmem)).mono fun _ _ => trivial
  · exact (within_first? fun item hmem => asTest_within (h item hmem)).mono fun _ _ => trivial
  · exact (within_every fun item hmem => asTest_within (h item hmem)).mono fun _ _ => trivial
  · exact (within_any fun item hmem => asTest_within (h item hmem)).mono fun _ _ => trivial

end Builtin

end JsonExpr
