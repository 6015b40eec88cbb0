import JsonExpr.Builtin.Arithmetic
import JsonExpr.Builtin.Chance
import JsonExpr.Builtin.Comparison
import JsonExpr.Builtin.Objects
import JsonExpr.Builtin.Patterns
import JsonExpr.Builtin.Reading
import JsonExpr.Builtin.Sequence
import JsonExpr.Builtin.Statistics
import JsonExpr.Proofs.Builtin.Limits

-- Operations that resolve their operand, or named parts of it, and then only compute.
namespace JsonExpr

open Script

namespace Builtin

variable {name : String}

theorem computes_computePair {compute : Number → Number → Script Number}
    (hcompute : ∀ a b, (compute a b).Computes) (left right : Value) :
    (computePair name compute left right).Computes := by
  refine computes_bind (computes_requireNumber name left) fun a => ?_
  refine computes_bind (computes_requireNumber name right) fun b => ?_
  exact computes_bind (hcompute a b) fun _ => computes_pure _

theorem computes_pairOf (items : List Value) : (pairOf name items).Computes := by
  unfold pairOf
  split <;> simp

theorem binary_ordinary {compute : Number → Number → Script Number}
    (hcompute : ∀ a b, (compute a b).Computes) : (binary name compute).Ordinary := by
  have hitems : ∀ items, (do
      let pair ← pairOf name items
      computePair name compute pair.1 pair.2).Computes := fun items =>
    computes_bind (computes_pairOf items) fun pair => computes_computePair hcompute pair.1 pair.2
  refine within_both (fun registered operand input => ?_) fun registered operand => ?_
  · refine within_apply_of_computes input (Value.offers_self operand) fun value => ?_
    split
    · exact hitems _
    · exact computes_computePair hcompute input value
  · refine within_evaluate_of_computes (Value.offers_self operand) fun value => ?_
    split
    · exact hitems _
    · simp

theorem unary_ordinary {compute : Number → Script Number}
    (hcompute : ∀ n, (compute n).Computes) : (unary name compute).Ordinary := by
  refine within_both (fun registered operand input => ?_) fun registered operand => ?_
  · refine within_apply_of_computes input (Value.offers_self operand) fun value => ?_
    split <;> simp [hcompute]
  · exact within_evaluate_of_computes (Value.offers_self operand) fun value => by simp [hcompute]

theorem computes_summarize (summary : List Value → Summary) (values : Value) :
    (summarize name summary values).Computes := by
  unfold summarize
  split
  · split <;> simp
  · simp

theorem aggregation_ordinary (summary : List Value → Summary) :
    (aggregation name summary).Ordinary := by
  refine within_both (fun registered operand input => ?_) fun registered operand => ?_
  · exact within_apply_of_computes input (Value.offers_self operand) fun value =>
      computes_summarize summary _
  · exact within_evaluate_of_computes (Value.offers_self operand) (computes_summarize summary)

theorem accessor_ordinary (access : List Value → Value) : (accessor name access).Ordinary := by
  refine within_both (fun registered operand input => ?_) fun registered operand => ?_
  · refine within_apply_of_computes input (Value.offers_self operand) fun value => ?_
    split <;> simp
  · exact within_evaluate_of_computes (Value.offers_self operand) fun value => by simp

theorem reshaping_ordinary (change : List Value → List Value) :
    (reshaping name change).Ordinary := by
  refine within_both (fun registered operand input => ?_) fun registered operand => ?_
  · exact within_of_computes (by simp)
  · exact within_evaluate_of_computes (Value.offers_self operand) fun value => by simp

theorem view_ordinary (look : Object → List Value) : (view name look).Ordinary := by
  refine within_both (fun registered operand input => ?_) fun registered operand => ?_
  · exact within_of_computes (by simp)
  · exact within_evaluate_of_computes (Value.offers_self operand) fun value => by simp

theorem textChange_ordinary (change : String → String) :
    (textChange name change).Ordinary := by
  refine within_both (fun registered operand input => ?_) fun registered operand => ?_
  · exact within_of_computes (by simp)
  · exact within_evaluate_of_computes (Value.offers_self operand) fun value => by simp

theorem parameterized_ordinary {shape : String} {run : List Value → Value → Script Value}
    (hrun : ∀ items parameter, (run items parameter).Computes) :
    (parameterized name shape run).Ordinary := by
  refine within_both (fun registered operand input => ?_) fun registered operand => ?_
  · rw [within_bind, within_requireList (Limits.ordinary_allowsOwn registered operand)]
    exact fun items _ => within_apply_of_computes input (Value.offers_self operand) (hrun items)
  · rw [within_bind, within_requirePair (Limits.ordinary_allowsOwn registered operand)]
    rintro array parameter rfl
    refine within_evaluate_bind (Value.offers_item (by simp)) fun value => ?_
    rw [within_bind, within_requireList (Limits.ordinary_allowsOwn registered _)]
    exact fun items _ => within_evaluate_of_computes (Value.offers_item (by simp)) (hrun items)

theorem withParameters_ordinary {run : String → List Value → Script Value}
    (hrun : ∀ text parameters, (run text parameters).Computes) :
    (withParameters name run).Ordinary := by
  refine within_both (fun registered operand input => ?_) fun registered operand => ?_
  · exact within_apply_of_computes input (Value.offers_self operand) fun value => by simp [hrun]
  · refine within_evaluate_of_computes (Value.offers_self operand) fun value => ?_
    split <;> simp [hrun]

theorem patternTest_ordinary {compile : String → Script (List Char → Bool)}
    (hcompile : ∀ pattern, (compile pattern).Computes) :
    (patternTest name compile).Ordinary := by
  have htest : ∀ pattern text, (testPattern name compile pattern text).Computes := by
    intro pattern text
    unfold testPattern
    split <;> simp [hcompile]
  refine within_both (fun registered operand input => ?_) fun registered operand => ?_
  · exact within_apply_of_computes input (Value.offers_self operand) fun value => htest value input
  · rw [within_bind, within_requirePair (Limits.ordinary_allowsOwn registered operand)]
    rintro pattern text rfl
    exact within_evaluate_bind (Value.offers_item (by simp)) fun pattern =>
      within_evaluate_of_computes (Value.offers_item (by simp)) (htest pattern)

theorem comparison_ordinary (compare : Value → Value → Option Bool) :
    (comparison name compare).Ordinary := by
  have hchecked : ∀ left right, (checked name compare left right).Computes := by
    intro left right
    unfold checked
    split <;> simp
  refine within_both (fun registered operand input => ?_) fun registered operand => ?_
  · exact within_apply_of_computes input (Value.offers_self operand) (hchecked input)
  · rw [within_bind]
    unfold comparisonOperands
    split
    · exact within_evaluate_bind (Value.offers_item (by simp)) fun left =>
        within_evaluate_of_computes (Value.offers_item (by simp)) (hchecked left)
    · rw [within_bind, within_requireKeys (Limits.ordinary_allowsOwn registered _)]
      intro fields heq _
      cases heq
      exact within_evaluate_bind (Value.offers_field (by decide)) fun left =>
        within_evaluate_of_computes (Value.offers_field (by decide)) (hchecked left)
    · trivial

-- Operations whose self-contained form takes two named parts of the operand.
section NamedParts

theorem membership_ordinary (negate : Bool) : (membership name negate).Ordinary := by
  have hmember : ∀ value items, (member name negate value items).Computes := by
    intro value items
    unfold member
    split <;> simp
  refine within_both (fun registered operand input => ?_) fun registered operand => ?_
  · exact within_apply_of_computes input (Value.offers_self operand) (hmember input)
  · rw [within_bind, within_requireKeys (Limits.ordinary_allowsOwn registered operand)]
    rintro fields rfl -
    exact within_evaluate_bind (Value.offers_field (by decide)) fun value =>
      within_evaluate_of_computes (Value.offers_field (by decide)) (hmember value)

theorem between_ordinary : between.Ordinary := by
  have hbounds : ∀ value bounds, (withinBounds value bounds).Computes := by
    intro value bounds
    unfold withinBounds
    split
    · split
      · split <;> simp
      · simp
    · simp
  refine within_both (fun registered operand input => ?_) fun registered operand => ?_
  · exact within_apply_of_computes input (Value.offers_self operand) (hbounds input)
  · rw [within_bind, within_requireKeys (Limits.ordinary_allowsOwn registered operand)]
    rintro fields rfl -
    exact within_evaluate_of_computes (Value.offers_self _) fun bounds => hbounds _ bounds

theorem keySelection_ordinary (keep : Bool) : (keySelection name keep).Ordinary := by
  have hselect : ∀ object names, (selectKeys name keep object names).Computes := by
    intro object names
    refine computes_bind (computes_requireObject name object) fun fields => ?_
    split <;> simp
  refine within_both (fun registered operand input => ?_) fun registered operand => ?_
  · exact within_apply_of_computes input (Value.offers_self operand) (hselect input)
  · rw [within_bind, within_requireKeys (Limits.ordinary_allowsOwn registered operand)]
    rintro fields rfl -
    exact within_evaluate_bind (Value.offers_field (by decide)) fun object =>
      within_evaluate_of_computes (Value.offers_field (by decide)) (hselect object)

theorem prop_ordinary : prop.Ordinary := by
  have hproperty : ∀ data property, (propertyOf data property).Computes := by
    intro data property
    unfold propertyOf
    split <;> simp
  refine within_both (fun registered operand input => ?_) fun registered operand => ?_
  · exact within_apply_of_computes input (Value.offers_self operand) (hproperty input)
  · rw [within_bind, within_requireKeys (Limits.ordinary_allowsOwn registered operand)]
    rintro fields rfl -
    exact within_evaluate_bind (Value.offers_field (by decide)) fun object =>
      within_evaluate_of_computes (Value.offers_field (by decide)) (hproperty object)

theorem exists?_ordinary : exists?.Ordinary := by
  have hpath : ∀ path, (requireTextPath path).Computes := by
    intro path
    unfold requireTextPath
    split <;> simp
  refine within_both (fun registered operand input => ?_) fun registered operand => ?_
  · exact within_apply_of_computes input (Value.offers_self operand) fun path => by simp [hpath]
  · rw [within_bind, within_requireKeys (Limits.ordinary_allowsOwn registered operand)]
    rintro fields rfl -
    exact within_evaluate_bind (Value.offers_field (by decide)) fun object =>
      within_evaluate_of_computes (Value.offers_field (by decide)) fun path => by simp [hpath]

end NamedParts

theorem flatten_ordinary : flatten.Ordinary := by
  have hdepth : ∀ operand, (flattenDepth operand).Computes := by
    intro operand
    unfold flattenDepth
    split
    · split <;> simp
    · simp
  refine within_both (fun registered operand input => ?_) fun registered operand => ?_
  · exact within_of_computes (by simp [hdepth])
  · rw [within_bind, within_requireKeys (Limits.ordinary_allowsOwn registered operand)]
    rintro fields rfl -
    exact within_evaluate_of_computes (Value.offers_field (by decide)) fun array => by
      simp [hdepth]

theorem coalesce_ordinary : coalesce.Ordinary := by
  have hfirst : ∀ values, (firstPresent values).Computes := by
    intro values
    unfold firstPresent
    split <;> simp
  refine within_both (fun registered operand input => ?_) fun registered operand => ?_
  · exact within_apply_of_computes input (Value.offers_self operand) hfirst
  · exact within_evaluate_of_computes (Value.offers_self operand) hfirst

theorem fromPairs_ordinary : fromPairs.Ordinary := by
  have hpairs : ∀ values, (objectOfPairs values).Computes := by
    intro values
    unfold objectOfPairs
    split
    · split <;> simp
    · simp
  refine within_both (fun registered operand input => ?_) fun registered operand => ?_
  · exact within_of_computes (hpairs input)
  · exact within_evaluate_of_computes (Value.offers_self operand) hpairs

theorem computes_mergeAll (merged : Object) (objects : List Value) :
    (mergeAll merged objects).Computes := by
  induction objects generalizing merged with
  | nil => simp [mergeAll]
  | cons value rest ih => simp [mergeAll, ih]

theorem merge_ordinary : merge.Ordinary := by
  have hmerge : ∀ objects, (mergeObjects objects).Computes := fun objects => by
    simp [mergeObjects, computes_mergeAll]
  refine within_both (fun registered operand input => ?_) fun registered operand => ?_
  · exact within_apply_of_computes input (Value.offers_self operand) fun values => hmerge _
  · refine within_evaluate_of_computes (Value.offers_self operand) fun values => ?_
    split <;> simp [hmerge]

theorem identity_ordinary : identity.Ordinary :=
  within_both (fun _ _ _ => trivial) fun _ operand => ⟨Value.offers_self operand, fun _ => trivial⟩

theorem presence_ordinary : isDefined.Ordinary ∧ isEmpty.Ordinary ∧ isPresent.Ordinary := by
  refine ⟨within_both (fun _ operand _ => ?_) fun _ operand => ?_,
    within_both (fun _ _ _ => trivial) fun _ operand => ?_,
    within_both (fun _ _ _ => trivial) fun _ operand => ?_⟩
  all_goals exact ⟨Value.offers_self operand, fun _ => trivial⟩

theorem literalOperation_ordinary : literalOperation.Ordinary := by
  intro registered mode operand input
  cases mode <;> trivial

section Texts

theorem computes_countOf (value : Value) : (countOf name value).Computes := by
  unfold countOf
  split <;> simp

theorem computes_joinItems (items : List Value) (separator : Value) :
    (joinItems items separator).Computes := by
  unfold joinItems
  split <;> simp

theorem computes_splitBy (text : String) (parameters : List Value) :
    (splitBy text parameters).Computes := by
  unfold splitBy
  split <;> simp

theorem computes_substringOf (text : String) (start length : Value) :
    (substringOf text start length).Computes := by
  unfold substringOf
  split <;> simp

theorem computes_requireCompiled (problem : OperandProblem) (flags : Regex.Flags)
    (text : List Char) : (requireCompiled (compileText problem flags text)).Computes := by
  rw [compileText]
  cases Regex.ofPattern flags text with
  | ok regex => exact computes_done regex
  | error defect =>
    intro limits hown
    cases defect
    · exact hown.operand _
    · exact hown.fault _
    · exact hown.fault _

theorem computes_requireRegex (pattern : String) : (requireRegex pattern).Computes :=
  computes_requireCompiled _ _ _

theorem computes_replaceMatches (text : String) (search replacement : Value) :
    (replaceMatches text search replacement).Computes := by
  unfold replaceMatches
  split <;> simp [computes_requireRegex]

theorem computes_requireWildcards (pattern : String) (wildcards : List Wildcard) :
    (requireWildcards pattern wildcards).Computes :=
  computes_bind (computes_requireCompiled _ _ _) fun _ => computes_pure _

theorem texts_ordinary :
    join.Ordinary ∧ split.Ordinary ∧ substring.Ordinary ∧ replace.Ordinary ∧
      matchesRegex.Ordinary ∧ matchesLike.Ordinary ∧ matchesGlob.Ordinary := by
  refine ⟨parameterized_ordinary computes_joinItems, withParameters_ordinary computes_splitBy,
    withParameters_ordinary fun text parameters => ?_,
    withParameters_ordinary fun text parameters => ?_,
    patternTest_ordinary fun pattern => ?_,
    patternTest_ordinary fun pattern => computes_requireWildcards pattern _,
    patternTest_ordinary fun pattern => computes_requireWildcards pattern _⟩
  · split <;> simp [computes_substringOf]
  · split <;> simp [computes_replaceMatches]
  · simp [computes_requireRegex]

theorem slices_ordinary : take.Ordinary ∧ skip.Ordinary ∧ concat.Ordinary := by
  refine ⟨parameterized_ordinary fun items count => ?_,
    parameterized_ordinary fun items count => ?_, parameterized_ordinary fun items arrays => ?_⟩
  · simp [computes_countOf]
  · simp [computes_countOf]
  · split <;> simp

end Texts

theorem arithmetic_ordinary :
    add.Ordinary ∧ subtract.Ordinary ∧ multiply.Ordinary ∧ divide.Ordinary ∧ modulo.Ordinary ∧
      pow.Ordinary ∧ abs.Ordinary ∧ ceil.Ordinary ∧ floor.Ordinary ∧ sqrt.Ordinary := by
  refine ⟨binary_ordinary fun _ _ => ?_, binary_ordinary fun _ _ => ?_,
    binary_ordinary fun _ _ => ?_, binary_ordinary fun _ _ => ?_, binary_ordinary fun _ _ => ?_,
    binary_ordinary fun _ _ => ?_, unary_ordinary fun _ => ?_, unary_ordinary fun _ => ?_,
    unary_ordinary fun _ => ?_, unary_ordinary fun _ => ?_⟩
  all_goals simp

section Drawing

theorem source_drawing {draw : Script Value}
    (hdraw : ∀ registered operand, draw.Within (.drawing registered operand) fun _ => True) :
    (source draw).Within .drawing :=
  within_both (fun registered operand _ => hdraw registered operand) hdraw

theorem random_drawing : random.Within .drawing := by
  have hdraw : ∀ registered operand low high precision,
      (randomIn low high precision).Within (.drawing registered operand) fun _ => True := by
    intro registered operand low high precision
    unfold randomIn
    split
    · have hunit : unitInterval.Within (.drawing registered operand) fun _ => True :=
        ⟨trivial, fun _ => trivial⟩
      rw [within_bind]
      refine hunit.mono fun unit _ => computes_bind (computes_ofExcept _) (fun value => ?_) _
        (Limits.drawing_allowsOwn registered operand)
      split <;> simp
    · trivial
  exact within_both (fun _ _ _ => hdraw _ _ _ _ _) fun _ _ => hdraw _ _ _ _ _

theorem draws_drawing :
    random.Within .drawing ∧ uuid.Within .drawing ∧ nowUniversal.Within .drawing ∧
      nowLocal.Within .drawing ∧ timestamp.Within .drawing := by
  refine ⟨random_drawing, source_drawing fun _ _ => ?_, source_drawing fun _ _ => ?_,
    source_drawing fun _ _ => ?_, source_drawing fun _ _ => ?_⟩
  all_goals exact ⟨trivial, fun _ => trivial⟩

end Drawing

end Builtin

end JsonExpr
