import JsonExpr.Proofs.Builtin.Embedding
import JsonExpr.Proofs.Builtin.Flattening
import JsonExpr.Proofs.Builtin.Sorting

-- Operations that others make up: what they do in one loop, the others do in several steps or by
-- asking the engine for every item.
namespace JsonExpr

theorem Failure.SameKind.reportedAs {failure failure' : Failure} (h : SameKind failure failure')
    (problem problem' : DomainProblem) :
    SameKind (failure.reportedAs problem) (failure'.reportedAs problem') := by
  cases failure with
  | fault cause =>
    cases failure' with
    | fault cause' =>
      obtain rfl : cause = cause' := h
      simp only [Failure.reportedAs]
      split
      · exact trivial
      · exact rfl
    | _ => exact h.elim
  | _ =>
    cases failure' with
    | fault => exact h.elim
    | _ => exact h

theorem Run.Alike.guard {α : Type} {run run' : Run α} (h : Alike Failure.SameKind run run')
    (problem problem' : DomainProblem) :
    Alike Failure.SameKind (run.guard problem) (run'.guard problem') := by
  intro world
  obtain ⟨hresult, hafter, hlog⟩ := h world
  refine ⟨?_, hafter, hlog⟩
  change SimilarResults _ ((run world).result.mapError _) ((run' world).result.mapError _)
  generalize (run world).result = result at hresult ⊢
  generalize (run' world).result = result' at hresult ⊢
  cases hresult with
  | ok a => exact .ok a
  | error hkind => exact .error (hkind.reportedAs problem problem')

namespace Builtin

section Lists

variable {resolve resolve' : Request → Run Value} {registered : String → Bool} (items : List Value)

-- Joining the lists among the results opens one level of lists.
theorem flatMap_wildcardItems (results : List Value) :
    results.flatMap Value.wildcardItems = flattenItems 1 results := by
  have hopen : Value.wildcardItems = openOne 0 := by
    funext result
    cases result <;> rfl
  rw [flattenItems_succ, hopen]

theorem run_flatMap_applied (resolve' : Request → Run Value) (f : Value) :
    (flatMap.call .apply f (.array items)).run resolve registered =
      ((map.call .apply f (.array items)).run resolve registered).bind fun mapped =>
        (flatten.call .apply .null mapped).run resolve' registered := by
  simp only [flatMap, map, iteration, flatten, both, Operation.call, requireList, flattenDepth,
    Script.run_bind, Script.run_done, Script.run_pure, Run.bind_assoc, Run.bind_done,
    flatMap_wildcardItems]

-- The conditions are tested by the operation itself, or by another one that it asks for.
theorem filterBy_alike_filter {conditions : Object} {test : Value}
    (htest : ∀ item, Run.Alike Eq
      ((matchesAll.call .apply (.object conditions) item).run resolve registered)
      (resolve' (.apply test item))) :
    Run.Alike Eq ((filterBy.call .apply (.object conditions) (.array items)).run resolve registered)
      ((filter.call .apply test (.array items)).run resolve' registered) := by
  have hitem (item : Value) :
      Run.Alike Eq ((conditionsHold item conditions).run resolve registered)
        ((asTest (fun item => .apply test item) item).run resolve' registered) := by
    have hasked := (htest item).bind fun answer _ => Run.Alike.refl (.done answer.isTruthy)
    simp only [matchesAll, both, Operation.call, requireFields, Script.run_bind, Script.run_done,
      Script.run_pure, Run.bind_done, Run.bind_assoc, Value.isTruthy] at hasked
    simp only [asTest, Script.run_bind, Script.run_apply]
    exact Run.bind_pure ((conditionsHold item conditions).run resolve registered) ▸ hasked
  simp only [filterBy, filterItemsBy, filter, iteration, both, Operation.call, requireList,
    requireFields, Script.run_bind, Script.run_done, Run.bind_done]
  exact (Script.keep_alike_keep fun item _ => hitem item).bind fun _ _ => Run.Alike.refl _

end Lists

section Selectors

variable {resolve resolve' : Request → Run Value} {registered : String → Bool}

-- Selectors that read alike from every item, with the answers that each of them gets.
def ReadAlike (resolve resolve' : Request → Run Value) (selector selector' : Value) : Prop :=
  ∀ registered item, Run.Alike Failure.SameKind
    ((selectKey selector item).run resolve registered)
    ((selectKey selector' item).run resolve' registered)

variable {selector selector' : Value} (h : ReadAlike resolve resolve' selector selector')

include h

theorem pluckFrom_alike (items : Value) :
    Run.Alike Failure.SameKind ((pluckFrom items selector).run resolve registered)
      ((pluckFrom items selector').run resolve' registered) := by
  cases items with
  | array items =>
    simp only [pluckFrom, requireList, Script.run_bind, Script.run_done, Run.bind_done]
    exact (Script.each_alike fun item _ => h registered item).bind fun _ _ => .refl _
  | _ => exact .refl _

-- The failures for an item without a key name the selector.
theorem groupItems_alike (groups : Fields (List Value)) (items : List Value) :
    Run.Alike Failure.SameKind ((groupItems selector groups items).run resolve registered)
      ((groupItems selector' groups items).run resolve' registered) := by
  induction items generalizing groups with
  | nil => exact .refl _
  | cons item rest ih =>
    simp only [groupItems, Script.run_bind]
    refine (h registered item).bind fun key _ => ?_
    split
    · exact fun _ => ⟨.error trivial, rfl, rfl⟩
    · exact ih _

theorem groupFrom_alike (items : Value) :
    Run.Alike Failure.SameKind ((groupFrom items selector).run resolve registered)
      ((groupFrom items selector').run resolve' registered) := by
  cases items with
  | array items =>
    simp only [groupFrom, requireList, Script.run_bind, Script.run_done, Run.bind_done]
    exact (groupItems_alike h [] items).bind fun _ _ => .refl _
  | _ => exact .refl _

theorem sortPass_alike (descending : Bool) (items : List Value) :
    Run.Alike Failure.SameKind
      ((sortPass ⟨selector, descending⟩ items).run resolve registered)
      ((sortPass ⟨selector', descending⟩ items).run resolve' registered) := by
  have htest (test : Value → Bool) (item : Value) :
      Run.Alike Failure.SameKind
        ((do return test (← selectKey selector item) : Script Bool).run resolve registered)
        ((do return test (← selectKey selector' item) : Script Bool).run resolve' registered) := by
    simp only [Script.run_bind]
    exact (h registered item).bind fun _ _ => .refl _
  simp only [sortPass, Script.run_bind]
  refine (Script.keep_alike_keep fun item _ => htest (fun key => !key.isNull) item).bind
    fun present _ => ?_
  refine (Script.keep_alike_keep fun item _ => htest Value.isNull item).bind fun missing _ => ?_
  rw [Script.run_guard, Script.run_guard]
  refine ((Script.each_alike fun item _ => h registered item).guard _ _).bind fun keys _ => ?_
  split
  · exact .refl _
  · exact fun _ => ⟨.error trivial, rfl, rfl⟩

end Selectors

-- Whether an operation does the same for selectors that read alike.
def ReadsKeys (operation : Operation) : Prop :=
  ∀ {resolve resolve' selector selector'}, ReadAlike resolve resolve' selector selector' →
    ∀ registered items, Run.Alike Failure.SameKind
      ((operation.call .apply selector items).run resolve registered)
      ((operation.call .apply selector' items).run resolve' registered)

theorem pluck_readsKeys : ReadsKeys pluck := fun h _ items => pluckFrom_alike h items

theorem groupBy_readsKeys : ReadsKeys groupBy := fun h _ items => groupFrom_alike h items

section Sorting

variable {resolve resolve' : Request → Run Value} {registered : String → Bool}

-- Criteria in the same directions, with selectors that read alike.
def SortAlike (resolve resolve' : Request → Run Value) (criterion criterion' : Criterion) : Prop :=
  criterion.descending = criterion'.descending ∧
    ReadAlike resolve resolve' criterion.selector criterion'.selector

theorem sortPasses_alike {criteria criteria' : List Criterion}
    (h : List.Forall₂ (SortAlike resolve resolve') criteria criteria') (items : List Value) :
    Run.Alike Failure.SameKind
      ((Script.fold (fun items criterion => sortPass criterion items) items criteria).run resolve
        registered)
      ((Script.fold (fun items criterion => sortPass criterion items) items criteria').run resolve'
        registered) := by
  induction h generalizing items with
  | nil => exact .refl _
  | @cons criterion criterion' _ _ hfirst _ ih =>
    obtain ⟨selector, descending⟩ := criterion
    obtain ⟨selector', descending'⟩ := criterion'
    obtain ⟨rfl : descending = descending', hread⟩ := hfirst
    simp only [Script.fold, Script.run_bind]
    exact (sortPass_alike hread descending items).bind fun sorted _ => ih sorted

theorem sortItems_alike {operand operand' : Value} {criteria criteria' : List Criterion}
    (hlists : Lists operand criteria) (hlists' : Lists operand' criteria')
    (h : List.Forall₂ (SortAlike resolve resolve') criteria criteria') (items : Value) :
    Run.Alike Failure.SameKind ((sortItems items operand).run resolve registered)
      ((sortItems items operand').run resolve' registered) := by
  cases items with
  | array items =>
    simp only [sortItems, requireList, criteria?_eq_some_iff.mpr hlists,
      criteria?_eq_some_iff.mpr hlists', Script.run_bind, Script.run_done, Run.bind_done]
    exact (sortPasses_alike (List.forall₂_reverse_iff.mpr h) items).bind fun _ _ => .refl _
  | _ => exact .refl _

end Sorting

-- The self-contained forms resolve the list first.
section Evaluated

variable {resolve : Request → Run Value} {registered : String → Bool} {operation : Operation}
  {source operand operand' : Value}
  (h : ∀ items, Run.Alike Failure.SameKind
    ((operation.call .apply operand items).run resolve registered)
    ((operation.call .apply operand' items).run resolve registered))

include h

theorem evaluated_alike_of_takesPair (htakes : operation.TakesPair) (input : Value) :
    Run.Alike Failure.SameKind
      ((operation.call .evaluate (.array [source, operand]) input).run resolve registered)
      ((operation.call .evaluate (.array [source, operand']) input).run resolve registered) := by
  obtain ⟨name, shape, body, happly, hevaluate⟩ := htakes
  simp only [happly] at h
  simp only [hevaluate, requirePair, Script.run_bind, Script.run_done, Run.bind_done]
  exact (Run.Alike.refl _).bind fun items _ => h items

theorem evaluated_alike_of_takesFields {inputKey parameterKey : String}
    (htakes : operation.TakesFields inputKey parameterKey) {fields fields' : Object}
    (hinput : fields.find? inputKey = some source) (hinput' : fields'.find? inputKey = some source)
    (hfind : fields.find? parameterKey = some operand)
    (hfind' : fields'.find? parameterKey = some operand') (input : Value) :
    Run.Alike Failure.SameKind
      ((operation.call .evaluate (.object fields) input).run resolve registered)
      ((operation.call .evaluate (.object fields') input).run resolve registered) := by
  obtain ⟨name, body, happly, hevaluate⟩ := htakes
  have hkeys : requireKeys name [inputKey, parameterKey] (.object fields) = .done fields :=
    requireKeys_of_contains (by simp [contains_of_find? hinput, contains_of_find? hfind])
  have hkeys' : requireKeys name [inputKey, parameterKey] (.object fields') = .done fields' :=
    requireKeys_of_contains (by simp [contains_of_find? hinput', contains_of_find? hfind'])
  simp only [happly] at h
  simp only [hevaluate, hkeys, hkeys', field_of_find? hinput, field_of_find? hinput',
    field_of_find? hfind, field_of_find? hfind', Script.run_bind, Script.run_done, Run.bind_done]
  exact (Run.Alike.refl _).bind fun items _ => h items

end Evaluated

end Builtin

end JsonExpr
