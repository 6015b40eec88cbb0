import JsonExpr.Proofs.Engine.Embedding
import JsonExpr.Proofs.Engine.Negation
import JsonExpr.Proofs.Engine.Ordering

-- Testing a value against two bounds: it is the conjunction of two order comparisons, as long as no
-- boolean comes up.
namespace JsonExpr

-- A template without expressions other than literal escapes stands for the value it comes to.
def Value.StandsFor (template value : Value) : Prop :=
  template.IsConstant ∧ template.constant = value

namespace Builtin

theorem find?_between : operations.find? "$between" = some between := by
  simp [operations, Fields.find?]

-- An answer as a boolean, and a refusal in its absence.
inductive Gives : Option Bool → Except Failure Value → Prop where
  | answer (b : Bool) : Gives (some b) (.ok (.bool b))
  | refusal (problem : DomainProblem) : Gives none (.error (.domain problem))

theorem Gives.ne_tooDeep {answer : Option Bool} {outcome : Except Failure Value}
    (h : Gives answer outcome) : outcome ≠ .error .tooDeep := by
  cases h <;> nofun

-- No outcome gives two answers.
theorem Gives.eq {answer answer' : Option Bool} {outcome : Except Failure Value}
    (h : Gives answer outcome) (h' : Gives answer' outcome) : answer = answer' := by
  cases h <;> cases h' <;> rfl

theorem gives_of_eq_answered {name : String} {left right : Value} {answer : Option Bool}
    {outcome : Except Failure Value} (h : outcome = answered name left right answer) :
    Gives answer outcome := by
  subst h
  cases answer
  · exact .refusal _
  · exact .answer _

-- Whether a boolean is compared with something: the value is compared with the lower bound, and
-- with the upper one only if it is not below the lower one.
def reachesBoolean (low value high : Value) : Bool :=
  isBoolean value || isBoolean low || (low.atMost? value == some true && isBoolean high)

-- The two comparisons in turn refuse a boolean that they reach, and answer like the bounds
-- otherwise.
theorem allM_comparisons (low value high : Value) :
    [ordered (fun left right => right.atMost? left) value low,
        ordered Value.atMost? value high].allM id =
      if reachesBoolean low value high then none else within? low value high := by
  -- both sides look at the upper bound only behind the first comparison
  by_cases hrefused : isBoolean value = true ∨ isBoolean low = true
  · have hfirst : ordered (fun left right => right.atMost? left) value low = none :=
      if_pos (by simpa using hrefused)
    have hreached : reachesBoolean low value high = true := by
      rcases hrefused with h | h <;> simp [reachesBoolean, h]
    rw [hreached, if_pos rfl, List.allM, id, hfirst]
    rfl
  · obtain ⟨hvalue, hlow⟩ := not_or.mp hrefused
    simp only [List.allM, id, ordered, reachesBoolean, within?, hvalue, hlow, Bool.or_false,
      Bool.false_or, Bool.false_eq_true, ite_false]
    rcases low.atMost? value with _ | _ | _
    · rfl
    · rfl
    · by_cases hhigh : isBoolean high = true
      · simp only [hhigh, ite_true]
        rfl
      · simp only [hhigh, Bool.and_false, Bool.false_eq_true, ite_false]
        rcases value.atMost? high with _ | _ | _ <;> rfl

theorem gives_of_run {run : Run Value} {answer : Option Bool} {result : Except Failure Value}
    {world after : Surroundings} {events : List Event}
    (hgives : ∀ world, Gives answer (run world).result)
    (h : run world = ⟨result, events, after⟩) : Gives answer result := by
  have hresult := hgives world
  rwa [h] at hresult

-- What a search for a false value comes to, if all the values give answers.
theorem gives_search {resolve : Value → Run Value} {values resolved : List Value}
    {answers : List (Option Bool)} {world : Surroundings} {report : Report Bool}
    (h : Run.Search resolve false values resolved world report)
    (hanswers : List.Forall₂ (fun answer value =>
      ∀ world, Gives answer (resolve value world).result) answers values) :
    Gives (answers.allM id) (report.map fun found => Value.bool (found == false)).result := by
  induction h generalizing answers with
  | exhausted =>
    cases hanswers
    exact .answer true
  | found hvalue hsought =>
    cases hanswers with
    | cons hanswer _ =>
      cases gives_of_run hanswer hvalue with
      | answer b =>
        obtain rfl : b = false := hsought
        exact .answer false
  | failed hvalue =>
    cases hanswers with
    | cons hanswer _ =>
      cases gives_of_run hanswer hvalue with
      | refusal problem => exact .refusal problem
  | passed hvalue hother _ ih =>
    cases hanswers with
    | cons hanswer hrest =>
      have hothers := ih hrest
      cases gives_of_run hanswer hvalue with
      | answer b =>
        obtain rfl : b = true := hother
        exact hothers

theorem gives_withinBounds (resolve : Request → Run Value) (registered : String → Bool)
    {low high : Value} {limits : Object} (value : Value) (hlow : limits.find? "min" = some low)
    (hhigh : limits.find? "max" = some high) (world : Surroundings) :
    Gives (within? low value high)
      ((withinBounds value (.object limits)).run resolve registered world).result := by
  simp only [withinBounds, hlow, hhigh]
  cases within? low value high with
  | none => exact .refusal _
  | some answer => exact .answer answer

end Builtin

namespace Engine

open Builtin

variable {engine : Engine}

-- The ways to test a value against bounds: it is the input, or it stands beside the bounds.
inductive Bounding (low value high : Value) : Request → Prop where
  | applied {operand : Value} {limits : Object} (hoperand : operand.StandsFor (.object limits))
      (hlow : limits.find? "min" = some low) (hhigh : limits.find? "max" = some high) :
      Bounding low value high (.apply (comparing "$between" operand) value)
  | evaluated {fields limits : Object}
      (hfields : (Value.object fields).StandsFor (.object limits))
      (hkeys : ∀ key ∈ ["value", "min", "max"], Fields.contains key fields = true)
      (hvalue : limits.find? "value" = some value) (hlow : limits.find? "min" = some low)
      (hhigh : limits.find? "max" = some high) :
      Bounding low value high (.evaluate (comparing "$between" (.object fields)))

-- The ways to compare it with the one bound and the other.
inductive Comparing (low value high : Value) : Request → Prop where
  | applied {lower upper : Value} (hlower : lower.StandsFor low) (hupper : upper.StandsFor high) :
      Comparing low value high
        (.apply (conjunction [comparing "$gte" lower, comparing "$lte" upper]) value)
  | evaluated {left right first lower second upper : Value} (hleft : Sides left first lower)
      (hright : Sides right second upper) (hfirst : first.StandsFor value)
      (hlower : lower.StandsFor low) (hsecond : second.StandsFor value)
      (hupper : upper.StandsFor high) :
      Comparing low value high
        (.evaluate (conjunction [comparing "$gte" left, comparing "$lte" right]))

section Bounds

variable (hhas : engine.Has ["$and", "$between", "$gte", literalName, "$lte"])
  (hplain : engine.middleware = [])

include hhas hplain

theorem Has.resolve_standsFor (request : Request) {value : Value}
    (h : request.expression.StandsFor value) (world : Surroundings) :
    (engine.resolve request world).result = .ok value := by
  rw [hhas.resolve_constant hplain (by simp) h.1, h.2]

theorem Has.bounding_gives {low value high : Value} {request : Request}
    (h : Bounding low value high request) (world : Surroundings) :
    Gives (within? low value high) (engine.resolve request world).result := by
  have hname : "$between" ∈ ["$and", "$between", "$gte", literalName, "$lte"] := by simp
  cases h with
  | @applied operand limits hoperand hlow hhigh =>
    rw [hhas.resolve_operand hplain hname find?_between _ rfl, Run.result_note_bind]
    simp only [callFor, between, both, Operation.call, Script.run_bind, Script.run_apply]
    have hbounds := hhas.resolve_standsFor hplain (.apply operand value) hoperand world
    exact Run.forall_result_bind hbounds fun after => gives_withinBounds _ _ value hlow hhigh after
  | @evaluated fields limits hfields hkeys hvalue hlow hhigh =>
    rw [hhas.resolve_operand hplain hname find?_between _ rfl, Run.result_note_bind]
    simp only [callFor, between, both, Operation.call, Script.run_bind, Script.run_evaluate,
      requireKeys_of_contains hkeys, Script.run_done, Run.bind_done]
    have hbounds := hhas.resolve_standsFor hplain (.evaluate (.object fields)) hfields world
    refine Run.forall_result_bind hbounds fun after => ?_
    simp only [field_of_find? hvalue]
    exact gives_withinBounds _ _ value hlow hhigh after

-- A conjunction of two expressions that give answers wherever they are resolved.
theorem Has.gives_conjunction (request : Request) {first second : Value}
    {answer answer' : Option Bool}
    (hfirst : ∀ world, Gives answer (engine.resolve (request.on first) world).result)
    (hsecond : ∀ world, Gives answer' (engine.resolve (request.on second) world).result)
    (world : Surroundings) :
    Gives ([answer, answer'].allM id)
      (engine.resolve (request.on (conjunction [first, second])) world).result := by
  have hinside {value : Value} {answer : Option Bool} (hmem : value ∈ [first, second])
      (h : ∀ world, Gives answer (engine.resolve (request.on value) world).result)
      (world : Surroundings) :
      Gives answer (engine.settle request (.array [first, second]) value world).result := by
    have hdepth : (request.on value).expression.depth + allowance ≤
        (Value.array [first, second]).depth + allowance := by
      rw [request.expression_on]
      exact Nat.add_le_add_right (Value.Part.item hmem (.refl value)).depth_le allowance
    rw [settle, resolveWith_eq_of_le hplain hdepth (h world).ne_tooDeep]
    exact h world
  obtain ⟨resolved, report, hsearch⟩ := Run.exists_search
    (engine.settle request (.array [first, second])) false [first, second] world
  have hconnected := hhas.resolveWith_connected hplain _ request (by simp [connectives]) hsearch
  have hresult : (engine.resolve (request.on (conjunction [first, second])) world).result =
      (report.map fun found => .bool (found == false)).result := by
    rw [conjunction, resolve_on_node]
    exact similarResults_eq_iff.mp hconnected.result
  rw [hresult]
  exact gives_search hsearch
    (.cons (hinside (by simp) hfirst) (.cons (hinside (by simp) hsecond) .nil))

theorem Has.comparing_gives {low value high : Value} {request : Request}
    (h : Comparing low value high request) (world : Surroundings) :
    Gives (if reachesBoolean low value high then none else within? low value high)
      (engine.resolve request world).result := by
  have hatLeast := hhas.compares hplain (by simp)
    (find?_ordering ("$gte", fun left right => right.atMost? left) (by simp [orderings])) value low
  have hatMost := hhas.compares hplain (by simp)
    (find?_ordering ("$lte", Value.atMost?) (by simp [orderings])) value high
  have hside {template value : Value} (h : template.StandsFor value) (world : Surroundings) :
      ∃ events after, engine.evaluate template world = ⟨.ok value, events, after⟩ :=
    ⟨_, _, by rw [← hhas.resolve_standsFor hplain (.evaluate template) h world]; rfl⟩
  rw [← allM_comparisons]
  cases h with
  | @applied lower upper hlower hupper =>
    refine hhas.gives_conjunction hplain (.apply .null value) (fun world => ?_) (fun world => ?_)
      world
    · exact gives_of_eq_answered
        (hatLeast.applied (hhas.resolve_standsFor hplain (.apply lower value) hlower world))
    · exact gives_of_eq_answered
        (hatMost.applied (hhas.resolve_standsFor hplain (.apply upper value) hupper world))
  | @evaluated left right first lower second upper hleft hright hfirst hlower hsecond hupper =>
    refine hhas.gives_conjunction hplain (.evaluate .null) (fun world => ?_) (fun world => ?_) world
    · obtain ⟨events, after, hvalue⟩ := hside hfirst world
      exact gives_of_eq_answered (hatLeast.evaluated hleft hvalue
        (hhas.resolve_standsFor hplain (.evaluate lower) hlower after))
    · obtain ⟨events, after, hvalue⟩ := hside hsecond world
      exact gives_of_eq_answered (hatMost.evaluated hright hvalue
        (hhas.resolve_standsFor hplain (.evaluate upper) hupper after))

-- Testing against bounds and comparing with the one and the other come to the same answer or are
-- both refused, unless a boolean comes up: a comparison refuses it, and the bounds take it for a
-- number. They differ exactly when this lets the bounds answer.
theorem Has.bounds_agree_iff {low value high : Value} {bounded compared : Request}
    (hbounded : Bounding low value high bounded) (hcompared : Comparing low value high compared)
    (world : Surroundings) :
    let answer := within? low value high
    let outcome := (engine.resolve bounded world).result
    let outcome' := (engine.resolve compared world).result
    Gives answer outcome ∧
      Gives (if reachesBoolean low value high then none else answer) outcome' ∧
      ((∀ verdict, Gives verdict outcome ↔ Gives verdict outcome') ↔
        reachesBoolean low value high = false ∨ answer = none) := by
  intro answer outcome outcome'
  have hgives : Gives answer outcome := hhas.bounding_gives hplain hbounded world
  have hgives' := hhas.comparing_gives hplain hcompared world
  refine ⟨hgives, hgives', fun hagree => ?_, fun hsame verdict => ?_⟩
  · cases hreaches : reachesBoolean low value high with
    | false => exact .inl rfl
    | true =>
      rw [hreaches, if_pos rfl] at hgives'
      exact .inr (hgives.eq ((hagree none).mpr hgives'))
  · have hanswer : Gives answer outcome' := by
      rcases hsame with hreaches | hnone
      · rwa [hreaches] at hgives'
      · have heq : (if reachesBoolean low value high then none else answer) = answer := by
          rw [hnone, ite_self]
        rwa [heq] at hgives'
    constructor
    · intro h
      exact h.eq hgives ▸ hanswer
    · intro h
      exact h.eq hanswer ▸ hgives

end Bounds

-- A value below the lower bound is never compared with the upper one.
theorem upper_boolean_unreached :
    let limits : Object := [("min", .int 3), ("max", .bool true)]
    let bounded := Request.apply (comparing "$between" (.object limits)) (.int 2)
    let compared := Request.apply
      (conjunction [comparing "$gte" (.int 3), comparing "$lte" (.bool true)]) (.int 2)
    complete.Has ["$and", "$between", "$gte", literalName, "$lte"] ∧ complete.middleware = [] ∧
      Bounding (.int 3) (.int 2) (.bool true) bounded ∧
      Comparing (.int 3) (.int 2) (.bool true) compared ∧
      ∀ world, (complete.resolve bounded world).result = .ok (.bool false) ∧
        ∀ verdict, Gives verdict (complete.resolve bounded world).result ↔
          Gives verdict (complete.resolve compared world).result := by
  intro limits bounded compared
  have hhas : complete.Has ["$and", "$between", "$gte", literalName, "$lte"] :=
    complete_has (by decide)
  have hdata {value : Value} (hholes : value.holes = []) (hconstant : value.constant = value) :
      value.StandsFor value := ⟨by simp [Value.IsConstant, hholes], hconstant⟩
  have hbounded : Bounding (.int 3) (.int 2) (.bool true) bounded :=
    .applied (hdata rfl rfl) rfl rfl
  have hcompared : Comparing (.int 3) (.int 2) (.bool true) compared :=
    .applied (hdata rfl rfl) (hdata rfl rfl)
  refine ⟨hhas, rfl, hbounded, hcompared, fun world => ⟨rfl, ?_⟩⟩
  exact (hhas.bounds_agree_iff rfl hbounded hcompared world).2.2.mpr (.inl (by decide))

-- A boolean as the lower bound counts as zero there, but is refused by the comparison.
theorem lower_boolean_counted :
    let limits : Object := [("min", .bool false), ("max", .int 2)]
    let comparisons := [comparing "$gte" (.bool false), comparing "$lte" (.int 2)]
    ∀ world,
      (complete.apply (comparing "$between" (.object limits)) (.int 1) world).result =
          .ok (.bool true) ∧
        (complete.apply (conjunction comparisons) (.int 1) world).result =
          .error (.domain (.cannotCompare "$gte" (.int 1) (.bool false))) := by
  intro limits comparisons world
  exact ⟨rfl, rfl⟩

end Engine

end JsonExpr
