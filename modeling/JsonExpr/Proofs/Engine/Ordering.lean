import JsonExpr.Proofs.Builtin.Embedding
import JsonExpr.Proofs.Engine.BuiltIn
import JsonExpr.Proofs.Engine.Levels
import JsonExpr.Proofs.Value.Order

-- Comparing in an engine: what has an answer, and that one order gives all answers.
namespace JsonExpr

namespace Builtin

theorem find?_eq : operations.find? "$eq" =
    some (comparison "$eq" fun left right => some (left.equal right)) := by
  simp [operations, Fields.find?, eq]

-- The order comparisons by their names, and what each of them asks.
def orderings : List (String × (Value → Value → Option Bool)) :=
  [("$gt", fun left right => right.less? left), ("$gte", fun left right => right.atMost? left),
    ("$lt", Value.less?), ("$lte", Value.atMost?)]

theorem find?_ordering : ∀ ordering ∈ orderings,
    operations.find? ordering.1 = some (comparison ordering.1 (ordered ordering.2)) := by
  simp only [orderings, List.forall_mem_cons, List.not_mem_nil, false_implies, implies_true,
    and_true]
  and_intros <;> simp [operations, Fields.find?, gt, gte, lt, lte]

theorem isSome_ordering_iff (left right : Value) : ∀ ordering ∈ orderings,
    (ordering.2 left right).isSome = true ↔ left.Ordered right := by
  have hflip : right.Ordered left ↔ left.Ordered right := ⟨.symm, .symm⟩
  simp [orderings, Value.less?, Value.atMost?, Value.isSome_compare?_iff, hflip]

theorem isBoolean_iff {value : Value} : isBoolean value = true ↔ value.kind = .bool := by
  cases value <;> simp [isBoolean, Value.kind]

theorem isSome_ordered_iff {left right : Value} {ordering : String × (Value → Value → Option Bool)}
    (hmem : ordering ∈ orderings) :
    (ordered ordering.2 left right).isSome = true ↔ left.Comparable right := by
  by_cases hbool : left.kind = .bool ∨ right.kind = .bool
  · have hrefused : ordered ordering.2 left right = none :=
      if_pos (by simpa [isBoolean_iff] using hbool)
    rw [hrefused]
    refine iff_of_false nofun fun hcomparable => ?_
    exact hbool.elim hcomparable.ne_bool.1 hcomparable.ne_bool.2
  · have hasked : ordered ordering.2 left right = ordering.2 left right :=
      if_neg (by simpa [isBoolean_iff] using hbool)
    obtain ⟨hleft, hright⟩ := not_or.mp hbool
    rw [hasked, isSome_ordering_iff left right ordering hmem]
    exact (Value.comparable_iff_ordered hleft hright).symm

theorem ordered_of_total {left right : Value} (h : left.Total right)
    (compare : Value → Value → Option Bool) :
    ordered compare left right = compare left right := by cases h <;> rfl

-- What a comparison comes to with an answer, and without one.
def answered (name : String) (left right : Value) : Option Bool → Except Failure Value
  | some answer => .ok (.bool answer)
  | none => .error (.domain (.cannotCompare name left right))

-- The two sides of a comparison that has no input, in the forms of its operand.
inductive Sides : Value → Value → Value → Prop where
  | pair (first second : Value) : Sides (.array [first, second]) first second
  | fields {fields : Object} {first second : Value} (hleft : fields.find? "left" = some first)
      (hright : fields.find? "right" = some second) : Sides (.object fields) first second

theorem Sides.parts {operand first second : Value} (h : Sides operand first second) :
    operand.Part first ∧ operand.Part second := by
  cases h with
  | pair => exact ⟨.item (by simp) (.refl first), .item (by simp) (.refl second)⟩
  | fields hleft hright =>
    exact ⟨.of_find? hleft, .of_find? hright⟩

section Runs

variable {resolve : Request → Run Value} {registered : String → Bool} {name : String}
  {compare : Value → Value → Option Bool}

theorem run_checked (left right : Value) :
    (checked name compare left right).run resolve registered =
      Run.ofExcept (answered name left right (compare left right)) := by
  rw [checked]
  cases compare left right <;> rfl

theorem run_comparison_applied (operand input : Value) :
    ((comparison name compare).call .apply operand input).run resolve registered =
      (resolve (.apply operand input)).bind fun right =>
        Run.ofExcept (answered name input right (compare input right)) := by
  simp only [comparison, both, Operation.call, Script.run_bind, Script.run_apply, run_checked]

theorem Sides.run_comparisonOperands {operand first second : Value}
    (h : Sides operand first second) :
    (comparisonOperands name operand).run resolve registered = .done (first, second) := by
  cases h with
  | pair => rfl
  | @fields fields _ _ hleft hright =>
    have hkeys : requireKeys name ["left", "right"] (.object fields) = .done fields :=
      requireKeys_of_contains (by simp [contains_of_find? hleft, contains_of_find? hright])
    simp only [comparisonOperands, hkeys, Script.run_bind, Script.run_done, Run.bind_done,
      field_of_find? hleft, field_of_find? hright]
    rfl

theorem run_comparison_evaluated {operand first second : Value} (h : Sides operand first second)
    (input : Value) :
    ((comparison name compare).call .evaluate operand input).run resolve registered =
      (resolve (.evaluate first)).bind fun left => (resolve (.evaluate second)).bind fun right =>
        Run.ofExcept (answered name left right (compare left right)) := by
  simp only [comparison, both, Operation.call, Script.run_bind, Script.run_evaluate,
    h.run_comparisonOperands, Run.bind_done, run_checked]

end Runs

end Builtin

namespace Engine

open Builtin

variable {engine : Engine}

def comparing (name : String) (operand : Value) : Value := .object [(name, operand)]

-- A comparison of two values comes to this outcome in both modes: if the left one is the input and
-- the operand resolves to the right one, and if both sides are resolved, one after the other.
structure Compares (engine : Engine) (name : String) (left right : Value)
    (outcome : Except Failure Value) : Prop where
  applied {operand : Value} {world : Surroundings}
    (hright : (engine.apply operand left world).result = .ok right) :
    (engine.apply (comparing name operand) left world).result = outcome
  evaluated {operand first second : Value} {world after : Surroundings} {events : List Event}
    (hsides : Sides operand first second)
    (hleft : engine.evaluate first world = ⟨.ok left, events, after⟩)
    (hright : (engine.evaluate second after).result = .ok right) :
    (engine.evaluate (comparing name operand) world).result = outcome

theorem Has.compares {names : List String} (hhas : engine.Has names)
    (hplain : engine.middleware = []) {name : String} (hname : name ∈ names)
    {compare : Value → Value → Option Bool}
    (hfind : operations.find? name = some (comparison name compare)) (left right : Value) :
    engine.Compares name left right (answered name left right (compare left right)) where
  applied {operand world} hright := by
    rw [apply, hhas.resolve_operand hplain hname hfind _ rfl, Run.result_note_bind]
    simp only [callFor, run_comparison_applied]
    exact Run.result_bind_of_result_ok hright (Run.result_ofExcept _)
  evaluated {operand first second world after events} hsides hleft hright := by
    have hdepth {part : Value} (hpart : operand.Part part) :
        (Request.evaluate part).expression.depth + allowance ≤ operand.depth + allowance :=
      Nat.add_le_add_right hpart.depth_le allowance
    have hfirst := resolveWith_eq_resolve hplain (congrArg Report.result hleft)
      (hdepth hsides.parts.1)
    have hsecond := resolveWith_eq_resolve hplain hright (hdepth hsides.parts.2)
    rw [evaluate, hhas.resolve_operand hplain hname hfind _ rfl, Run.result_note_bind]
    simp only [callFor, run_comparison_evaluated hsides]
    rw [Run.bind_of_ok (hfirst.trans hleft)]
    refine Run.result_bind_of_result_ok ?_ (Run.result_ofExcept _)
    rw [hsecond]
    exact hright

-- An order comparison returns a boolean for two numbers, for two texts, and for two lists that are
-- ordered, and fails otherwise. Of two whole numbers or two texts exactly one is less or they are
-- equal, and the other comparisons are the negations.
theorem Has.comparisons_order (hhas : engine.Has ["$eq", "$gt", "$gte", "$lt", "$lte"])
    (hplain : engine.middleware = []) (left right : Value) :
    (∀ name ∈ ["$gt", "$gte", "$lt", "$lte"],
      (left.Comparable right → ∃ answer, engine.Compares name left right (.ok (.bool answer))) ∧
      (¬left.Comparable right →
        engine.Compares name left right (.error (.domain (.cannotCompare name left right))))) ∧
    (left.Total right → ∃ less same greater, [less, same, greater].count true = 1 ∧
      engine.Compares "$lt" left right (.ok (.bool less)) ∧
      engine.Compares "$eq" left right (.ok (.bool same)) ∧
      engine.Compares "$gt" left right (.ok (.bool greater)) ∧
      engine.Compares "$gte" left right (.ok (.bool !less)) ∧
      engine.Compares "$lte" left right (.ok (.bool !greater))) := by
  have hcompares : ∀ ordering ∈ orderings, engine.Compares ordering.1 left right
      (answered ordering.1 left right (ordered ordering.2 left right)) := fun ordering hmem =>
    hhas.compares hplain (List.mem_cons_of_mem _ (List.mem_map_of_mem hmem))
      (find?_ordering ordering hmem) left right
  refine ⟨fun name hname => ?_, fun htotal => ?_⟩
  · obtain ⟨ordering, hmem, rfl⟩ : ∃ ordering ∈ orderings, ordering.1 = name :=
      List.mem_map.mp hname
    have hcompare := hcompares ordering hmem
    constructor
    · intro hcomparable
      obtain ⟨answer, hanswer⟩ :=
        Option.isSome_iff_exists.mp ((isSome_ordered_iff hmem).mpr hcomparable)
      exact ⟨answer, by rwa [hanswer] at hcompare⟩
    · intro hincomparable
      have hnone := Option.not_isSome_iff_eq_none.mp
        (mt (isSome_ordered_iff hmem).mp hincomparable)
      rwa [hnone] at hcompare
  · obtain ⟨less, greater, hless, hgreater, hatMost, hatLeast, hone⟩ := htotal.trichotomy
    have hanswers (name : String) (compare : Value → Value → Option Bool) {answer : Bool}
        (hmem : (name, compare) ∈ orderings) (hanswer : compare left right = some answer) :
        engine.Compares name left right (.ok (.bool answer)) := by
      have hcompare := hcompares _ hmem
      simp only [ordered_of_total htotal, hanswer] at hcompare
      exact hcompare
    refine ⟨less, left.equal right, greater, hone, ?_, ?_, ?_, ?_, ?_⟩
    · exact hanswers "$lt" Value.less? (by simp [orderings]) hless
    · exact hhas.compares hplain (by simp) find?_eq left right
    · exact hanswers "$gt" (fun left right => right.less? left) (by simp [orderings]) hgreater
    · exact hanswers "$gte" (fun left right => right.atMost? left) (by simp [orderings]) hatLeast
    · exact hanswers "$lte" Value.atMost? (by simp [orderings]) hatMost

-- A number beside a text.
theorem number_beside_text_refused :
    let text := Value.string "a"
    complete.Has ["$eq", "$gt", "$gte", "$lt", "$lte"] ∧ complete.middleware = [] ∧
      ¬(Value.int 1).Comparable text ∧
      (∀ world, (complete.apply text (.int 1) world).result = .ok text) ∧
      ∀ world, (complete.apply (comparing "$gt" text) (.int 1) world).result =
        .error (.domain (.cannotCompare "$gt" (.int 1) text)) := by
  intro text
  have hhas : complete.Has ["$eq", "$gt", "$gte", "$lt", "$lte"] := complete_has (by decide)
  have hincomparable : ¬(Value.int 1).Comparable text := by
    simp [Value.Comparable, Value.Ranked, Value.kind, text]
  have hoperand (world : Surroundings) : (complete.apply text (.int 1) world).result = .ok text :=
    rfl
  obtain ⟨horder, -⟩ := hhas.comparisons_order rfl (.int 1) text
  have hrefused := (horder "$gt" (by simp)).2 hincomparable
  exact ⟨hhas, rfl, hincomparable, hoperand, fun world => hrefused.applied (hoperand world)⟩

-- Two lists are neither numbers nor texts, and are compared all the same.
theorem lists_compared :
    let left := Value.array [.int 1]
    let right := Value.array [.int 2]
    ¬left.Ranked right ∧ (∀ world, (complete.apply right left world).result = .ok right) ∧
      ∀ world, (complete.apply (comparing "$lt" right) left world).result = .ok (.bool true) := by
  intro left right
  refine ⟨?_, fun _ => rfl, fun _ => rfl⟩
  simp [Value.Ranked, Value.kind, left, right]

end Engine

end JsonExpr
