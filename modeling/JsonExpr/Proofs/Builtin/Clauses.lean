import JsonExpr.Proofs.Builtin.Embedding

-- Clauses that may be data or tests: the conditions on fields and the clauses of a case, written as
-- data and behind the literal escape.
namespace JsonExpr

def Value.isTrue : Value → Bool
  | .bool b => b
  | _ => false

variable {similar : Failure → Failure → Prop} [Std.Refl similar]

namespace Builtin

variable {resolve : Request → Run Value} {registered : String → Bool} {clause : Value}

section Conditions

variable (path : String) (item : Value)

-- Data is compared with the value at the path.
theorem run_conditionsHold_data (hdata : clause.namesOne registered = false) :
    (conditionsHold item [(path, clause)]).run resolve registered =
      .done ((item.read (Path.parse path)).equal clause) := by
  rw [conditionsHold, Script.run_every_singleton, Script.run_bind, Script.run_isExpression, hdata]
  rfl

-- Escaped it is a test, which does not depend on the value.
theorem conditionsHold_escape_alike (hregistered : clause.escape.namesOne registered = true)
    (hescape : ∀ value, Run.Alike similar (resolve (.apply clause.escape value)) (.done clause)) :
    Run.Alike similar ((conditionsHold item [(path, clause.escape)]).run resolve registered)
      (.done clause.isTrue) := by
  rw [conditionsHold, Script.run_every_singleton, Script.run_bind, Script.run_isExpression,
    hregistered, Run.bind_done]
  simp only [ite_true, Script.run_bind, Script.run_apply]
  refine (hescape _).bind_left ?_
  cases clause with
  | bool b => cases b <;> exact .refl _
  | _ => exact .refl _

end Conditions

section Answers

variable {conditions : Object} {answer : Value → Bool}
  (hanswer : ∀ item, Run.Alike similar ((conditionsHold item conditions).run resolve registered)
    (.done (answer item)))

include hanswer

theorem matchesAll_applied_alike (input : Value) :
    Run.Alike similar ((matchesAll.call .apply (.object conditions) input).run resolve registered)
      (.done (.bool (answer input))) := by
  simp only [matchesAll, both, Operation.call, requireFields, Script.run_bind, Script.run_done,
    Run.bind_done]
  exact (hanswer input).bind_left (.refl _)

theorem filterBy_applied_alike (items : List Value) :
    Run.Alike similar
      ((filterBy.call .apply (.object conditions) (.array items)).run resolve registered)
      (.done (.array (items.filter answer))) := by
  simp only [filterBy, both, Operation.call, filterItemsBy, requireList, requireFields,
    Script.run_bind, Script.run_done, Run.bind_done]
  exact (Script.keep_alike fun item _ => hanswer item).bind_left (.refl _)

variable {fields : Object} {source : Value}
  (hconditions : fields.find? "conditions" = some (.object conditions))

include hconditions

theorem matchesAll_evaluated_alike (hdata : fields.find? "data" = some source) {input : Value}
    (hinput : Run.Alike similar (resolve (.evaluate source)) (.done input)) (other : Value) :
    Run.Alike similar ((matchesAll.call .evaluate (.object fields) other).run resolve registered)
      (.done (.bool (answer input))) := by
  have hkeys : requireKeys "$matches" ["data", "conditions"] (.object fields) = .done fields :=
    requireKeys_of_contains (by simp [contains_of_find? hdata, contains_of_find? hconditions])
  simp only [matchesAll, both, Operation.call, requireFields, hkeys, field_of_find? hdata,
    field_of_find? hconditions, Script.run_bind, Script.run_done, Script.run_evaluate,
    Run.bind_done]
  exact hinput.bind_left ((hanswer input).bind_left (.refl _))

theorem filterBy_evaluated_alike (harray : fields.find? "array" = some source) {items : List Value}
    (hitems : Run.Alike similar (resolve (.evaluate source)) (.done (.array items)))
    (other : Value) :
    Run.Alike similar ((filterBy.call .evaluate (.object fields) other).run resolve registered)
      (.done (.array (items.filter answer))) := by
  have hkeys : requireKeys "$filterBy" ["array", "conditions"] (.object fields) = .done fields :=
    requireKeys_of_contains (by simp [contains_of_find? harray, contains_of_find? hconditions])
  simp only [filterBy, both, Operation.call, hkeys, field_of_find? harray,
    field_of_find? hconditions, Script.run_bind, Script.run_done, Script.run_evaluate,
    Run.bind_done]
  exact hitems.bind_left (filterBy_applied_alike hanswer items)

end Answers

section Cases

variable (form : Value → Script Value)
  (hclause : Run.Alike similar ((form clause).run resolve registered) (.done clause))
  (hescape : Run.Alike similar ((form clause.escape).run resolve registered) (.done clause))
  (hdata : clause.namesOne registered = false)

include hclause hescape hdata

-- Data is compared with the case value in both ways of writing it.
theorem clauseMatches_escape_alike (value : Value) :
    Run.Alike similar ((clauseMatches form clause.escape value).run resolve registered)
      ((clauseMatches form clause value).run resolve registered) := by
  have hcompared : ∀ written : Value, (written.namesOne registered && !written.isLiteralEscape) =
      false → Run.Alike similar ((form written).run resolve registered) (.done clause) →
      Run.Alike similar ((clauseMatches form written value).run resolve registered)
        (.done (clause.equal value)) := by
    intro written hwritten halike
    simp only [clauseMatches, Script.run_bind, Script.run_isExpression, Run.bind_done, hwritten,
      Bool.false_eq_true, ite_false]
    exact halike.bind_left (.refl _)
  refine (hcompared clause.escape ?_ hescape).of_done (hcompared clause ?_ hclause)
  · rw [Value.isLiteralEscape_iff.mpr ⟨clause, rfl⟩, Bool.not_true, Bool.and_false]
  · rw [hdata, Bool.false_and]

theorem firstCase?_escape_alike (value : Value) (before after : List Value) (item : Object) :
    let cases written := before ++ Value.object (Fields.insert "when" written item) :: after
    Run.Alike similar ((firstCase? form value (cases clause.escape)).run resolve registered)
      ((firstCase? form value (cases clause)).run resolve registered) := by
  intro cases
  induction before with
  | nil =>
    have hbranch : ∀ written, field "then" (Fields.insert "when" written item) =
        field "then" item := fun written => by simp [field, Fields.find?_insert]
    simp only [cases, List.nil_append, firstCase?, Fields.find?_insert, ite_true, hbranch,
      Script.run_bind]
    exact (clauseMatches_escape_alike form hclause hescape hdata value).bind fun _ _ => .refl _
  | cons first rest ih =>
    cases first with
    | object fields =>
      simp only [cases, List.cons_append, firstCase?]
      cases Fields.find? "when" fields with
      | none => exact .refl _
      | some other =>
        simp only [Script.run_bind]
        refine (Run.Alike.refl _).bind fun holds _ => ?_
        cases holds
        · exact ih
        · exact .refl _
    | _ => exact .refl _

-- So the same branch is chosen.
theorem selectCase_escape_alike (fields : Object) (before after : List Value) (item : Object) :
    let operand written := Value.object (Fields.insert "cases"
      (.array (before ++ .object (Fields.insert "when" written item) :: after)) fields)
    Run.Alike similar ((selectCase form (operand clause.escape)).run resolve registered)
      ((selectCase form (operand clause)).run resolve registered) := by
  intro operand
  have hother : ∀ key ≠ "cases", ∀ cases : Value,
      field key (Fields.insert "cases" cases fields) = field key fields :=
    fun key hkey cases => by simp [field, Fields.find?_insert, hkey.symm]
  simp only [operand, selectCase, requireFields, Script.run_bind, Script.run_done, Run.bind_done,
    Fields.find?_insert, ite_true, hother "value" (by decide), hother "default" (by decide)]
  refine (Run.Alike.refl _).bind fun value _ => ?_
  exact (firstCase?_escape_alike form hclause hescape hdata value before after item).bind
    fun _ _ => .refl _

end Cases

end Builtin

end JsonExpr
