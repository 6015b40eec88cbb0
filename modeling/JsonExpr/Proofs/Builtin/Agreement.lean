import JsonExpr.Builtin.Packs
import JsonExpr.Proofs.Run.Alike

-- Operations whose two forms come to the same when what they resolve does.
namespace JsonExpr

-- Whether a value comes to the same against the input and on its own.
def Value.Agrees (resolve : Request → Run Value) (value input : Value) : Prop :=
  Run.Alike Eq (resolve (.apply value input)) (resolve (.evaluate value))

-- An operation that resolves its operand first, and that does not look at the input if the result
-- is a list.
def Operation.ReadsList (operation : Operation) : Prop :=
  ∀ input, ∃ f g : Value → Script Value,
    (∀ operand, operation.call .apply operand input = Script.apply operand input >>= f) ∧
    (∀ operand other, operation.call .evaluate operand other = Script.evaluate operand >>= g) ∧
    ∀ items, f (.array items) = g (.array items)

namespace Builtin

theorem binary_readsList (name : String) (compute : Number → Number → Script Number) :
    (binary name compute).ReadsList :=
  fun _ => ⟨_, _, fun _ => rfl, fun _ _ => rfl, fun _ => rfl⟩

theorem aggregation_readsList (name : String) (summary : List Value → Summary) :
    (aggregation name summary).ReadsList :=
  fun _ => ⟨_, _, fun _ => rfl, fun _ _ => rfl, fun _ => rfl⟩

theorem accessor_readsList (name : String) (access : List Value → Value) :
    (accessor name access).ReadsList :=
  fun _ => ⟨_, _, fun _ => rfl, fun _ _ => rfl, fun _ => rfl⟩

theorem coalesce_readsList : coalesce.ReadsList :=
  fun _ => ⟨_, _, fun _ => rfl, fun _ _ => rfl, fun _ => rfl⟩

section Forms

variable {resolve : Request → Run Value} {registered : String → Bool} {input operand : Value}

theorem reading_alike {α : Type} {f g : Value → Script α} (h : operand.Agrees resolve input)
    (hfg : ∀ value, (resolve (.apply operand input)).Returns value → f value = g value) :
    Run.Alike Eq ((Script.apply operand input >>= f).run resolve registered)
      ((Script.evaluate operand >>= g).run resolve registered) := by
  simp only [Script.run_bind, Script.run_apply, Script.run_evaluate]
  refine h.bind fun value hvalue => ?_
  rw [hfg value hvalue]
  exact Run.Alike.refl _

theorem alike_of_readsList {operation : Operation} (hreads : operation.ReadsList)
    (h : operand.Agrees resolve input)
    (hlist : ∀ value, (resolve (.apply operand input)).Returns value →
      ∃ items, value = .array items)
    (other : Value) :
    Run.Alike Eq ((operation.call .apply operand input).run resolve registered)
      ((operation.call .evaluate operand other).run resolve registered) := by
  obtain ⟨f, g, happly, hevaluate, hfg⟩ := hreads input
  rw [happly, hevaluate]
  refine reading_alike h fun value hvalue => ?_
  obtain ⟨items, rfl⟩ := hlist value hvalue
  exact hfg items

theorem connective_alike {name : String}
    {decide : (Value → Script Bool) → List Value → Script Bool} {items : List Value}
    (hdecide : ∀ test test' : Value → Script Bool,
      (∀ item ∈ items, Run.Alike Eq ((test item).run resolve registered)
        ((test' item).run resolve registered)) →
      Run.Alike Eq ((decide test items).run resolve registered)
        ((decide test' items).run resolve registered))
    (h : ∀ item ∈ items, item.Agrees resolve input) (other : Value) :
    Run.Alike Eq
      (((connective name decide).call .apply (.array items) input).run resolve registered)
      (((connective name decide).call .evaluate (.array items) other).run resolve registered) := by
  simp only [connective, both, Operation.call, requireExpressions, Script.run_bind, Script.run_done,
    Run.bind_done]
  refine (hdecide _ _ fun item hmem => ?_).bind fun _ _ => .refl _
  exact reading_alike (h item hmem) fun _ _ => rfl

theorem not_alike (h : operand.Agrees resolve input) (other : Value) :
    Run.Alike Eq ((not.call .apply operand input).run resolve registered)
      ((not.call .evaluate operand other).run resolve registered) :=
  reading_alike h fun _ _ => rfl

theorem isDefined_alike (h : operand.Agrees resolve input) (other : Value) :
    Run.Alike Eq ((isDefined.call .apply operand input).run resolve registered)
      ((isDefined.call .evaluate operand other).run resolve registered) :=
  reading_alike h fun _ _ => rfl

theorem debug_alike (h : operand.Agrees resolve input) (other : Value) :
    Run.Alike Eq ((debug.call .apply operand input).run resolve registered)
      ((debug.call .evaluate operand other).run resolve registered) :=
  reading_alike h fun _ _ => rfl

-- A null in place of a missing part comes to null.
theorem field_agrees {key : String} {fields : Object} (hnull : Value.null.Agrees resolve input)
    (h : ∀ part, fields.find? key = some part → part.Agrees resolve input) :
    (field key fields).Agrees resolve input := by
  unfold field
  cases hfind : fields.find? key with
  | none => exact hnull
  | some part => exact h part hfind

theorem defaultTo_alike {expression fallback : Value}
    (hparts : defaultParts operand = .done (expression, fallback))
    (hexpression : expression.Agrees resolve input) (hfallback : fallback.Agrees resolve input)
    (other : Value) :
    Run.Alike Eq ((defaultTo.call .apply operand input).run resolve registered)
      ((defaultTo.call .evaluate operand other).run resolve registered) := by
  simp only [defaultTo, both, Operation.call, withDefault, hparts, Script.run_bind, Script.run_done,
    Script.run_apply, Script.run_evaluate, Run.bind_done]
  refine hexpression.bind fun result _ => ?_
  split
  · rw [Script.run_apply, Script.run_evaluate]
    exact hfallback
  · exact .refl _

theorem ifThenElse_alike (hnull : Value.null.Agrees resolve input)
    (hparts : ∀ fields : Object, operand = .object fields →
      ∀ key ∈ ["if", "then", "else"], ∀ part, fields.find? key = some part →
        part.Agrees resolve input)
    (other : Value) :
    Run.Alike Eq ((ifThenElse.call .apply operand input).run resolve registered)
      ((ifThenElse.call .evaluate operand other).run resolve registered) := by
  cases operand with
  | object fields =>
    have hparts := hparts fields rfl
    simp only [ifThenElse, both, Operation.call, chooseBranch, requireFields, Script.run_bind,
      Script.run_done, Run.bind_done]
    cases hfind : Fields.find? "if" fields with
    | none => exact .refl _
    | some condition =>
      simp only [Script.run_bind, Script.run_apply, Script.run_evaluate]
      refine (hparts "if" (by simp) condition hfind).bind fun value _ => ?_
      refine (Run.Alike.refl _).bind fun holds _ => field_agrees hnull (hparts _ ?_)
      cases holds <;> simp
  | _ => exact .refl _

-- The clause is a test of the case value in either form, or it is compared with it.
theorem clauseMatches_alike {clause : Value} (value : Value)
    (h : (clause.namesOne registered = true → clause.isLiteralEscape = true) →
      clause.Agrees resolve input) :
    Run.Alike Eq
      ((clauseMatches (fun value => .apply value input) clause value).run resolve registered)
      ((clauseMatches .evaluate clause value).run resolve registered) := by
  simp only [clauseMatches, Script.run_bind, Script.run_isExpression, Run.bind_done]
  by_cases hregistered : (clause.namesOne registered && !clause.isLiteralEscape) = true
  · rw [if_pos hregistered, if_pos hregistered]
    exact .refl _
  · rw [if_neg hregistered, if_neg hregistered]
    refine reading_alike (h ?_) fun _ _ => rfl
    simpa using hregistered

theorem firstCase?_alike (value : Value) {cases : List Value}
    (hnull : Value.null.Agrees resolve input)
    (hclauses : ∀ fields : Object, .object fields ∈ cases →
      ∀ clause, fields.find? "when" = some clause →
        (clause.namesOne registered = true → clause.isLiteralEscape = true) →
        clause.Agrees resolve input)
    (hbranches : ∀ fields : Object, .object fields ∈ cases →
      ∀ branch, fields.find? "then" = some branch → branch.Agrees resolve input) :
    Run.Alike Eq
      ((firstCase? (fun value => .apply value input) value cases).run resolve registered)
      ((firstCase? .evaluate value cases).run resolve registered) := by
  induction cases with
  | nil => exact .refl _
  | cons item rest ih =>
    cases item with
    | object fields =>
      simp only [firstCase?]
      cases hfind : Fields.find? "when" fields with
      | none => exact .refl _
      | some clause =>
        simp only [Script.run_bind]
        refine (clauseMatches_alike value
          (hclauses fields List.mem_cons_self clause hfind)).bind fun holds _ => ?_
        cases holds
        · exact ih (fun fields hmem => hclauses fields (List.mem_cons_of_mem _ hmem))
            fun fields hmem => hbranches fields (List.mem_cons_of_mem _ hmem)
        · simp only [ite_true]
          have hbranch := field_agrees hnull (hbranches fields List.mem_cons_self)
          exact reading_alike hbranch fun _ _ => rfl
    | _ => exact .refl _

theorem caseOf_alike (hnull : Value.null.Agrees resolve input)
    (hparts : ∀ fields : Object, operand = .object fields → ∀ key ∈ ["value", "default"],
      ∀ part, fields.find? key = some part → part.Agrees resolve input)
    (hclauses : ∀ fields cases, operand = .object fields →
      Fields.find? "cases" fields = some (.array cases) →
      ∀ item : Object, .object item ∈ cases → ∀ clause, item.find? "when" = some clause →
        (clause.namesOne registered = true → clause.isLiteralEscape = true) →
        clause.Agrees resolve input)
    (hbranches : ∀ fields cases, operand = .object fields →
      Fields.find? "cases" fields = some (.array cases) →
      ∀ item : Object, .object item ∈ cases → ∀ branch, item.find? "then" = some branch →
        branch.Agrees resolve input)
    (other : Value) :
    Run.Alike Eq ((caseOf.call .apply operand input).run resolve registered)
      ((caseOf.call .evaluate operand other).run resolve registered) := by
  cases operand with
  | object fields =>
    have hparts := hparts fields rfl
    simp only [caseOf, both, Operation.call, selectCase, requireFields, Script.run_bind,
      Script.run_done, Run.bind_done]
    split
    · next cases hcases =>
      simp only [Script.run_bind, Script.run_apply, Script.run_evaluate]
      refine (field_agrees hnull (hparts "value" (by simp))).bind fun value _ => ?_
      refine (firstCase?_alike value hnull (hclauses fields cases rfl hcases)
        (hbranches fields cases rfl hcases)).bind fun result _ => ?_
      cases result with
      | some result => exact .refl _
      | none =>
        rw [Script.run_apply, Script.run_evaluate]
        exact field_agrees hnull (hparts "default" (by simp))
    · exact .refl _
  | _ => exact .refl _

end Forms

end Builtin

end JsonExpr
