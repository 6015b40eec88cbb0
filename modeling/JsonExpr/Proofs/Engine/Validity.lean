import JsonExpr.Proofs.Engine.Nesting
import JsonExpr.Proofs.Engine.Overlooked

-- What validation promises about dispatching: a valid expression never meets an unknown operation,
-- unless it hides one in a condition that validation overlooks.
namespace JsonExpr

def Failure.IsKnown (failure : Failure) : Prop := ∀ unknown, failure ≠ .unknownOperation unknown

namespace Engine

variable {engine : Engine}

theorem Clean.resolveWith_known {dispatch : Call → Run Value} {request : Request}
    (hclean : engine.Clean .resolved request.expression)
    (hdispatch : ∀ call : Call, isOperationName call.name = true →
      engine.Clean .resolved call.node → (dispatch call).FailsOnly Failure.IsKnown) :
    (engine.resolveWith dispatch request).FailsOnly Failure.IsKnown := by
  refine (Run.failingOnly Failure.IsKnown).resolveWith dispatch dispatch rfl ?_ ?_
  · intro name operand hname hexposed hregisters
    rw [(hclean.exposed hexposed).registers hname] at hregisters
    cases hregisters
  · intro call hname hexposed _
    exact hdispatch call hname (hclean.exposed hexposed)

theorem Shipped.dispatch_known (hshipped : engine.Shipped) {levels : Nat} {call : Call}
    (hname : isOperationName call.name = true) (hclean : engine.Clean .resolved call.node) :
    (engine.dispatch levels call).FailsOnly Failure.IsKnown := by
  let c := Run.failingOnly Failure.IsKnown
  have hown : ∀ failure : Failure, failure.IsOwn → failure.IsKnown := by
    rintro failure hown unknown rfl
    exact hown
  induction levels generalizing call with
  | zero => exact c.fail fun _ h => by cases h
  | succ levels ih =>
    have hresolve : ∀ request, engine.Clean .resolved request.expression →
        (engine.resolveWith (engine.dispatch levels) request).FailsOnly Failure.IsKnown :=
      fun _ hclean => hclean.resolveWith_known fun _ => ih
    obtain ⟨operation, hfind, hinvoke⟩ := hshipped.invoke_eq call (hclean.registers hname)
    simp only [dispatch, hshipped.middleware_eq_nil]
    let resolve := engine.resolveWith (engine.dispatch levels)
    change c.Related (engine.invoke resolve call) (engine.invoke resolve call)
    rw [hinvoke]
    refine c.bind (c.note rfl) fun _ => ?_
    by_cases hliteral : call.name = literalName
    · obtain rfl : literalOperation = operation := by
        simpa [hliteral, literalName, Builtin.operations, Fields.find?] using hfind
      cases call.mode <;> exact c.done _
    · have hoperand := hclean.operand hname hliteral
      -- a test may also have conditions resolved that are expressions
      have htesting : isFieldTest call.name = true → operation.Within .testing →
          c.Related
            ((operation.call call.mode call.operand call.input).run resolve engine.registers)
            ((operation.call call.mode call.operand call.input).run resolve engine.registers) := by
        intro htest hwithin
        rw [Role.ofOperand, if_pos htest] at hoperand
        refine c.run (hwithin engine.registers _ _ _) ⟨hown, False.elim, False.elim, False.elim⟩
          (fun request h => ?_) fun _ _ => rfl
        refine hresolve request ?_
        rcases h with hsubject | ⟨hcondition, hregistered⟩
        · exact hoperand.subject hsubject
        · exact hoperand.condition hcondition hregistered
      rcases Builtin.offering_or_test (Fields.mem_of_find? hfind) with hoffering | htest | htest
      · refine c.run (hoffering engine.registers _ _ _)
          ⟨hown, fun _ => trivial, fun _ => trivial, False.elim⟩ (fun request h => ?_)
          fun _ _ => rfl
        refine hresolve request ?_
        rcases h with hnull | hexposed
        · rw [hnull]
          exact .null
        · exact hoperand.resolved.exposed hexposed
      · obtain ⟨hname, rfl⟩ := Prod.mk.inj htest
        exact htesting (by simp [isFieldTest, hname]) Builtin.matchesAll_within
      · obtain ⟨hname, rfl⟩ := Prod.mk.inj htest
        exact htesting (by simp [isFieldTest, hname]) Builtin.filterBy_within

-- A test whose conditions are one condition behind the literal escape.
def escapedTest (condition : Value) : Value :=
  .object [("$matches", .object [(literalName, condition)])]

theorem Shipped.validate_escapedTest (hshipped : engine.Shipped)
    (hregisters : engine.registers "$matches" = true) (condition : Value) :
    engine.validate (escapedTest condition) = [] := by
  have hliteral : engine.registers literalName = true := by
    simp [registers, Fields.contains, hshipped.find?_literal]
  simp [validate, escapedTest, unknowns, unknownsOfFields, Value.expression?, isOperationName,
    literalName, sigil, hregisters] at hliteral ⊢
  simp [hliteral]

-- An escaped condition that is an expression is applied nevertheless, and the test fails as this
-- does.
theorem Shipped.apply_escapedTest (hshipped : engine.Shipped)
    (hregisters : engine.registers "$matches" = true) {condition : Value}
    (hregistered : condition.namesOne engine.registers = true) (input : Value)
    (world : Surroundings) (failure : Failure) :
    (engine.apply (escapedTest condition) input world).result = .error failure ↔
      (engine.apply condition (input.read (Path.parse literalName)) world).result =
        .error failure := by
  have hname : isOperationName "$matches" = true := by decide
  let request : Request := .apply (escapedTest condition) input
  let levels := condition.depth + 1 + allowance
  have hlevels : request.expression.depth + allowance = levels + 1 := by
    simp [request, levels, escapedTest, Value.depth, Value.depthOfFields]
    omega
  have happly : engine.apply condition (input.read (Path.parse literalName)) =
      engine.resolveWith (engine.dispatch levels)
        (.apply condition (input.read (Path.parse literalName))) := by
    refine hshipped.builtIn.resolve_eq hshipped.middleware_eq_nil ?_
    simp [levels]
    omega
  obtain ⟨operation, hfind, hinvoke⟩ := hshipped.invoke_eq
    (callFor request "$matches" (.object [(literalName, condition)])) hregisters
  obtain rfl : Builtin.matchesAll = operation :=
    Option.some.inj (Builtin.find?_matches.symm.trans hfind)
  change (engine.resolveWith (engine.dispatch (request.expression.depth + allowance)) request
    world).result = _ ↔ _
  rw [resolveWith_node _ rfl hname, if_pos hregisters, hlevels, dispatch,
    hshipped.middleware_eq_nil]
  change (engine.invoke _ _ world).result = _ ↔ _
  rw [hinvoke, happly]
  let resolve := engine.resolveWith (engine.dispatch levels)
  change ((Builtin.matchesAll.call .apply (.object [(literalName, condition)]) input).run resolve
    engine.registers world).result = _ ↔
      (resolve (.apply condition (input.read (Path.parse literalName))) world).result = _
  simp only [Builtin.matchesAll, Builtin.both, Operation.call, Builtin.requireFields,
    Builtin.conditionsHold, Script.every, Script.run_bind, Script.run_done, Script.run_isExpression,
    Script.run_apply, Run.bind_done, hregistered, ite_true]
  -- nothing can fail once the condition has been applied
  rcases hreport : resolve (.apply condition (input.read (Path.parse literalName))) world with
    ⟨first | answer, events, after⟩
  · rw [Run.bind_of_error (Run.bind_of_error (Run.bind_of_error hreport))]
  · rw [Run.bind_assoc, Run.bind_assoc, Run.bind_of_ok hreport]
    split <;> simp [Run.done]

-- A valid expression meets no unknown operation in any mode, on any input, unless validation
-- overlooks one in it. What it overlooks can be met: an escaped condition that meets an unknown
-- operation is part of a valid expression that meets it too.
theorem Shipped.known_of_valid (hshipped : engine.Shipped) :
    (∀ request : Request, engine.validate request.expression = [] →
      engine.overlooked .resolved request.expression = [] →
      ∀ world unknown, (engine.resolve request world).result ≠ .error (.unknownOperation unknown)) ∧
    (∀ condition input world unknown, engine.registers "$matches" = true →
      condition.namesOne engine.registers = true →
      engine.validate (escapedTest condition) = [] ∧
        ((engine.apply (escapedTest condition) input world).result =
            .error (.unknownOperation unknown) ↔
          (engine.apply condition (input.read (Path.parse literalName)) world).result =
            .error (.unknownOperation unknown))) := by
  constructor
  · intro request hvalid hoverlooked world unknown hfailure
    have hclean : engine.Clean .resolved request.expression :=
      ⟨List.map_eq_nil_iff.mp hvalid, hoverlooked⟩
    have hknown : (engine.resolve request).FailsOnly Failure.IsKnown :=
      hclean.resolveWith_known fun call hname hcall => hshipped.dispatch_known hname hcall
    exact hknown world _ hfailure unknown rfl
  · intro condition input world unknown hregisters hregistered
    exact ⟨hshipped.validate_escapedTest hregisters condition,
      hshipped.apply_escapedTest hregisters hregistered input world _⟩

-- The escape may stand in place of all conditions if it holds no unknown operation.
theorem escaped_negation_known :
    let test := escapedTest (.object [("$not", .object [("$get", .string "a")])])
    (ofPacks []).Shipped ∧ (ofPacks []).validate test = [] ∧
      (ofPacks []).overlooked .resolved test = [] ∧
      ∀ world unknown,
        ((ofPacks []).apply test .null world).result ≠ .error (.unknownOperation unknown) := by
  intro test
  have hvalid : (ofPacks []).validate test = [] := by decide
  have hoverlooked : (ofPacks []).overlooked .resolved test = [] := by decide
  exact ⟨shipped_ofPacks_nil, hvalid, hoverlooked,
    shipped_ofPacks_nil.known_of_valid.1 (.apply test .null) hvalid hoverlooked⟩

-- Validation finds nothing wrong with a test that meets an unknown operation behind the escape.
theorem escaped_unknown_overlooked :
    let condition := Value.object [("$not", .object [("$foo", .int 1)])]
    (ofPacks []).Shipped ∧ (ofPacks []).validate (escapedTest condition) = [] ∧
      ((ofPacks []).apply (escapedTest condition) .null ⟨mkStdGen 0, default⟩).result =
        .error (.unknownOperation ⟨"$foo", .int 1, (ofPacks []).names⟩) := by
  intro condition
  have hregisters : (ofPacks []).registers "$matches" = true := by decide
  refine ⟨shipped_ofPacks_nil, shipped_ofPacks_nil.validate_escapedTest hregisters condition, ?_⟩
  rw [shipped_ofPacks_nil.apply_escapedTest hregisters (by decide)]
  change ((ofPacks []).resolve (.apply condition _) _).result = _
  rw [shipped_ofPacks_nil.builtIn.resolve_eq rfl (Nat.le_refl condition.depth)]
  rfl

end Engine

end JsonExpr
