import JsonExpr.Proofs.Engine.Mentioned
import JsonExpr.Proofs.Run.Yields

-- Expressions that come to the same whenever they are applied to the same input. Built-in
-- operations do unless they draw on chance or the clock.
namespace JsonExpr

-- What built-in operations keep to that do not draw.
def Limits.still (registered : String → Bool) (operand : Value) : Limits :=
  { Limits.inside registered operand with draws := False }

theorem Builtin.still_of_mem {entry : String × Operation} (hmem : entry ∈ operations)
    (hname : entry.1 ∉ drawingNames) : entry.2.Within .still := by
  have hoffering : ∀ {guards : Prop} {operation : Operation},
      operation.Within (.offering guards False) → operation.Within .still :=
    fun h registered mode operand input => (h registered mode operand input).widen
      ⟨rfl, fun _ => Value.Offers.null_or_part, fun _ => id, fun _ => id, fun _ => trivial, id, id⟩
  have htesting : ∀ {operation : Operation}, operation.Within .testing →
      operation.Within .still := fun h registered mode operand input =>
    (h registered mode operand input).widen
      ⟨rfl, fun _ hresolves =>
        hresolves.elim (fun h => h.offers.null_or_part) fun h => .inr h.1.part,
        fun _ => id, fun _ => id, fun _ => trivial, id, id⟩
  cases kind_of_mem hmem with
  | ordinary h => exact hoffering h
  | matchesAll => exact htesting matchesAll_within
  | filterBy => exact htesting filterBy_within
  | sort => exact hoffering sort_guarding
  | drawing hdrawing _ => exact absurd hdrawing hname

namespace Engine

variable {engine : Engine}

-- The expression comes to the same whenever it is applied to an input, however deep inside others.
def Settles (engine : Engine) (expression : Value) : Prop :=
  ∀ levels input,
    (engine.resolveWith (engine.dispatch levels) (.apply expression input)).Settled

-- What is registered under the names is built in, and does not draw on chance or the clock.
def Still (engine : Engine) (names : List String) : Prop :=
  ∀ name ∈ names, ∀ definition, engine.definitions.find? name = some definition →
    ∃ entry ∈ Builtin.operations, entry.1 ∉ Builtin.drawingNames ∧
      definition = .operation { entry.2 with name }

theorem Still.mono {names fewer : List String} (h : engine.Still names) (hfewer : fewer ⊆ names) :
    engine.Still fewer := fun name hmem => h name (hfewer hmem)

theorem resolveWith_steady {dispatch : Call → Run Value} {request : Request}
    (h : ∀ call : Call, request.expression.Exposed call.node →
      engine.registers call.name = true → (dispatch call).Steady) :
    (engine.resolveWith dispatch request).Steady :=
  Run.steadying.resolveWith dispatch dispatch rfl (fun _ _ _ _ _ => trivial)
    fun call _ hexposed hregistered => h call hexposed hregistered

theorem Still.dispatch_steady (hplain : engine.middleware = []) (levels : Nat) {call : Call}
    (hregisters : engine.registers call.name = true) (h : engine.Still call.node.mentioned) :
    (engine.dispatch levels call).Steady := by
  induction levels generalizing call with
  | zero => exact ⟨.error .tooDeep, [], fun _ => rfl⟩
  | succ levels ih =>
    obtain ⟨definition, hfind⟩ := Option.isSome_iff_exists.mp hregisters
    obtain ⟨entry, hmem, hname, rfl⟩ :=
      h call.name (Value.Part.refl _).mem_mentioned definition hfind
    have hoperand : engine.Still call.operand.mentioned :=
      h.mono (Value.mentioned_subset_of_mem_fields (List.mem_singleton_self (call.name, _)))
    simp only [dispatch, hplain]
    change (engine.invoke _ call).Steady
    rw [invoke_of_find? hfind (Builtin.supports_of_mem hmem call.mode)]
    refine (Run.steady_note _).bind fun _ => ?_
    refine Run.steadying.run_self (Builtin.still_of_mem hmem hname engine.registers _ _ _)
      ⟨fun _ _ => trivial, fun _ => trivial, id, False.elim⟩ fun request hresolves => ?_
    have hsubset : request.expression.mentioned ⊆ call.operand.mentioned := by
      rcases hresolves with hnull | hpart
      · simp [hnull, Value.mentioned]
      · exact hpart.mentioned_subset
    refine resolveWith_steady fun inner hexposed hregistered => ?_
    have hinner := List.Subset.trans hexposed.part.mentioned_subset hsubset
    exact ih hregistered (hoperand.mono hinner)

-- An expression that mentions only such operations settles.
theorem Still.settles (hplain : engine.middleware = []) {expression : Value}
    (h : engine.Still expression.mentioned) : engine.Settles expression := by
  intro levels input
  refine (resolveWith_steady fun call hexposed hregistered => ?_).settled
  exact Still.dispatch_steady hplain levels hregistered
    (h.mono hexposed.part.mentioned_subset)

-- Where all operations have their usual names, those that draw are told by them.
theorem complete_still {names : List String} (h : ∀ name ∈ names, name ∉ Builtin.drawingNames) :
    complete.Still names := by
  intro name hmem definition hfind
  obtain ⟨entry, hentry, heq⟩ := List.mem_map.mp (Fields.mem_of_find? hfind)
  obtain ⟨rfl, rfl⟩ := Prod.mk.inj heq
  exact ⟨entry, hentry, h _ hmem, rfl⟩

end Engine

end JsonExpr
