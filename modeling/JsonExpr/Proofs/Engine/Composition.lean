import JsonExpr.Proofs.Engine.Comparing

-- Composition is one fold in two directions: pipes can be put together and taken apart, and a
-- composition is the pipe of its expressions in reverse.
namespace JsonExpr

theorem Script.fold_append {α β : Type} (step : β → α → Script β) (start : β)
    (items more : List α) :
    fold step start (items ++ more) = fold step start items >>= fun acc => fold step acc more := by
  induction items generalizing start with
  | nil => rfl
  | cons item rest ih => simp only [List.cons_append, fold, LawfulMonad.bind_assoc, ih]

namespace Builtin

theorem find?_pipe : operations.find? "$pipe" = some (composition "$pipe" id) := by
  simp [operations, Fields.find?, pipe]

theorem find?_compose : operations.find? "$compose" = some (composition "$compose" List.reverse) := by
  simp [operations, Fields.find?, compose]

section Composition

variable (resolve : Request → Run Value) (registered : String → Bool) (name : String)
  (order : List Value → List Value) (items : List Value)

-- The first element that names no registered operation, if there is one.
def stray? : Option Value := items.find? fun item => !item.namesOne registered

theorem run_requireComposable :
    (requireComposable name (.array items)).run resolve registered =
      match stray? registered items with
      | some item => .fail (.operand (.notExpression item))
      | none => .done items := by
  rw [requireComposable, Script.run_bind,
    Script.run_first? (fun item => !item.namesOne registered) fun item _ => rfl,
    Run.bind_done, ← stray?]
  cases stray? registered items <;> rfl

variable {registered items}

theorem stray?_eq_none_iff :
    stray? registered items = none ↔ ∀ item ∈ items, item.namesOne registered = true := by
  simp [stray?]

theorem run_composition_applied (hstray : stray? registered items = none) (input : Value) :
    ((composition name order).call .apply (.array items) input).run resolve registered =
      (chain (order items) input).run resolve registered := by
  simp only [composition, both, Operation.call, Script.run_bind, run_requireComposable, hstray,
    Run.bind_done]

theorem run_composition_evaluated (hstray : stray? registered items = none) (seed : Value) :
    ((composition name order).call .evaluate (.array [.array items, seed]) .null).run resolve
        registered =
      (resolve (.evaluate seed)).bind fun start =>
        (chain (order items) start).run resolve registered := by
  simp only [composition, both, Operation.call, requirePair, Script.run_bind, Script.run_done,
    Script.run_evaluate, run_requireComposable, hstray, Run.bind_done]

-- Nothing is resolved before all elements have been checked.
theorem run_composition_of_stray {item : Value} (hstray : stray? registered items = some item)
    (input seed : Value) :
    ((composition name order).call .apply (.array items) input).run resolve registered =
        .fail (.operand (.notExpression item)) ∧
      ((composition name order).call .evaluate (.array [.array items, seed]) .null).run resolve
          registered = .fail (.operand (.notExpression item)) := by
  constructor
  · simp only [composition, both, Operation.call, Script.run_bind, run_requireComposable, hstray,
      Run.bind_fail]
  · simp only [composition, both, Operation.call, requirePair, Script.run_bind, Script.run_done,
      run_requireComposable, hstray, Run.bind_done, Run.bind_fail]

theorem run_chain_append (expressions more : List Value) (start : Value) :
    (chain (expressions ++ more) start).run resolve registered =
      ((chain expressions start).run resolve registered).bind fun value =>
        (chain more value).run resolve registered := by
  rw [chain, Script.fold_append, Script.run_bind]
  rfl

end Composition

end Builtin

namespace Engine

-- A composition without and with the value that it starts from.
def chained (name : String) (expressions : List Value) : Value :=
  .object [(name, .array expressions)]

def seeded (name : String) (expressions : List Value) (seed : Value) : Value :=
  .object [(name, .array [.array expressions, seed])]

variable {engine : Engine} {names : List String} {expressions : List Value}

section Members

variable (hhas : engine.Has names) (hplain : engine.middleware = []) {name : String}
  (hname : name ∈ names) {order : List Value → List Value}
  (hfind : Builtin.operations.find? name = some (Builtin.composition name order))

include hhas hplain hname hfind

theorem Has.resolveWith_chained (levels : Nat)
    (hstray : Builtin.stray? engine.registers expressions = none) (input : Value) :
    engine.resolveWith (engine.dispatch (levels + 1)) (.apply (chained name expressions) input) =
      (Run.note (.dispatching name .apply)).bind fun _ =>
        (Builtin.chain (order expressions) input).run
          (engine.resolveWith (engine.dispatch levels)) engine.registers := by
  rw [hhas.resolveWith_eq hplain hname hfind levels rfl]
  simp only [callFor, Builtin.run_composition_applied _ _ _ hstray]

theorem Has.resolveWith_seeded (levels : Nat)
    (hstray : Builtin.stray? engine.registers expressions = none) (seed : Value) :
    engine.resolveWith (engine.dispatch (levels + 1)) (.evaluate (seeded name expressions seed)) =
      (Run.note (.dispatching name .evaluate)).bind fun _ =>
        (engine.resolveWith (engine.dispatch levels) (.evaluate seed)).bind fun start =>
          (Builtin.chain (order expressions) start).run
            (engine.resolveWith (engine.dispatch levels)) engine.registers := by
  rw [hhas.resolveWith_eq hplain hname hfind levels rfl]
  simp only [callFor, Builtin.run_composition_evaluated _ _ _ hstray]

theorem Has.resolve_of_stray {item : Value}
    (hstray : Builtin.stray? engine.registers expressions = some item) (input seed : Value)
    (world : Surroundings) :
    engine.apply (chained name expressions) input world =
        ⟨.error (.operand (.notExpression item)), [.dispatching name .apply], world⟩ ∧
      engine.evaluate (seeded name expressions seed) world =
        ⟨.error (.operand (.notExpression item)), [.dispatching name .evaluate], world⟩ := by
  have hfails := fun resolve =>
    Builtin.run_composition_of_stray resolve name order hstray input seed
  constructor
  · obtain ⟨levels, hlevels⟩ := engine.exists_levels (.apply (chained name expressions) input)
    rw [apply, hlevels, hhas.resolveWith_eq hplain hname hfind (levels + 1) rfl]
    simp only [callFor, (hfails _).1]
    rfl
  · obtain ⟨levels, hlevels⟩ := engine.exists_levels (.evaluate (seeded name expressions seed))
    rw [evaluate, hlevels, hhas.resolveWith_eq hplain hname hfind (levels + 1) rfl]
    simp only [callFor, (hfails _).2]
    rfl

end Members

section Fold

variable (hhas : engine.Has ["$pipe", "$compose"]) (hplain : engine.middleware = [])

include hhas hplain

theorem Has.pipe_append {more : List Value}
    (hregistered : ∀ expression ∈ expressions ++ more, engine.isExpression expression = true)
    (input : Value) :
    engine.AlikeUnlessDeep (engine.apply (chained "$pipe" (expressions ++ more)) input)
      ((engine.apply (chained "$pipe" expressions) input).bind fun value =>
        engine.apply (chained "$pipe" more) value) := by
  let whole := chained "$pipe" (expressions ++ more)
  let first := chained "$pipe" expressions
  let second := chained "$pipe" more
  obtain ⟨levels, hlevels⟩ : ∃ levels,
      whole.depth + first.depth + second.depth + allowance = levels + 1 := ⟨_ + 999, rfl⟩
  have hleveled : ∀ expression : Value,
      expression.depth ≤ whole.depth + first.depth + second.depth → ∀ value,
      engine.Leveled (levels + 1) (engine.apply expression value) fun levels =>
        engine.resolveWith (engine.dispatch levels) (.apply expression value) := by
    intro expression hdepth value
    refine resolve_leveled hplain (.apply expression value) ?_
    rw [Request.expression_apply]
    omega
  refine (hleveled whole (by omega) input).alikeUnlessDeep
    ((hleveled first (by omega) input).bind fun value => hleveled second (by omega) value) ?_
  have hpipe : ∀ {part : List Value}, part ⊆ expressions ++ more → ∀ value,
      engine.resolveWith (engine.dispatch (levels + 1)) (.apply (chained "$pipe" part) value) =
        (Run.note (.dispatching "$pipe" .apply)).bind fun _ =>
          (Builtin.chain part value).run (engine.resolveWith (engine.dispatch levels))
            engine.registers := by
    intro part hpart
    have hstray : Builtin.stray? engine.registers part = none :=
      Builtin.stray?_eq_none_iff.mpr fun item hmem => hregistered item (hpart hmem)
    exact hhas.resolveWith_chained hplain (by simp) Builtin.find?_pipe levels hstray
  dsimp only [whole, first, second]
  rw [hpipe (List.Subset.refl _), hpipe (List.subset_append_left _ _),
    Builtin.run_chain_append, Run.bind_assoc]
  refine (Run.Alike.refl _).bind fun _ _ => (Run.Alike.refl _).bind fun value _ => ?_
  rw [hpipe (List.subset_append_right _ _)]
  exact (Run.note_dispatching_alike _ _).bind_right (.refl _)

theorem Has.compose_alike
    (hregistered : ∀ expression ∈ expressions, engine.isExpression expression = true) :
    (∀ input, Run.Alike Eq (engine.apply (chained "$compose" expressions) input)
      (engine.apply (chained "$pipe" expressions.reverse) input)) ∧
    ∀ seed, Run.Alike Eq (engine.evaluate (seeded "$compose" expressions seed))
      (engine.evaluate (seeded "$pipe" expressions.reverse seed)) := by
  have hstray : Builtin.stray? engine.registers expressions = none :=
    Builtin.stray?_eq_none_iff.mpr hregistered
  have hstray' : Builtin.stray? engine.registers expressions.reverse = none :=
    Builtin.stray?_eq_none_iff.mpr fun item hmem => hregistered item (List.mem_reverse.mp hmem)
  constructor
  · intro input
    have hdepth : (chained "$compose" expressions).depth =
        (chained "$pipe" expressions.reverse).depth := by
      simp [chained, Value.depth, Value.depthOfFields, Value.depthOfItems_reverse]
    obtain ⟨levels, hlevels⟩ : ∃ levels,
        (chained "$pipe" expressions.reverse).depth + allowance = levels + 1 := ⟨_ + 999, rfl⟩
    simp only [apply, resolve, Request.expression_apply, hdepth, hlevels]
    rw [hhas.resolveWith_chained hplain (by simp) Builtin.find?_compose levels hstray,
      hhas.resolveWith_chained hplain (by simp) Builtin.find?_pipe levels hstray']
    exact (Run.note_dispatching_alike _ _).bind_left
      ((Run.note_dispatching_alike _ _).bind_right (.refl _))
  · intro seed
    have hdepth : (seeded "$compose" expressions seed).depth =
        (seeded "$pipe" expressions.reverse seed).depth := by
      simp [seeded, Value.depth, Value.depthOfItems, Value.depthOfFields,
        Value.depthOfItems_reverse]
    obtain ⟨levels, hlevels⟩ : ∃ levels,
        (seeded "$pipe" expressions.reverse seed).depth + allowance = levels + 1 := ⟨_ + 999, rfl⟩
    simp only [evaluate, resolve, Request.expression_evaluate, hdepth, hlevels]
    rw [hhas.resolveWith_seeded hplain (by simp) Builtin.find?_compose levels hstray,
      hhas.resolveWith_seeded hplain (by simp) Builtin.find?_pipe levels hstray']
    exact (Run.note_dispatching_alike _ _).bind_left
      ((Run.note_dispatching_alike _ _).bind_right (.refl _))

-- A pipe of two lists of expressions is the pipe of the first and then that of the second, the
-- empty one returns its input, and a composition is the pipe in reverse. If an element is not a
-- registered expression, the first such fails the call before anything is resolved.
theorem Has.compositions_fold :
    (∀ expressions more : List Value,
      (∀ expression ∈ expressions ++ more, engine.isExpression expression = true) → ∀ input,
      engine.AlikeUnlessDeep (engine.apply (chained "$pipe" (expressions ++ more)) input)
        ((engine.apply (chained "$pipe" expressions) input).bind fun value =>
          engine.apply (chained "$pipe" more) value)) ∧
    (∀ input, Run.Alike Eq (engine.apply (chained "$pipe" []) input) (.done input)) ∧
    (∀ expressions : List Value,
      (∀ expression ∈ expressions, engine.isExpression expression = true) →
      (∀ input, Run.Alike Eq (engine.apply (chained "$compose" expressions) input)
        (engine.apply (chained "$pipe" expressions.reverse) input)) ∧
      ∀ seed, Run.Alike Eq (engine.evaluate (seeded "$compose" expressions seed))
        (engine.evaluate (seeded "$pipe" expressions.reverse seed))) ∧
    (∀ name ∈ ["$pipe", "$compose"], ∀ expressions : List Value,
      (∃ expression ∈ expressions, engine.isExpression expression = false) →
      ∃ item, Builtin.stray? engine.registers expressions = some item ∧ ∀ input seed world,
        engine.apply (chained name expressions) input world =
            ⟨.error (.operand (.notExpression item)), [.dispatching name .apply], world⟩ ∧
          engine.evaluate (seeded name expressions seed) world =
            ⟨.error (.operand (.notExpression item)), [.dispatching name .evaluate], world⟩) := by
  refine ⟨fun _ _ => hhas.pipe_append hplain, fun input => ?_, fun _ => hhas.compose_alike hplain,
    fun name hname expressions hunregistered => ?_⟩
  · obtain ⟨levels, hlevels⟩ := engine.exists_levels (.apply (chained "$pipe" []) input)
    rw [apply, hlevels,
      hhas.resolveWith_chained hplain (by simp) Builtin.find?_pipe (levels + 1) rfl]
    exact (Run.note_dispatching_alike _ _).bind_left (.refl _)
  · obtain ⟨item, hitem⟩ : ∃ item, Builtin.stray? engine.registers expressions = some item := by
      rw [← Option.isSome_iff_exists, Builtin.stray?, List.find?_isSome]
      obtain ⟨expression, hmem, hexpression⟩ := hunregistered
      exact ⟨expression, hmem, by simpa [isExpression] using hexpression⟩
    refine ⟨item, hitem, fun input seed => ?_⟩
    simp only [List.mem_cons, List.not_mem_nil, or_false] at hname
    rcases hname with rfl | rfl
    · exact hhas.resolve_of_stray hplain (by simp) Builtin.find?_pipe hitem input seed
    · exact hhas.resolve_of_stray hplain (by simp) Builtin.find?_compose hitem input seed

end Fold

-- The negation is applied to what the path leads to, in one pipe or in two.
theorem get_then_negate_in_two :
    let get := Value.object [("$get", .string "a")]
    let negate := Value.object [("$not", .object [("$identity", .null)])]
    complete.Has ["$pipe", "$compose"] ∧ complete.middleware = [] ∧
      (∀ expression ∈ [get, negate], complete.isExpression expression = true) ∧
      ∀ input world, (complete.apply (chained "$pipe" [get, negate]) input world).Alike Eq
        (((complete.apply (chained "$pipe" [get]) input).bind fun value =>
          complete.apply (chained "$pipe" [negate]) value) world) := by
  intro get negate
  have hhas : complete.Has ["$pipe", "$compose"] := complete_has (by decide)
  have hregistered : ∀ expression ∈ [get, negate], complete.isExpression expression = true := by
    decide
  refine ⟨hhas, rfl, hregistered, fun input world => ?_⟩
  obtain ⟨happend, -⟩ := hhas.compositions_fold rfl
  exact (happend [get] [negate] hregistered input world).resolve_right fun h => h.1 complete_builtIn

end Engine

end JsonExpr
