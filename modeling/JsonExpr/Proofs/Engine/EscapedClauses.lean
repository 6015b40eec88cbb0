import JsonExpr.Proofs.Builtin.Clauses
import JsonExpr.Proofs.Engine.Comparing
import JsonExpr.Proofs.Engine.Template

-- What escaping data changes where a clause may be data or a test: nothing in a case, but a
-- condition on a field is no longer compared with the field.
namespace JsonExpr

namespace Engine

variable {engine : Engine}

-- The answer that a condition on the value at a path gives for each item.
def Answers (engine : Engine) (path : String) (condition : Value) (answer : Value → Bool) : Prop :=
  ∀ levels item, Run.Alike Eq
    ((Builtin.conditionsHold item [(path, condition)]).run
      (engine.resolveWith (engine.dispatch (levels + 1))) engine.registers) (.done (answer item))

theorem answers_of_isData (path : String) {clause : Value} (hdata : clause.IsData) :
    engine.Answers path clause fun item => (item.read (Path.parse path)).equal clause := by
  intro levels item
  rw [Builtin.run_conditionsHold_data path item (hdata.namesOne engine.registers)]
  exact .refl _

-- A test of the value at a path, or of that in given data.
def matching (path : String) (condition : Value) : Value :=
  .object [("$matches", .object [(path, condition)])]

def matchingIn (data : Value) (path : String) (condition : Value) : Value :=
  .object [("$matches", .object [("data", data.escape), ("conditions", .object [(path, condition)])])]

-- The items that pass such a test, or those of a given list.
def filtering (path : String) (condition : Value) : Value :=
  .object [("$filterBy", .object [(path, condition)])]

def filteringIn (items : List Value) (path : String) (condition : Value) : Value :=
  .object [("$filterBy",
    .object [("array", (Value.array items).escape), ("conditions", .object [(path, condition)])])]

-- A case with a clause among its cases, wherever it stands and whatever stands beside it.
def choosing (fields : Fields Value) (before after : List Value) (item : Fields Value)
    (clause : Value) : Value :=
  .object [("$case", .object (fields.insert "cases"
    (.array (before ++ .object (item.insert "when" clause) :: after))))]

theorem filter_const_eq_iff {items : List Value} {passes : Value → Bool} {all : Bool} :
    (items.filter fun _ => all) = items.filter passes ↔ ∀ item ∈ items, passes item = all := by
  cases all
  · rw [List.filter_eq_nil_iff.mpr (by simp), eq_comm, List.filter_eq_nil_iff]
    simp
  · rw [List.filter_eq_self.mpr (by simp), eq_comm, List.filter_eq_self]

section Operations

variable (hhas : engine.Has ["$case", "$filterBy", "$matches", literalName])
  (hplain : engine.middleware = [])

include hhas hplain

theorem Has.escape_alike (levels : Nat) {request : Request} {value : Value}
    (hexpression : request.expression = value.escape) :
    Run.Alike Eq (engine.resolveWith (engine.dispatch (levels + 1)) request) (.done value) := by
  rw [hhas.resolveWith_literal hplain (by simp) levels hexpression]
  exact (Run.note_dispatching_alike _ _).bind_left (.refl _)

theorem Has.answers_escape (path : String) (clause : Value) :
    engine.Answers path clause.escape fun _ => clause.isTrue := by
  intro levels item
  have hregistered : clause.escape.namesOne engine.registers = true :=
    Value.namesOne_iff.mpr ⟨literalName, clause, rfl, by decide, hhas.registers (by simp)⟩
  exact Builtin.conditionsHold_escape_alike path item hregistered
    fun value => hhas.escape_alike hplain levels rfl

variable {path : String} {condition : Value} {answer : Value → Bool}

theorem Has.matching_alike (hanswers : engine.Answers path condition answer) (input : Value) :
    Run.Alike Eq (engine.apply (matching path condition) input) (.done (.bool (answer input))) ∧
      Run.Alike Eq (engine.evaluate (matchingIn input path condition))
        (.done (.bool (answer input))) := by
  constructor
  · obtain ⟨levels, hlevels⟩ := engine.exists_levels (.apply (matching path condition) input)
    rw [apply, hlevels,
      hhas.resolveWith_eq hplain (by simp) Builtin.find?_matches (levels + 1) rfl]
    exact (Run.note_dispatching_alike _ _).bind_left
      (Builtin.matchesAll_applied_alike (hanswers levels) input)
  · obtain ⟨levels, hlevels⟩ := engine.exists_levels (.evaluate (matchingIn input path condition))
    rw [evaluate, hlevels,
      hhas.resolveWith_eq hplain (by simp) Builtin.find?_matches (levels + 1) rfl]
    exact (Run.note_dispatching_alike _ _).bind_left
      (Builtin.matchesAll_evaluated_alike (hanswers levels) rfl rfl
        (hhas.escape_alike hplain levels rfl) .null)

theorem Has.filtering_alike (hanswers : engine.Answers path condition answer)
    (items : List Value) :
    Run.Alike Eq (engine.apply (filtering path condition) (.array items))
        (.done (.array (items.filter answer))) ∧
      Run.Alike Eq (engine.evaluate (filteringIn items path condition))
        (.done (.array (items.filter answer))) := by
  constructor
  · obtain ⟨levels, hlevels⟩ :=
      engine.exists_levels (.apply (filtering path condition) (.array items))
    rw [apply, hlevels,
      hhas.resolveWith_eq hplain (by simp) Builtin.find?_filterBy (levels + 1) rfl]
    exact (Run.note_dispatching_alike _ _).bind_left
      (Builtin.filterBy_applied_alike (hanswers levels) items)
  · obtain ⟨levels, hlevels⟩ := engine.exists_levels (.evaluate (filteringIn items path condition))
    rw [evaluate, hlevels,
      hhas.resolveWith_eq hplain (by simp) Builtin.find?_filterBy (levels + 1) rfl]
    exact (Run.note_dispatching_alike _ _).bind_left
      (Builtin.filterBy_evaluated_alike (hanswers levels) rfl rfl
        (hhas.escape_alike hplain levels rfl) .null)

variable {clause : Value} (hdata : clause.IsData)

include hdata

-- Where the case stands among others and how it is resolved does not matter.
theorem Has.choosing_alike (fields : Fields Value) (before after : List Value)
    (item : Fields Value) (request : Request) :
    engine.AlikeUnlessDeep
      (engine.resolve (request.on (choosing fields before after item clause.escape)))
      (engine.resolve (request.on (choosing fields before after item clause))) := by
  let wrapped := choosing fields before after item clause.escape
  let bare := choosing fields before after item clause
  obtain ⟨levels, hlevels⟩ : ∃ levels, wrapped.depth + bare.depth + allowance = levels + 2 :=
    ⟨_ + 998, rfl⟩
  have hleveled : ∀ expression : Value, expression.depth ≤ wrapped.depth + bare.depth →
      engine.Leveled (levels + 2) (engine.resolve (request.on expression)) fun levels =>
        engine.resolveWith (engine.dispatch levels) (request.on expression) := by
    intro expression hdepth
    refine resolve_leveled hplain _ ?_
    rw [request.expression_on]
    omega
  refine (hleveled wrapped (by omega)).alikeUnlessDeep (hleveled bare (by omega)) ?_
  rw [hhas.resolveWith_eq hplain (by simp) Builtin.find?_case (levels + 1)
      (request.expression_on wrapped),
    hhas.resolveWith_eq hplain (by simp) Builtin.find?_case (levels + 1)
      (request.expression_on bare)]
  have hclause : ∀ inner : Request, inner.expression = clause → Run.Alike Eq
      (engine.resolveWith (engine.dispatch (levels + 1)) inner) (.done clause) := by
    rintro inner rfl
    rw [resolveWith_of_isData _ hdata]
    exact .refl _
  have hsame := hdata.namesOne engine.registers
  cases request with
  | apply _ input =>
    refine (Run.Alike.refl _).bind fun _ _ => Builtin.selectCase_escape_alike
      (fun value => .apply value input) ?_ ?_ hsame fields before after item
    · rw [Script.run_apply]
      exact hclause _ rfl
    · rw [Script.run_apply]
      exact hhas.escape_alike hplain levels rfl
  | evaluate =>
    refine (Run.Alike.refl _).bind fun _ _ => Builtin.selectCase_escape_alike
      .evaluate ?_ ?_ hsame fields before after item
    · rw [Script.run_evaluate]
      exact hclause _ rfl
    · rw [Script.run_evaluate]
      exact hhas.escape_alike hplain levels rfl

-- Escaping a clause that is data changes nothing in a case. A condition on a field is a test when
-- it is escaped, and this test is passed if the data is true, whatever the field is; so it changes
-- nothing for those items only which the data meets if it is true and does not meet if it is not.
theorem Has.escape_alike_iff :
    (∀ path input world,
      ((engine.apply (matching path clause.escape) input world).Alike Eq
          (engine.apply (matching path clause) input world) ↔
        (input.read (Path.parse path)).equal clause = clause.isTrue) ∧
      ((engine.evaluate (matchingIn input path clause.escape) world).Alike Eq
          (engine.evaluate (matchingIn input path clause) world) ↔
        (input.read (Path.parse path)).equal clause = clause.isTrue)) ∧
    (∀ path items world,
      ((engine.apply (filtering path clause.escape) (.array items) world).Alike Eq
          (engine.apply (filtering path clause) (.array items) world) ↔
        ∀ item ∈ items, (item.read (Path.parse path)).equal clause = clause.isTrue) ∧
      ((engine.evaluate (filteringIn items path clause.escape) world).Alike Eq
          (engine.evaluate (filteringIn items path clause) world) ↔
        ∀ item ∈ items, (item.read (Path.parse path)).equal clause = clause.isTrue)) ∧
    (∀ fields before after item,
      (∀ input, engine.AlikeUnlessDeep
        (engine.apply (choosing fields before after item clause.escape) input)
        (engine.apply (choosing fields before after item clause) input)) ∧
      engine.AlikeUnlessDeep (engine.evaluate (choosing fields before after item clause.escape))
        (engine.evaluate (choosing fields before after item clause))) := by
  refine ⟨fun path input world => ?_, fun path items world => ?_,
    fun fields before after item => ⟨fun input => ?_, ?_⟩⟩
  · obtain ⟨happly, hevaluate⟩ :=
      hhas.matching_alike hplain (hhas.answers_escape hplain path clause) input
    obtain ⟨happly', hevaluate'⟩ := hhas.matching_alike hplain (answers_of_isData path hdata) input
    rw [happly.iff_of_done happly', hevaluate.iff_of_done hevaluate', Value.bool.injEq, eq_comm]
    exact ⟨Iff.rfl, Iff.rfl⟩
  · obtain ⟨happly, hevaluate⟩ :=
      hhas.filtering_alike hplain (hhas.answers_escape hplain path clause) items
    obtain ⟨happly', hevaluate'⟩ :=
      hhas.filtering_alike hplain (answers_of_isData path hdata) items
    rw [happly.iff_of_done happly', hevaluate.iff_of_done hevaluate', Value.array.injEq,
      filter_const_eq_iff]
    exact ⟨Iff.rfl, Iff.rfl⟩
  · exact hhas.choosing_alike hplain hdata fields before after item (.apply .null input)
  · exact hhas.choosing_alike hplain hdata fields before after item (.evaluate .null)

end Operations

theorem ofPacks_nil_has : (ofPacks []).Has ["$case", "$filterBy", "$matches", literalName] :=
  shipped_ofPacks_nil.has (by decide)

theorem read_a (value : Value) : (Value.object [("a", value)]).read (Path.parse "a") = value := by
  simp [Path.parse, Path.unbracket, Path.split, Path.wildcard, Value.read, Value.child?,
    Fields.find?]

-- A true field meets the condition in both ways of writing it.
theorem escaped_true_met :
    let input := Value.object [("a", .bool true)]
    (ofPacks []).Has ["$case", "$filterBy", "$matches", literalName] ∧
      (ofPacks []).middleware = [] ∧ (Value.bool true).IsData ∧
      ∀ world, ((ofPacks []).apply (matching "a" (Value.bool true).escape) input world).Alike Eq
        ((ofPacks []).apply (matching "a" (.bool true)) input world) := by
  intro input
  have hdata : (Value.bool true).IsData := by
    rintro part ⟨⟩
    rfl
  refine ⟨ofPacks_nil_has, rfl, hdata, fun world => ?_⟩
  obtain ⟨hmatching, -⟩ := ofPacks_nil_has.escape_alike_iff rfl hdata
  exact (hmatching "a" input world).1.mpr (by rw [read_a]; rfl)

-- Five meets the condition to be five, and does not when the five is escaped.
theorem escaped_five_unmet :
    let input := Value.object [("a", .int 5)]
    (Value.int 5).IsData ∧
      ((ofPacks []).apply (matching "a" (.int 5)) input ⟨mkStdGen 0, default⟩).result =
        .ok (.bool true) ∧
      ((ofPacks []).apply (matching "a" (Value.int 5).escape) input ⟨mkStdGen 0, default⟩).result =
        .ok (.bool false) := by
  intro input
  have hdata : (Value.int 5).IsData := by
    rintro part ⟨⟩
    rfl
  obtain ⟨hbare, -⟩ := ofPacks_nil_has.matching_alike rfl (answers_of_isData "a" hdata) input
  obtain ⟨hescaped, -⟩ :=
    ofPacks_nil_has.matching_alike rfl (ofPacks_nil_has.answers_escape rfl "a" (.int 5)) input
  rw [read_a, show (Value.int 5).equal (.int 5) = true by decide] at hbare
  exact ⟨hdata, hbare.result_of_done _, hescaped.result_of_done _⟩

end Engine

end JsonExpr
