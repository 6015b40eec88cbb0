import JsonExpr.Proofs.Engine.Nesting
import JsonExpr.Proofs.Engine.Template

-- Choosing among cases: the first one that matches decides, and nothing behind it is looked at.
namespace JsonExpr

-- A report with events before its own.
def Report.behind {α : Type} (events : List Event) (report : Report α) : Report α :=
  { report with events := events ++ report.events }

theorem Report.behind_behind {α : Type} (events more : List Event) (report : Report α) :
    (report.behind more).behind events = report.behind (events ++ more) := by
  simp only [behind, List.append_assoc]

theorem Run.bind_eq_behind {α β : Type} {run : Run α} {f : α → Run β} {a : α}
    {world after : Surroundings} {events : List Event} (h : run world = ⟨.ok a, events, after⟩) :
    run.bind f world = (f a after).behind events := bind_of_ok h

-- A run that begins with some events and goes on as another one also goes on so when it is
-- continued.
theorem Run.bind_behind {α β : Type} {run run' : Run α} (f : α → Run β)
    {world after : Surroundings} {events : List Event}
    (h : run world = (run' after).behind events) :
    run.bind f world = (run'.bind f after).behind events := by
  rcases hreport : run' after with ⟨_ | a, more, last⟩
  · rw [hreport] at h
    rw [bind_of_error h, bind_of_error hreport]
    rfl
  · rw [hreport] at h
    rw [bind_eq_behind h, bind_eq_behind hreport, Report.behind_behind]

namespace Builtin

section Cases

variable (resolve : Request → Run Value) (registered : String → Bool) (request : Request)
  (value : Value)

-- What a clause answers for the case value. A registered expression that is no escaped data is
-- applied to this value, whatever the input is. Anything else is resolved like all values of the
-- case, and compared with it.
inductive Tests : Value → Bool → Surroundings → List Event → Surroundings → Prop where
  | applied {clause : Value} {answer : Bool} {world after : Surroundings} {events : List Event}
      (hregistered : clause.namesOne registered = true) (hplain : clause.isLiteralEscape = false)
      (h : resolve (.apply clause value) world = ⟨.ok (.bool answer), events, after⟩) :
      Tests clause answer world events after
  | compared {clause result : Value} {world after : Surroundings} {events : List Event}
      (hdata : clause.namesOne registered = false ∨ clause.isLiteralEscape = true)
      (h : resolve (request.on clause) world = ⟨.ok result, events, after⟩) :
      Tests clause (result.equal value) world events after

-- Cases whose clauses are tested in turn, none of which matches.
inductive Passed : List Value → Surroundings → List Event → Surroundings → Prop where
  | nil (world : Surroundings) : Passed [] world [] world
  | cons {item : Object} {clause : Value} {rest : List Value} {world middle after : Surroundings}
      {events more : List Event} (hwhen : item.find? "when" = some clause)
      (h : Tests resolve registered request value clause false world events middle)
      (hrest : Passed rest middle more after) :
      Passed (.object item :: rest) world (events ++ more) after

-- What an operand of cases comes to: the value is resolved once, the clauses are tested in turn as
-- far as the first one that matches, and its branch is resolved. If none matches the default is.
inductive Decided (fields : Object) : Surroundings → Report Value → Prop where
  | matched {before after : List Value} {item : Object} {clause value : Value}
      {world start middle last : Surroundings} {resolving passing matching : List Event}
      (hcases : fields.find? "cases" = some (.array (before ++ .object item :: after)))
      (hvalue : resolve (request.on (field "value" fields)) world = ⟨.ok value, resolving, start⟩)
      (hbefore : Passed resolve registered request value before start passing middle)
      (hwhen : item.find? "when" = some clause)
      (hclause : Tests resolve registered request value clause true middle matching last) :
      Decided fields world ((resolve (request.on (field "then" item)) last).behind
        (resolving ++ passing ++ matching))
  | unmatched {cases : List Value} {value : Value} {world start last : Surroundings}
      {resolving passing : List Event} (hcases : fields.find? "cases" = some (.array cases))
      (hvalue : resolve (request.on (field "value" fields)) world = ⟨.ok value, resolving, start⟩)
      (hpassed : Passed resolve registered request value cases start passing last) :
      Decided fields world ((resolve (request.on (field "default" fields)) last).behind
        (resolving ++ passing))

end Cases

section Runs

variable {resolve : Request → Run Value} {registered : String → Bool} {request : Request}
  {form : Value → Script Value}
  (hform : ∀ value, (form value).run resolve registered = resolve (request.on value))

include hform

theorem Tests.run_clauseMatches {value clause : Value} {answer : Bool}
    {world after : Surroundings} {events : List Event}
    (h : Tests resolve registered request value clause answer world events after) :
    (clauseMatches form clause value).run resolve registered world =
      ⟨.ok answer, events, after⟩ := by
  cases h with
  | applied hregistered hplain h =>
    simp only [clauseMatches, Script.run_bind, Script.run_isExpression, Run.bind_done, hregistered,
      hplain, Bool.not_false, Bool.and_self, ite_true, Script.run_apply]
    rw [Run.bind_eq_behind h]
    simp [Report.behind, Run.done]
  | compared hdata h =>
    have hcompared : (clause.namesOne registered && !clause.isLiteralEscape) = false := by
      rcases hdata with hdata | hdata <;> simp [hdata]
    simp only [clauseMatches, Script.run_bind, Script.run_isExpression, Run.bind_done, hcompared,
      Bool.false_eq_true, ite_false, hform]
    rw [Run.bind_eq_behind h]
    simp [Report.behind, Run.done]

theorem Passed.run_firstCase? {value : Value} {before : List Value} {world after : Surroundings}
    {events : List Event} (h : Passed resolve registered request value before world events after)
    (rest : List Value) :
    (firstCase? form value (before ++ rest)).run resolve registered world =
      ((firstCase? form value rest).run resolve registered after).behind events := by
  induction h with
  | nil => rfl
  | cons hwhen h _ ih =>
    simp only [List.cons_append, firstCase?, hwhen, Script.run_bind]
    rw [Run.bind_eq_behind (h.run_clauseMatches hform)]
    simp only [Bool.false_eq_true, ite_false, ih, Report.behind_behind]

theorem Tests.run_firstCase? {value clause : Value} {item : Object} {world last : Surroundings}
    {events : List Event} (hwhen : item.find? "when" = some clause)
    (h : Tests resolve registered request value clause true world events last)
    (after : List Value) :
    (firstCase? form value (.object item :: after)).run resolve registered world =
      ((resolve (request.on (field "then" item))).bind (fun result => .done (some result))
        last).behind events := by
  simp only [firstCase?, hwhen, Script.run_bind]
  rw [Run.bind_eq_behind (h.run_clauseMatches hform)]
  simp only [ite_true, Script.run_bind, Script.run_pure, hform]

theorem Decided.run_selectCase {fields : Object} {world : Surroundings} {report : Report Value}
    (h : Decided resolve registered request fields world report) :
    (selectCase form (.object fields)).run resolve registered world = report := by
  cases h with
  | matched hcases hvalue hbefore hwhen hclause =>
    have hfirst := hbefore.run_firstCase? hform
    simp only [selectCase, requireFields, Script.run_bind, Script.run_done, Run.bind_done, hcases,
      hform]
    rw [Run.bind_eq_behind hvalue, Run.bind_behind _ (hfirst _),
      Run.bind_behind _ (hclause.run_firstCase? hform hwhen _), Run.bind_assoc]
    simp only [Run.bind_done, Script.run_pure, Run.bind_pure, Report.behind_behind,
      List.append_assoc]
  | unmatched hcases hvalue hpassed =>
    have hfirst := hpassed.run_firstCase? hform []
    rw [List.append_nil] at hfirst
    simp only [selectCase, requireFields, Script.run_bind, Script.run_done, Run.bind_done, hcases,
      hform]
    rw [Run.bind_eq_behind hvalue, Run.bind_behind _ hfirst]
    simp only [firstCase?, Script.run_done, Run.bind_done, hform, Report.behind_behind]

end Runs

-- The cases run as they decide, in the mode of the request.
theorem Decided.run_caseOf {resolve : Request → Run Value} {registered : String → Bool}
    {request : Request} {fields : Object} {world : Surroundings} {report : Report Value}
    (h : Decided resolve registered request fields world report) :
    let call := Engine.callFor request "$case" (.object fields)
    (caseOf.call call.mode (.object fields) call.input).run resolve registered world = report := by
  cases request with
  | apply _ input =>
    exact h.run_selectCase fun value => Script.run_apply resolve registered value input
  | evaluate => exact h.run_selectCase fun value => Script.run_evaluate resolve registered value

section Depths

variable {resolve resolve' : Request → Run Value} {registered : String → Bool} {request : Request}
  {depth : Nat}
  (hsame : ∀ inner : Request, inner.expression.depth ≤ depth → ∀ world,
    (resolve inner world).result ≠ .error .tooDeep → resolve' inner world = resolve inner world)

include hsame

theorem Tests.mono {value clause : Value} {answer : Bool} {world after : Surroundings}
    {events : List Event} (hdepth : clause.depth ≤ depth)
    (h : Tests resolve registered request value clause answer world events after) :
    Tests resolve' registered request value clause answer world events after := by
  have hreturned {inner : Request} (hinner : inner.expression = clause) {world : Surroundings}
      {report : Report Value} {result : Value} (hreport : resolve inner world = report)
      (hresult : report.result = .ok result) : resolve' inner world = report := by
    rw [hsame inner (by rwa [hinner]) world (by rw [hreport, hresult]; nofun), hreport]
  cases h with
  | applied hregistered hplain h => exact .applied hregistered hplain (hreturned rfl h rfl)
  | compared hdata h =>
    exact .compared hdata (hreturned (request.expression_on clause) h rfl)

theorem Passed.mono {value : Value} {before : List Value} {world after : Surroundings}
    {events : List Event} (hdepth : ∀ item ∈ before, item.depth ≤ depth)
    (h : Passed resolve registered request value before world events after) :
    Passed resolve' registered request value before world events after := by
  induction h with
  | nil world => exact .nil world
  | cons hwhen h _ ih =>
    obtain ⟨hitem, hrest⟩ := List.forall_mem_cons.mp hdepth
    have hclause := (Value.Part.of_find? hwhen).depth_le
    exact .cons hwhen (h.mono hsame (Nat.le_trans hclause hitem)) (ih hrest)

end Depths

theorem depth_field_le (key : String) (fields : Object) :
    (field key fields).depth ≤ (Value.object fields).depth := by
  rw [field]
  cases hfind : fields.find? key with
  | none => exact Nat.zero_le _
  | some value => exact (Value.Part.of_find? hfind).depth_le

theorem depth_le_of_mem_cases {fields : Object} {cases : List Value}
    (hcases : fields.find? "cases" = some (.array cases)) :
    ∀ item ∈ cases, item.depth ≤ (Value.object fields).depth := fun item hmem =>
  ((Value.Part.of_find? hcases).trans (.item hmem (.refl item))).depth_le

-- What cases decide stays when the values that are resolved keep what they come to.
theorem Decided.mono {resolve resolve' : Request → Run Value} {registered : String → Bool}
    {request : Request} {fields : Object} {world : Surroundings} {report : Report Value}
    (hsame : ∀ inner : Request, inner.expression.depth ≤ (Value.object fields).depth → ∀ world,
      (resolve inner world).result ≠ .error .tooDeep → resolve' inner world = resolve inner world)
    (h : Decided resolve registered request fields world report)
    (hfinishes : report.result ≠ .error .tooDeep) :
    Decided resolve' registered request fields world report := by
  have hon {value : Value} (hdepth : value.depth ≤ (Value.object fields).depth)
      {world : Surroundings} (henough : (resolve (request.on value) world).result ≠
        .error .tooDeep) : resolve' (request.on value) world = resolve (request.on value) world :=
    hsame _ (by rwa [request.expression_on]) world henough
  have hreturned {key : String} {world after : Surroundings} {value : Value} {events : List Event}
      (h : resolve (request.on (field key fields)) world = ⟨.ok value, events, after⟩) :
      resolve' (request.on (field key fields)) world = ⟨.ok value, events, after⟩ := by
    rw [hon (depth_field_le key fields) (by rw [h]; nofun), h]
  cases h with
  | matched hcases hvalue hbefore hwhen hclause =>
    have hitems := depth_le_of_mem_cases hcases
    have hitem := hitems _ (List.mem_append_right _ (List.mem_cons_self ..))
    have hclauseDepth := (Value.Part.of_find? hwhen).depth_le
    rw [← hon (Nat.le_trans (depth_field_le "then" _) hitem) hfinishes]
    exact .matched hcases (hreturned hvalue)
      (hbefore.mono hsame fun item hmem => hitems item (List.mem_append_left _ hmem)) hwhen
      (hclause.mono hsame (Nat.le_trans hclauseDepth hitem))
  | unmatched hcases hvalue hpassed =>
    rw [← hon (depth_field_le "default" fields) hfinishes]
    exact .unmatched hcases (hreturned hvalue)
      (hpassed.mono hsame (depth_le_of_mem_cases hcases))

end Builtin

namespace Engine

open Builtin

variable {engine : Engine}

def deciding (fields : Object) : Value := .object [("$case", .object fields)]

-- Among built-in operations no branch runs out of levels.
theorem BuiltIn.decided_finishes (hbuiltin : engine.BuiltIn) (hplain : engine.middleware = [])
    {request : Request} {fields : Object} {world : Surroundings} {report : Report Value}
    (h : Decided engine.resolve engine.registers request fields world report) :
    report.result ≠ .error .tooDeep := by
  have hfinishes (inner : Request) (world : Surroundings) :
      (engine.resolve inner world).result ≠ .error .tooDeep := fun hdeep =>
    hbuiltin.resolveWith_finishes hplain (Nat.le_add_right _ allowance) world _ hdeep rfl
  cases h <;> exact hfinishes _ _

-- The first case that matches decides. Inside of any layers the call comes to what the value, the
-- clauses up to this one, and its branch come to in turn, and nothing behind it has a part in that.
-- So does the expression from the outside, if there are no layers: only operations of other origin
-- can keep it from that, with a branch that nests dispatches deeper than any limit.
theorem Has.first_case_decides (hhas : engine.Has ["$case"]) (request : Request) (fields : Object)
    (world : Surroundings) (report : Report Value) :
    let call := callFor request "$case" (.object fields)
    let decided := report.behind [.dispatching "$case" call.mode]
    (∀ resolve, Decided resolve engine.registers request fields world report →
      engine.invoke resolve call world = decided) ∧
    (engine.middleware = [] → Decided engine.resolve engine.registers request fields world report →
      engine.resolve (request.on (deciding fields)) world = decided ∨
        ¬engine.BuiltIn ∧ report.result = .error .tooDeep) := by
  intro call decided
  have hname : "$case" ∈ ["$case"] := List.mem_singleton_self _
  have hnote (event : Event) : Run.note event world = ⟨.ok (), [event], world⟩ := rfl
  refine ⟨fun resolve hdecided => ?_, fun hplain hdecided => ?_⟩
  · calc engine.invoke resolve call world
        = engine.invoke resolve ⟨"$case", call.mode, .object fields, call.input⟩ world := by
          cases request <;> rfl
      _ = decided := by
          rw [hhas.invoke_eq hname find?_case, Run.bind_eq_behind (hnote _), hdecided.run_caseOf]
  · by_cases hdeep : report.result = .error .tooDeep
    · exact .inr ⟨fun hbuiltin => hbuiltin.decided_finishes hplain hdecided hdeep, hdeep⟩
    · left
      have hinside := hdecided.mono (fun inner hdepth world henough =>
        resolveWith_eq_of_le hplain (Nat.add_le_add_right hdepth allowance) henough) hdeep
      rw [hhas.resolve_operand hplain hname find?_case _
        (request.expression_on (deciding fields)), Run.bind_eq_behind (hnote _), callFor_on,
        hinside.run_caseOf]

-- The second clause matches the value. Its branch is resolved against the input and not the value,
-- and what stands behind it is not even a case.
theorem second_case_decides :
    let identity := Value.object [("$identity", .null)]
    let first : Object := [("when", .object [("$gte", .int 90)]), ("then", .string "A")]
    let second : Object := [("when", .object [("$gte", .int 80)]), ("then", identity)]
    let fields : Object :=
      [("value", .int 85), ("cases", .array [.object first, .object second, .int 5])]
    complete.Has ["$case"] ∧ complete.middleware = [] ∧
      ∀ world, ∃ report, Decided complete.resolve complete.registers (.apply .null (.string "Ada"))
          fields world report ∧
        report.result = .ok (.string "Ada") ∧
        complete.apply (deciding fields) (.string "Ada") world =
          report.behind [.dispatching "$case" .apply] := by
  intro identity first second fields
  have hhas : complete.Has ["$case"] := complete_has (by decide)
  refine ⟨hhas, rfl, fun world => ?_⟩
  have hcases : fields.find? "cases" =
      some (.array ([.object first] ++ .object second :: [.int 5])) := rfl
  obtain ⟨report, hdecided, hresult⟩ : ∃ report, Decided complete.resolve complete.registers
      (.apply .null (.string "Ada")) fields world report ∧ report.result = .ok (.string "Ada") :=
    ⟨_, .matched hcases rfl (.cons rfl (.applied rfl rfl rfl) (.nil _)) rfl
      (.applied rfl rfl rfl), rfl⟩
  refine ⟨report, hdecided, hresult, ?_⟩
  exact ((hhas.first_case_decides _ fields world report).2 rfl hdecided).resolve_right
    fun h => h.1 complete_builtIn

end Engine

end JsonExpr
