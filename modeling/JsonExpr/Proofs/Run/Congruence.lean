import JsonExpr.Engine.Basic
import JsonExpr.Proofs.Script.Within
import JsonExpr.Proofs.Value.Part

-- Relations between runs that reach from the answers to a whole script, and from the holes to a
-- whole template.
namespace JsonExpr

theorem Event.observation?_debugged (value : Value) : (debugged value).observation? = none := rfl

namespace Run

-- A relation that holds between the same elementary runs, and between runs that go on in related
-- ways after related beginnings. A property of single runs is one that ignores the second run.
structure Congruence where
  Related {α : Type} : Run α → Run α → Prop
  -- the failures that are allowed to end a run, and the events that are allowed to stand alone
  Fails : Failure → Prop
  Notes : Event → Prop
  -- whether the relation allows guards, chance and the clock, and going on after a failure
  Guards : Prop
  Draws : Prop
  Recovers : Prop
  done {α : Type} (a : α) : Related (Run.done a) (Run.done a)
  fail {α : Type} {failure : Failure} (h : Fails failure) :
    Related (Run.fail failure : Run α) (Run.fail failure)
  bind {α β : Type} {run run' : Run α} {f f' : α → Run β} (h : Related run run')
    (hf : ∀ a, Related (f a) (f' a)) : Related (run.bind f) (run'.bind f')
  debugged (value : Value) : Notes (.debugged value)
  note {event : Event} (h : Notes event) : Related (note event) (note event)
  guard {α : Type} {run run' : Run α} {problem : DomainProblem} (hguards : Guards)
    (hproblem : Fails (.domain problem)) (h : Related run run') :
    Related (run.guard problem) (run'.guard problem)
  random (hdraws : Draws) (bound : Nat) : Related (Run.random bound) (Run.random bound)
  now (hdraws : Draws) : Related Run.now Run.now
  outcome {α : Type} {run run' : Run α} (hrecovers : Recovers) (h : Related run run') :
    Related run.outcome run'.outcome

end Run

namespace Run

variable {α β : Type} {run : Run α} {f : α → Run β} {world after : Surroundings}
  {events : List Event}

theorem bind_of_error {failure : Failure} (h : run world = ⟨.error failure, events, after⟩) :
    run.bind f world = ⟨.error failure, events, after⟩ := by simp only [bind, h]

theorem result_bind_of_error {failure : Failure} (h : (run world).result = .error failure) :
    (run.bind f world).result = .error failure := by
  rcases hreport : run world with ⟨result, events, after⟩
  rw [hreport] at h
  subst h
  rw [bind_of_error hreport]

theorem bind_of_ok {a : α} (h : run world = ⟨.ok a, events, after⟩) :
    run.bind f world = { f a after with events := events ++ (f a after).events } := by
  simp only [bind, h]

theorem guard_of_error {failure : Failure} {problem : DomainProblem}
    (h : run world = ⟨.error failure, events, after⟩) :
    run.guard problem world = ⟨.error (failure.reportedAs problem), events, after⟩ := by
  rw [guard, h]
  rfl

theorem guard_of_ok {a : α} {problem : DomainProblem} (h : run world = ⟨.ok a, events, after⟩) :
    run.guard problem world = ⟨.ok a, events, after⟩ := by
  rw [guard, h]
  rfl

theorem outcome_of_tooDeep (h : run world = ⟨.error .tooDeep, events, after⟩) :
    run.outcome world = ⟨.error .tooDeep, events, after⟩ := by
  simp [outcome, attempt, bind, fail, h]

theorem outcome_of_ne {result : Except Failure α} (hresult : result ≠ .error .tooDeep)
    (h : run world = ⟨result, events, after⟩) :
    run.outcome world = ⟨.ok result, events, after⟩ := by
  rcases result with ⟨⟩ | a <;> simp_all [outcome, attempt, bind, done]

theorem events_outcome (run : Run α) (world : Surroundings) :
    (run.outcome world).events = (run world).events := by
  rcases hreport : run world with ⟨result, events, after⟩
  by_cases hdeep : result = .error .tooDeep
  · subst hdeep
    rw [outcome_of_tooDeep hreport]
  · rw [outcome_of_ne hdeep hreport]

end Run

-- A reported failure is the problem or the failure itself.
theorem Failure.reportedAs_cases {motive : Failure → Prop} {problem : DomainProblem}
    {failure : Failure} (hproblem : motive (.domain problem)) (h : motive failure) :
    motive (failure.reportedAs problem) := by
  cases failure with
  | fault cause =>
    simp only [reportedAs]
    split
    · exact hproblem
    · exact h
  | _ => exact h

def Run.FailsOnly {α : Type} (allowed : Failure → Prop) (run : Run α) : Prop :=
  ∀ world failure, (run world).result = .error failure → allowed failure

theorem Run.FailsOnly.bind {α β : Type} {allowed : Failure → Prop} {run : Run α}
    {f : α → Run β} (h : run.FailsOnly allowed) (hf : ∀ a, (f a).FailsOnly allowed) :
    (run.bind f).FailsOnly allowed := by
  intro world failure hfailure
  rcases hreport : run world with ⟨first | a, events, after⟩
  · rw [Run.bind_of_error hreport] at hfailure
    cases hfailure
    exact h world failure (by rw [hreport])
  · rw [Run.bind_of_ok hreport] at hfailure
    exact hf a after failure hfailure

def Run.failingOnly (allowed : Failure → Prop) : Run.Congruence where
  Related run _ := run.FailsOnly allowed
  Fails := allowed
  Notes event := event.observation? = none
  Guards := True
  Draws := True
  Recovers := True
  done _ _ _ h := by cases h
  fail h _ _ heq := by
    cases heq
    exact h
  bind h hf := h.bind hf
  debugged := Event.observation?_debugged
  note _ _ _ h := by cases h
  guard {_ run _ _} _ hproblem h world failure hfailure := by
    rcases hreport : run world with ⟨first | a, events, after⟩
    · rw [Run.guard_of_error hreport] at hfailure
      cases hfailure
      exact Failure.reportedAs_cases hproblem (h world first (by rw [hreport]))
    · rw [Run.guard_of_ok hreport] at hfailure
      cases hfailure
  random _ _ _ _ h := by cases h
  now _ _ _ h := by cases h
  outcome {_ run _} _ h world failure hfailure := by
    rcases hreport : run world with ⟨result, events, after⟩
    by_cases hdeep : result = .error .tooDeep
    · subst hdeep
      rw [Run.outcome_of_tooDeep hreport] at hfailure
      cases hfailure
      exact h world _ (by rw [hreport])
    · rw [Run.outcome_of_ne hdeep hreport] at hfailure
      cases hfailure

section Script

variable {α β : Type} (resolve : Request → Run Value) (registered : String → Bool)

@[simp] theorem Script.run_done (a : α) :
    (Script.done a).run resolve registered = Run.done a := rfl

@[simp] theorem Script.run_pure (a : α) :
    (pure a : Script α).run resolve registered = Run.done a := rfl

@[simp] theorem Script.run_fail (failure : Failure) :
    (Script.fail failure : Script α).run resolve registered = Run.fail failure := rfl

@[simp] theorem Script.run_apply (expression input : Value) :
    (Script.apply expression input).run resolve registered =
      resolve (.apply expression input) := Run.bind_pure _

@[simp] theorem Script.run_evaluate (expression : Value) :
    (Script.evaluate expression).run resolve registered = resolve (.evaluate expression) :=
  Run.bind_pure _

@[simp] theorem Script.run_isExpression (value : Value) :
    (Script.isExpression value).run resolve registered =
      Run.done (value.namesOne registered) := rfl

@[simp] theorem Script.run_bind (script : Script α) (f : α → Script β) :
    (script >>= f).run resolve registered =
      (script.run resolve registered).bind fun a => (f a).run resolve registered := by
  change (script.bind f).run resolve registered = _
  induction script with
  | done | fail => rfl
  | resolve _ _ ih | guarded _ _ _ ih | attempt _ _ ih | random _ _ ih | now _ ih =>
    simp only [Script.bind, Script.run, Run.bind_assoc, ih]
  | recognize _ _ ih => exact ih _
  | log _ _ ih => simp only [Script.bind, Script.run, Run.bind_assoc, ih]

end Script

namespace Run.Congruence

variable (c : Run.Congruence) {α : Type}

-- A relation that allows what scripts within the limits do on their own.
structure Permits (limits : Limits) : Prop where
  fails : ∀ failure, limits.fails failure → c.Fails failure
  guards : limits.guards → c.Guards
  draws : limits.draws → c.Draws
  recovers : limits.recovers → c.Recovers

-- A script within limits runs in related ways when what it may ask is answered in related ways.
theorem run {limits : Limits} {post : α → Prop} {script : Script α}
    {resolve resolve' : Request → Run Value} {registered : String → Bool}
    (hscript : script.Within limits post) (hpermits : c.Permits limits)
    (hresolve : ∀ request, limits.resolves request.expression →
      c.Related (resolve request) (resolve' request))
    (hregistered : ∀ value, limits.recognizes value →
      value.namesOne limits.registered = value.namesOne registered) :
    c.Related (script.run resolve limits.registered) (script.run resolve' registered) := by
  induction script with
  | done a => exact c.done a
  | fail failure => exact c.fail (hpermits.fails failure hscript)
  | resolve request _ ih =>
    exact c.bind (hresolve request hscript.1) fun value => ih value (hscript.2 value)
  | guarded problem request _ ih =>
    obtain ⟨⟨hguards, hproblem⟩, hrequest, hnext⟩ := hscript
    exact c.bind (c.guard (hpermits.guards hguards) (hpermits.fails _ hproblem)
      (hresolve request hrequest)) fun value => ih value (hnext value)
  | attempt request _ ih =>
    obtain ⟨hrecovers, hrequest, hnext⟩ := hscript
    exact c.bind (c.outcome (hpermits.recovers hrecovers) (hresolve request hrequest))
      fun outcome => ih outcome (hnext outcome)
  | recognize value next ih =>
    simp only [Script.run]
    rw [← hregistered value hscript.1]
    exact ih _ hscript.2
  | log value _ ih => exact c.bind (c.note (c.debugged value)) fun _ => ih hscript
  | random bound _ ih =>
    exact c.bind (c.random (hpermits.draws hscript.1) bound) fun n => ih n (hscript.2 n)
  | now _ ih =>
    exact c.bind (c.now (hpermits.draws hscript.1)) fun moment => ih moment (hscript.2 moment)

-- The same for a property of single runs.
theorem run_self {limits : Limits} {post : α → Prop} {script : Script α}
    {resolve : Request → Run Value} (hscript : script.Within limits post)
    (hpermits : c.Permits limits) (hresolve : ∀ request, limits.resolves request.expression →
      c.Related (resolve request) (resolve request)) :
    c.Related (script.run resolve limits.registered) (script.run resolve limits.registered) :=
  c.run hscript hpermits hresolve fun _ _ => rfl

-- A template is filled in related ways when its holes are.
theorem fill {resolve resolve' : Value → Run Value} (value : Value)
    (h : ∀ hole ∈ value.holes, c.Related (resolve hole) (resolve' hole)) :
    c.Related (value.fill resolve) (value.fill resolve') := by
  induction value using Value.induct with
  | null | bool | number | string => exact c.done _
  | array items ih =>
    suffices hitems : ∀ part : List Value, (∀ item ∈ part, item ∈ items) →
        c.Related (Value.fillItems resolve part) (Value.fillItems resolve' part) from
      c.bind (hitems items fun _ => id) fun _ => c.done _
    intro part hpart
    induction part with
    | nil => exact c.done _
    | cons item rest ihrest =>
      obtain ⟨hitem, hrest⟩ := List.forall_mem_cons.mp hpart
      refine c.bind (ih item hitem fun hole hmem => ?_) fun _ =>
        c.bind (ihrest hrest) fun _ => c.done _
      exact h hole (Value.mem_holesOfItems.mpr ⟨item, hitem, hmem⟩)
  | object fields ih =>
    unfold Value.fill
    split
    · next hshape => exact h _ (by simp [Value.holes, hshape])
    · next hshape =>
      suffices hfields : ∀ part : List (String × Value), (∀ entry ∈ part, entry ∈ fields) →
          c.Related (Value.fillFields resolve part) (Value.fillFields resolve' part) from
        c.bind (hfields fields fun _ => id) fun _ => c.done _
      intro part hpart
      induction part with
      | nil => exact c.done _
      | cons entry rest ihrest =>
        obtain ⟨hentry, hrest⟩ := List.forall_mem_cons.mp hpart
        refine c.bind (ih entry hentry fun hole hmem => ?_) fun _ =>
          c.bind (ihrest hrest) fun _ => c.done _
        refine h hole ?_
        simp only [Value.holes, hshape]
        exact Value.mem_holesOfFields.mpr ⟨entry, hentry, hmem⟩

end Run.Congruence

-- The expression that a call is made for.
def Call.node (call : Call) : Value := .object [(call.name, call.operand)]

namespace Engine

@[simp] theorem callFor_name (request : Request) (name : String) (operand : Value) :
    (callFor request name operand).name = name := by cases request <;> rfl

@[simp] theorem callFor_node (request : Request) (name : String) (operand : Value) :
    (callFor request name operand).node = .object [(name, operand)] := by cases request <;> rfl

theorem callFor_input {request : Request} {name : String} {operand : Value}
    (h : (callFor request name operand).mode = .evaluate) :
    (callFor request name operand).input = .null := by
  cases request with
  | apply => cases h
  | evaluate => rfl

theorem resolveHole_node {engine : Engine} (dispatch : Call → Run Value) (request : Request)
    {name : String} (hname : isOperationName name = true) (operand : Value) :
    engine.resolveHole dispatch request (.object [(name, operand)]) =
      if engine.registers name then dispatch (callFor request name operand)
      else .fail (.unknownOperation ⟨name, operand, engine.names⟩) := by
  simp [resolveHole, Value.expression?, hname]

theorem resolveWith_node {engine : Engine} (dispatch : Call → Run Value) {request : Request}
    {name : String} {operand : Value} (hexpression : request.expression = .object [(name, operand)])
    (hname : isOperationName name = true) :
    engine.resolveWith dispatch request =
      if engine.registers name then dispatch (callFor request name operand)
      else .fail (.unknownOperation ⟨name, operand, engine.names⟩) := by
  have hshape : (Value.object [(name, operand)]).hasExpressionShape = true :=
    Value.hasExpressionShape_iff.mpr ⟨name, operand, rfl, hname⟩
  rw [resolveWith, hexpression, Value.fill, if_pos hshape, resolveHole_node dispatch request hname]

end Engine

-- Engines with the same definitions resolve a request in related ways when they dispatch the calls
-- for it so.
theorem Run.Congruence.resolveWith_of_callFor (c : Run.Congruence) {engine engine' : Engine}
    (dispatch dispatch' : Call → Run Value) {request : Request}
    (hdefinitions : engine'.definitions = engine.definitions)
    (hunknown : ∀ name operand, isOperationName name = true →
      request.expression.Exposed (.object [(name, operand)]) → engine.registers name = false →
      c.Fails (.unknownOperation ⟨name, operand, engine.names⟩))
    (hdispatch : ∀ name operand, isOperationName name = true →
      request.expression.Exposed (.object [(name, operand)]) → engine.registers name = true →
      c.Related (dispatch (Engine.callFor request name operand))
        (dispatch' (Engine.callFor request name operand))) :
    c.Related (engine.resolveWith dispatch request) (engine'.resolveWith dispatch' request) := by
  refine c.fill request.expression fun hole hmem => ?_
  obtain ⟨hexposed, hshape⟩ := Value.mem_holes_iff.mp hmem
  obtain ⟨name, operand, rfl, hname⟩ := Value.hasExpressionShape_iff.mp hshape
  have hregisters : engine'.registers name = engine.registers name := by
    simp only [Engine.registers, hdefinitions]
  have hnames : engine'.names = engine.names := by simp only [Engine.names, hdefinitions]
  rw [Engine.resolveHole_node _ _ hname, Engine.resolveHole_node _ _ hname, hregisters, hnames]
  cases hregistered : engine.registers name
  · exact c.fail (hunknown name operand hname hexposed hregistered)
  · exact hdispatch name operand hname hexposed hregistered

theorem Run.Congruence.resolveWith (c : Run.Congruence) {engine engine' : Engine}
    (dispatch dispatch' : Call → Run Value) {request : Request}
    (hdefinitions : engine'.definitions = engine.definitions)
    (hunknown : ∀ name operand, isOperationName name = true →
      request.expression.Exposed (.object [(name, operand)]) → engine.registers name = false →
      c.Fails (.unknownOperation ⟨name, operand, engine.names⟩))
    (hdispatch : ∀ call : Call, isOperationName call.name = true →
      request.expression.Exposed call.node → engine.registers call.name = true →
      c.Related (dispatch call) (dispatch' call)) :
    c.Related (engine.resolveWith dispatch request) (engine'.resolveWith dispatch' request) := by
  refine c.resolveWith_of_callFor dispatch dispatch' hdefinitions hunknown
    fun name operand hname hexposed hregistered => ?_
  refine hdispatch (Engine.callFor request name operand) ?_ ?_ ?_
  · rwa [Engine.callFor_name]
  · rwa [Engine.callFor_node]
  · rwa [Engine.callFor_name]

-- A property that requests have if dispatches have it.
theorem Run.Congruence.resolveWith_self (c : Run.Congruence) (engine : Engine)
    {dispatch : Call → Run Value} (hfails : ∀ failure, c.Fails failure)
    (hdispatch : ∀ call : Call, engine.registers call.name = true →
      c.Related (dispatch call) (dispatch call)) (request : Request) :
    c.Related (engine.resolveWith dispatch request) (engine.resolveWith dispatch request) :=
  c.resolveWith dispatch dispatch rfl (fun _ _ _ _ _ => hfails _)
    fun call _ _ hregisters => hdispatch call hregisters

-- Engines with the same definitions run a call in related ways when they resolve in related ways.
theorem Run.Congruence.invoke (c : Run.Congruence) {engine engine' : Engine}
    {resolve resolve' : Request → Run Value} (call : Call)
    (hdefinitions : engine'.definitions = engine.definitions)
    (hpermits : c.Permits (.none engine.registers))
    (hnotes : c.Notes (.dispatching call.name call.mode))
    (hresolve : ∀ request, c.Related (resolve request) (resolve' request)) :
    c.Related (engine.invoke resolve call) (engine'.invoke resolve' call) := by
  have hregisters : engine'.registers = engine.registers := by
    funext name
    simp only [Engine.registers, hdefinitions]
  simp only [Engine.invoke, hdefinitions, hregisters]
  cases engine.definitions.find? call.name with
  | none => exact c.fail (hpermits.fails _ trivial)
  | some definition =>
    refine c.bind (c.note hnotes) fun _ => ?_
    cases definition with
    | inert => exact c.fail (hpermits.fails _ trivial)
    | operation operation =>
      exact c.run (Script.within_none engine.registers _) hpermits
        (fun request _ => hresolve request) fun _ _ => rfl

end JsonExpr
