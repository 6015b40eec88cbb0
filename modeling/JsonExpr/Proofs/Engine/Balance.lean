import JsonExpr.Proofs.Engine.Recording

-- Recording layers are transparent, and what they see is balanced: every dispatch is seen by all
-- layers from the outermost to the innermost when it is entered, and back again when it is left.
namespace JsonExpr

namespace Event

-- The events of a dispatch under recording layers, with those of what happens inside of it.
def framed (tags : List String) (call : Call) (inner : List Event)
    (outcome : Except Failure Value) : List Event :=
  (tags.map fun tag => observed (.enter tag call)) ++ dispatching call.name call.mode :: inner ++
    tags.reverse.map fun tag => observed (.closing tag call.name outcome)

-- Events in which all dispatches are framed, those inside others too. The outcome that the layers
-- see of a call, and what else happens inside of it, are those of the same call without layers.
inductive Balanced (engine : Engine) (tags : List String) : List Event → Prop where
  | nil : Balanced engine tags []
  | debugged (value : Value) {rest : List Event} (hrest : Balanced engine tags rest) :
      Balanced engine tags (debugged value :: rest)
  | dispatch {call : Call} {inner rest : List Event} {outcome : Except Failure Value}
      {levels : Nat} {world after : Surroundings} (hregisters : engine.registers call.name = true)
      (hinput : call.mode = .evaluate → call.input = .null)
      (hplain : (engine.recordedBy []).dispatch levels call world =
        Report.unobserved ⟨outcome, dispatching call.name call.mode :: inner, after⟩)
      (hinner : Balanced engine tags inner) (hrest : Balanced engine tags rest) :
      Balanced engine tags (framed tags call inner outcome ++ rest)

variable {engine : Engine} {tags : List String}

theorem Balanced.append {events more : List Event} (h : Balanced engine tags events)
    (hmore : Balanced engine tags more) : Balanced engine tags (events ++ more) := by
  induction h with
  | nil => exact hmore
  | debugged value _ ih => exact .debugged value ih
  | dispatch hregisters hinput hplain hinner _ _ ih =>
    rw [List.append_assoc]
    exact .dispatch hregisters hinput hplain hinner ih

theorem log_unobserved (debugging : Bool) (events : List Event) :
    log debugging (events.filter fun event => event.observation?.isNone) =
      log debugging events := by
  induction events with
  | nil => rfl
  | cons event rest ih =>
    cases event with
    | observed => exact ih
    | dispatching | debugged => simp only [log, List.filterMap_cons] at ih ⊢; rw [← ih]; rfl

end Event

-- The layers are entered in their order and left in the opposite one.
theorem Middleware.wrap_record_eq (tags : List String) (call : Call) (proceed : Call → Run Value)
    (world : Surroundings) :
    wrap (tags.map record) proceed call world =
      { proceed call world with
        events := (tags.map fun tag => .observed (.enter tag call)) ++
          (proceed call world).events ++ tags.reverse.map fun tag =>
            .observed (.closing tag call.name (proceed call world).result) } := by
  induction tags with
  | nil => simp [wrap]
  | cons tag rest ih =>
    change record tag call (wrap (rest.map record) proceed) world = _
    rw [record_eq, ih]
    simp

-- Runs with balanced events. A dispatch on its own is not balanced.
def Run.balancing (engine : Engine) (tags : List String) : Run.Congruence where
  Related run _ := ∀ world, Event.Balanced engine tags (run world).events
  Fails _ := True
  Notes event := ∃ value, event = .debugged value
  Guards := True
  Draws := True
  Recovers := True
  done _ _ := .nil
  fail _ _ := .nil
  bind {_ _ run run' f f'} h hf world := by
    have hrun := h world
    rcases hreport : run world with ⟨failure | a, events, after⟩ <;> rw [hreport] at hrun
    · rw [Run.bind_of_error hreport]
      exact hrun
    · rw [Run.bind_of_ok hreport]
      exact hrun.append (hf a after)
  debugged value := ⟨value, rfl⟩
  note h _ := by
    obtain ⟨value, rfl⟩ := h
    exact .debugged value .nil
  guard _ _ h := h
  random _ _ _ := .nil
  now _ _ := .nil
  outcome {_ run _} _ h world := by
    rw [Run.events_outcome]
    exact h world

namespace Engine

variable {engine : Engine}

-- What happens inside of a dispatch is a script, whatever layers there are and how far it may nest.
theorem exists_script_of_registers {call : Call} (hregisters : engine.registers call.name = true) :
    ∃ script : Script Value, ∀ tags levels world,
      let inner := script.run ((engine.recordedBy tags).resolveWith
        ((engine.recordedBy tags).dispatch levels)) engine.registers world
      (engine.recordedBy tags).dispatch (levels + 1) call world =
        ⟨inner.result, Event.framed tags call inner.events inner.result, inner.after⟩ := by
  obtain ⟨definition, hfind⟩ := Option.isSome_iff_exists.mp hregisters
  have hinvoke : ∃ script : Script Value, ∀ tags resolve,
      (engine.recordedBy tags).invoke resolve call =
        (Run.note (.dispatching call.name call.mode)).bind fun _ =>
          script.run resolve engine.registers := by
    simp only [invoke, recordedBy, hfind]
    cases definition with
    | inert => exact ⟨.fail (.fault .notAnOperation), fun _ _ => rfl⟩
    | operation operation =>
      exact ⟨operation.call call.mode call.operand call.input, fun _ _ => rfl⟩
  obtain ⟨script, hscript⟩ := hinvoke
  refine ⟨script, fun tags levels world => ?_⟩
  change Middleware.wrap (tags.map Middleware.record) _ call world = _
  rw [Middleware.wrap_record_eq, hscript]
  simp only [Run.bind, Run.note, Event.framed, List.append_assoc, List.cons_append,
    List.nil_append]

theorem resolveWith_recordedBy (engine : Engine) (tags : List String) (levels : Nat)
    (request : Request) :
    ((engine.recordedBy tags).resolveWith ((engine.recordedBy tags).dispatch levels)
      request).Records
      ((engine.recordedBy []).resolveWith ((engine.recordedBy []).dispatch levels) request) := by
  have hplain : (engine.recordedBy []).middleware = [] := rfl
  exact resolveWith_records (dispatch_records hplain tags levels) request

theorem resolveWith_balanced {tags : List String} {levels : Nat}
    (hdispatch : ∀ call : Call, engine.registers call.name = true →
      (call.mode = .evaluate → call.input = .null) → ∀ world, Event.Balanced engine tags
        ((engine.recordedBy tags).dispatch levels call world).events)
    (request : Request) (world : Surroundings) :
    Event.Balanced engine tags ((engine.recordedBy tags).resolveWith
      ((engine.recordedBy tags).dispatch levels) request world).events := by
  let dispatch := (engine.recordedBy tags).dispatch levels
  have hfails : ∀ failure, (Run.balancing engine tags).Fails failure := fun _ => trivial
  refine (Run.balancing engine tags).resolveWith_of_callFor dispatch dispatch rfl
    (fun _ _ _ _ _ => hfails _) (fun name operand _ _ hregistered => ?_) world
  refine hdispatch (callFor request name operand) ?_ callFor_input
  rwa [callFor_name]

theorem dispatch_balanced (tags : List String) (levels : Nat) {call : Call}
    (hregisters : engine.registers call.name = true)
    (hinput : call.mode = .evaluate → call.input = .null) (world : Surroundings) :
    Event.Balanced engine tags ((engine.recordedBy tags).dispatch levels call world).events := by
  induction levels generalizing call world with
  | zero => exact .nil
  | succ levels ih =>
    obtain ⟨script, hscript⟩ := exists_script_of_registers hregisters
    have hwithin := Script.within_none engine.registers script
    let resolve := (engine.recordedBy tags).resolveWith ((engine.recordedBy tags).dispatch levels)
    let inner := script.run resolve engine.registers world
    have hinner : Event.Balanced engine tags inner.events :=
      (Run.balancing engine tags).run_self hwithin
        ⟨fun _ _ => trivial, fun _ => trivial, fun _ => trivial, fun _ => trivial⟩
        (fun request _ => resolveWith_balanced (fun _ => ih) request) world
    have hplain : (engine.recordedBy []).dispatch (levels + 1) call world =
        Report.unobserved
          ⟨inner.result, .dispatching call.name call.mode :: inner.events, inner.after⟩ := by
      have hrecords := Run.recording.run hwithin
        ⟨fun _ _ => trivial, fun _ => trivial, fun _ => trivial, fun _ => trivial⟩
        (fun request _ => resolveWith_recordedBy engine tags levels request) (fun _ _ => rfl) world
      rw [hscript]
      change _ = script.run _ engine.registers world at hrecords
      simp only [← hrecords]
      simp [Report.unobserved, Event.framed, Event.observation?, inner, resolve, Limits.none]
    rw [hscript, ← List.append_nil (Event.framed _ _ _ _)]
    exact .dispatch hregisters hinput hplain hinner .nil

-- Under recording layers a request comes to the same as without layers, whatever the operations are
-- and however far dispatches nest: the layers change neither the outcome nor the log nor the
-- surroundings, and the events are balanced.
theorem recordedBy_transparent_and_balanced (engine : Engine) (tags : List String) (levels : Nat)
    (request : Request) (world : Surroundings) :
    let report := (engine.recordedBy tags).resolveWith ((engine.recordedBy tags).dispatch levels)
      request world
    let plain := (engine.recordedBy []).resolveWith ((engine.recordedBy []).dispatch levels)
      request world
    report.result = plain.result ∧ report.after = plain.after ∧
      (∀ debugging, Event.log debugging report.events = Event.log debugging plain.events) ∧
      Event.Balanced engine tags report.events := by
  intro report plain
  have hrecords : report.unobserved = plain :=
    resolveWith_recordedBy engine tags levels request world
  refine ⟨?_, ?_, fun debugging => ?_, ?_⟩
  · rw [← hrecords]
    rfl
  · rw [← hrecords]
    rfl
  · rw [← hrecords]
    exact (Event.log_unobserved debugging report.events).symm
  · exact resolveWith_balanced
      (fun call hregisters hinput => dispatch_balanced tags levels hregisters hinput) request world

end Engine

end JsonExpr
