import JsonExpr.Proofs.Run.Congruence

-- Recording layers only add observations to what an engine does.
namespace JsonExpr

-- A report without what recording layers have seen.
def Report.unobserved {α : Type} (report : Report α) : Report α :=
  { report with events := report.events.filter fun event => event.observation?.isNone }

-- The engine with recording layers in place of its own, the first tag outermost.
def Engine.recordedBy (engine : Engine) (tags : List String) : Engine :=
  { engine with middleware := tags.map Middleware.record }

def Observation.closing (tag name : String) : Except Failure Value → Observation
  | .ok result => .exit tag name result
  | .error failure => .raise tag name failure

-- A recording layer notes the call before the events of the call and the outcome after them.
theorem Middleware.record_eq (tag : String) (call : Call) (proceed : Call → Run Value)
    (world : Surroundings) :
    record tag call proceed world =
      { proceed call world with
        events := .observed (.enter tag call) :: ((proceed call world).events ++
          [.observed (.closing tag call.name (proceed call world).result)]) } := by
  change ((Run.note (.observed (.enter tag call))).bind fun _ =>
    (proceed call).attempt.bind _) world = _
  simp only [Run.bind, Run.note, Run.attempt]
  rcases proceed call world with ⟨_ | result, events, after⟩
  · simp [Observation.closing, bind, Run.bind, Run.note, Run.fail]
  · simp [Observation.closing, bind, pure, Run.bind, Run.note, Run.done]

-- A run that comes to the same as another one, which records nothing.
def Run.Records {α : Type} (run plain : Run α) : Prop :=
  ∀ world, (run world).unobserved = plain world

def Run.recording : Run.Congruence where
  Related := Run.Records
  Fails _ := True
  Notes event := event.observation? = none
  Guards := True
  Draws := True
  Recovers := True
  done _ _ := rfl
  fail _ _ := rfl
  bind {_ _ run plain f f'} h hf world := by
    have hrun := h world
    rcases hreport : run world with ⟨failure | a, events, after⟩ <;>
      rw [hreport] at hrun <;> obtain hplain := hrun.symm
    · rw [Run.bind_of_error hreport, Run.bind_of_error hplain]
      rfl
    · rw [Run.bind_of_ok hreport, Run.bind_of_ok hplain, ← hf a after]
      simp [Report.unobserved, List.filter_append]
  debugged := Event.observation?_debugged
  note h _ := by simp [Report.unobserved, Run.note, h]
  guard _ _ h world := by
    simp only [Run.guard, ← h world]
    rfl
  random _ _ _ := rfl
  now _ _ := rfl
  outcome {_ run plain} _ h world := by
    have hrun := h world
    rcases hreport : run world with ⟨result, events, after⟩
    rw [hreport] at hrun
    obtain hplain := hrun.symm
    by_cases hdeep : result = .error .tooDeep
    · subst hdeep
      rw [Run.outcome_of_tooDeep hreport, Run.outcome_of_tooDeep hplain]
      rfl
    · rw [Run.outcome_of_ne hdeep hreport, Run.outcome_of_ne hdeep hplain]
      rfl

theorem Middleware.wrap_records {tags : List String} {proceed plain : Call → Run Value}
    {call : Call}
    (h : (proceed call).Records (plain call)) :
    (wrap (tags.map record) proceed call).Records (plain call) := by
  induction tags with
  | nil => exact h
  | cons tag rest ih =>
    intro world
    have hinner := ih world
    change (record tag call (wrap (rest.map record) proceed) world).unobserved = _
    rw [record_eq, ← hinner]
    simp [Report.unobserved, Event.observation?]

namespace Engine

variable {engine : Engine}

theorem resolveWith_records {tags : List String} {dispatch plain : Call → Run Value}
    (h : ∀ call, (dispatch call).Records (plain call)) (request : Request) :
    ((engine.recordedBy tags).resolveWith dispatch request).Records
      (engine.resolveWith plain request) :=
  Run.recording.resolveWith _ _ rfl (fun _ _ _ _ _ => trivial) fun call _ _ _ => h call

theorem dispatch_records (hplain : engine.middleware = []) (tags : List String) (levels : Nat)
    (call : Call) :
    ((engine.recordedBy tags).dispatch levels call).Records (engine.dispatch levels call) := by
  induction levels generalizing call with
  | zero => exact fun _ => rfl
  | succ levels ih =>
    simp only [dispatch, hplain]
    refine Middleware.wrap_records ?_
    exact Run.recording.invoke call rfl
      ⟨fun _ _ => trivial, fun _ => trivial, fun _ => trivial, fun _ => trivial⟩ rfl
      (resolveWith_records ih)

-- Recording changes neither the outcome nor the surroundings nor any other event of a request.
theorem resolve_unobserved (hplain : engine.middleware = []) (tags : List String)
    (request : Request) (world : Surroundings) :
    ((engine.recordedBy tags).resolve request world).unobserved =
      engine.resolve request world :=
  resolveWith_records (dispatch_records hplain tags _) request world

end Engine

end JsonExpr
