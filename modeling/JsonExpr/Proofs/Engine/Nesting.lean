import JsonExpr.Proofs.Engine.BuiltIn
import JsonExpr.Proofs.Engine.Levels
import JsonExpr.Proofs.Engine.Recording

-- Dispatches of built-in operations nest as the expressions of the request do, so that no
-- expression can loop. What a recording layer sees tells at every moment which calls are open.
namespace JsonExpr

-- Calls for expressions that lie strictly inside one another, the first of them in the whole.
inductive Call.Descend : Value → List Call → Prop where
  | nil {whole : Value} : Descend whole []
  | cons {whole : Value} {call : Call} {rest : List Call}
      (hname : isOperationName call.name = true) (hpart : whole.Part call.node)
      (h : Descend call.operand rest) : Descend whole (call :: rest)

theorem Call.Descend.length_le {whole : Value} {calls : List Call} (h : Descend whole calls) :
    calls.length ≤ whole.depth := by
  induction h with
  | nil => exact Nat.zero_le _
  | cons _ hpart _ ih =>
    have hdepth := hpart.operand_depth_lt
    simp only [List.length_cons]
    omega

namespace Event

-- The open calls after an event: a call is open from its entry until it is left.
def track (calls : List Call) : Event → List Call
  | observed (.enter _ call) => calls ++ [call]
  | observed (.exit ..) | observed (.raise ..) => calls.dropLast
  | dispatching .. | debugged _ => calls

-- The calls that are open after some events, the outermost first.
def openCalls (events : List Event) : List Call := events.foldl track []

theorem track_of_unobserved {event : Event} (h : event.observation? = none) (calls : List Call) :
    track calls event = calls := by
  cases event with
  | observed => cases h
  | dispatching | debugged => rfl

theorem track_closing (calls : List Call) (tag name : String) (outcome : Except Failure Value) :
    track calls (observed (.closing tag name outcome)) = calls.dropLast := by
  cases outcome <;> rfl

-- Events in which every call that is entered is left again, and in which calls are made for
-- expressions of the whole and, inside a call, for expressions of its operand.
inductive Nested : Value → List Event → Prop where
  | nil {whole : Value} : Nested whole []
  | other {whole : Value} {event : Event} {rest : List Event} (h : event.observation? = none)
      (hrest : Nested whole rest) : Nested whole (event :: rest)
  | call {whole : Value} {call : Call} {inner rest : List Event} {outcome : Except Failure Value}
      (tag : String) (hname : isOperationName call.name = true) (hpart : whole.Part call.node)
      (hinner : Nested call.operand inner) (hrest : Nested whole rest) :
      Nested whole (observed (.enter tag call) ::
        (inner ++ observed (.closing tag call.name outcome) :: rest))

theorem Nested.append {whole : Value} {events more : List Event} (h : Nested whole events)
    (hmore : Nested whole more) : Nested whole (events ++ more) := by
  induction h with
  | nil => exact hmore
  | other h _ ih => exact .other h (ih hmore)
  | call tag hname hpart hinner _ _ ih =>
    rw [List.cons_append, List.append_assoc, List.cons_append]
    exact .call tag hname hpart hinner (ih hmore)

theorem Nested.foldl_track {whole : Value} {events : List Event} (h : Nested whole events)
    (calls : List Call) : events.foldl track calls = calls := by
  induction h generalizing calls with
  | nil => rfl
  | other h _ ih => rw [List.foldl_cons, track_of_unobserved h, ih]
  | call tag _ _ _ _ ihinner ihrest =>
    rw [List.foldl_cons, List.foldl_append, List.foldl_cons, ihinner, ihrest, track_closing]
    exact List.dropLast_concat

-- At every moment the calls that have been opened descend into the whole.
theorem Nested.descend {whole : Value} {events moment : List Event} (h : Nested whole events)
    (hmoment : moment <+: events) (calls : List Call) :
    ∃ opened, moment.foldl track calls = calls ++ opened ∧ Call.Descend whole opened := by
  induction h generalizing moment calls with
  | nil =>
    rw [List.prefix_nil.mp hmoment]
    exact ⟨[], (List.append_nil _).symm, .nil⟩
  | other h _ ih =>
    rcases List.prefix_cons_iff.mp hmoment with rfl | ⟨later, rfl, hlater⟩
    · exact ⟨[], (List.append_nil _).symm, .nil⟩
    · rw [List.foldl_cons, track_of_unobserved h]
      exact ih hlater calls
  | @call whole call inner rest outcome tag hname hpart hinner _ ihinner ihrest =>
    rcases List.prefix_cons_iff.mp hmoment with rfl | ⟨later, rfl, hlater⟩
    · exact ⟨[], (List.append_nil _).symm, .nil⟩
    · rw [List.foldl_cons]
      -- the moment is inside the call, or the events inside the call are over
      rcases List.prefix_or_prefix_of_prefix hlater (List.prefix_append inner _) with
        hinside | ⟨after, rfl⟩
      · obtain ⟨opened, hopened, hdescend⟩ := ihinner hinside (calls ++ [call])
        exact ⟨call :: opened, by simp [track, hopened], .cons hname hpart hdescend⟩
      · rw [List.foldl_append, hinner.foldl_track]
        have hafter := (List.prefix_append_right_inj inner).mp hlater
        rcases List.prefix_cons_iff.mp hafter with rfl | ⟨last, rfl, hlast⟩
        · exact ⟨[call], rfl, .cons hname hpart .nil⟩
        · rw [List.foldl_cons, track_closing]
          simpa [track] using ihrest hlast calls

end Event

-- Runs whose calls nest inside the whole.
def Run.nesting (whole : Value) : Run.Congruence where
  Related run _ := ∀ world, Event.Nested whole (run world).events
  Fails _ := True
  Notes event := event.observation? = none
  Guards := True
  Draws := True
  Recovers := True
  done _ _ := .nil
  fail _ _ := .nil
  bind {_ _ run run' f f'} h hf world := by
    have hrun := h world
    rcases hreport : run world with ⟨failure | a, events, after⟩ <;> rw [hreport] at hrun
    · rw [Run.bind_of_error hreport]
      exact hrun
    · rw [Run.bind_of_ok hreport]
      exact hrun.append (hf a after)
  debugged := Event.observation?_debugged
  note h _ := .other h .nil
  guard _ _ h := h
  random _ _ _ := .nil
  now _ _ := .nil
  outcome {_ run _} _ h world := by
    rw [Run.events_outcome]
    exact h world

namespace Engine

variable {engine : Engine}

-- A dispatch needs no more levels than its operand is deep and one for itself.
theorem BuiltIn.dispatch_finishes (hbuiltin : engine.BuiltIn) (hplain : engine.middleware = [])
    {levels : Nat} {call : Call} (hregisters : engine.registers call.name = true)
    (hlevels : call.operand.depth < levels) :
    (engine.dispatch levels call).FailsOnly (· ≠ .tooDeep) := by
  induction levels generalizing call with
  | zero => omega
  | succ levels ih =>
    simp only [dispatch, hplain]
    refine hbuiltin.invoke_related (Run.failingOnly (· ≠ .tooDeep)) (engine.dispatch levels)
      (engine.dispatch levels) hregisters
      ⟨fun failure hown heq => by subst heq; exact hown, fun _ => trivial, fun _ => trivial,
        fun _ => trivial⟩ rfl
      (fun _ h => by cases h) fun inner _ hpart hregistered => ?_
    have hdepth := hpart.operand_depth_lt
    exact ih hregistered (by omega)

-- As many levels as the request is deep are enough for it.
theorem BuiltIn.resolveWith_finishes (hbuiltin : engine.BuiltIn)
    (hplain : engine.middleware = []) {levels : Nat} {request : Request}
    (hlevels : request.expression.depth ≤ levels) :
    (engine.resolveWith (engine.dispatch levels) request).FailsOnly (· ≠ .tooDeep) := by
  refine (Run.failingOnly (· ≠ .tooDeep)).resolveWith (engine.dispatch levels)
    (engine.dispatch levels) rfl (fun _ _ _ _ _ h => by cases h)
    fun call _ hexposed hregistered => ?_
  have hdepth := hexposed.part.operand_depth_lt
  exact hbuiltin.dispatch_finishes hplain hregistered (by omega)

theorem BuiltIn.resolve_eq (hbuiltin : engine.BuiltIn) (hplain : engine.middleware = [])
    {levels : Nat} {request : Request} (hlevels : request.expression.depth ≤ levels) :
    engine.resolve request = engine.resolveWith (engine.dispatch levels) request := by
  funext world
  have henough : (engine.resolveWith (engine.dispatch request.expression.depth) request
      world).result ≠ .error .tooDeep :=
    fun h => hbuiltin.resolveWith_finishes hplain (Nat.le_refl _) world _ h rfl
  rw [resolveWith_eq_of_le hplain hlevels henough]
  exact resolveWith_eq_of_le hplain (Nat.le_add_right _ allowance) henough

theorem BuiltIn.dispatch_nested (hbuiltin : engine.BuiltIn) (tag : String) {levels : Nat}
    {call : Call} {whole : Value} (hregisters : engine.registers call.name = true)
    (hname : isOperationName call.name = true) (hpart : whole.Part call.node)
    (world : Surroundings) :
    Event.Nested whole ((engine.recordedBy [tag]).dispatch levels call world).events := by
  induction levels generalizing call whole world with
  | zero => exact .nil
  | succ levels ih =>
    change Event.Nested whole (Middleware.record tag call _ world).events
    rw [Middleware.record_eq]
    refine .call tag hname hpart ?_ .nil
    have hrecorded : (engine.recordedBy [tag]).BuiltIn := hbuiltin
    exact hrecorded.invoke_related (Run.nesting call.operand)
      ((engine.recordedBy [tag]).dispatch levels) ((engine.recordedBy [tag]).dispatch levels)
      hregisters ⟨fun _ _ => trivial, fun _ => trivial, fun _ => trivial, fun _ => trivial⟩ rfl
      (fun _ => trivial) (fun inner hname hpart hregistered => ih hregistered hname hpart) world

-- A request of built-in operations is finished with as many levels of dispatches as it is deep.
-- What a recording layer sees of it is a descent into the expressions of the request at every
-- moment, whatever the input.
theorem BuiltIn.resolve_descends (hbuiltin : engine.BuiltIn) (hplain : engine.middleware = [])
    (request : Request) (world : Surroundings) :
    (∀ levels, request.expression.depth ≤ levels →
      engine.resolveWith (engine.dispatch levels) request world = engine.resolve request world) ∧
    (engine.resolve request world).result ≠ .error .tooDeep ∧
    ∀ tag,
      ((engine.recordedBy [tag]).resolve request world).unobserved =
        engine.resolve request world ∧
      ∀ moment, moment <+: ((engine.recordedBy [tag]).resolve request world).events →
        Call.Descend request.expression (Event.openCalls moment) ∧
          (Event.openCalls moment).length ≤ request.expression.depth := by
  refine ⟨fun levels hlevels => by rw [hbuiltin.resolve_eq hplain hlevels], ?_, fun tag => ⟨?_, ?_⟩⟩
  · exact fun h => hbuiltin.resolveWith_finishes hplain (Nat.le_add_right _ allowance) world _ h rfl
  · exact resolve_unobserved hplain [tag] request world
  · intro moment hmoment
    have hnested : Event.Nested request.expression
        ((engine.recordedBy [tag]).resolve request world).events := by
      let dispatch := (engine.recordedBy [tag]).dispatch (request.expression.depth + allowance)
      refine (Run.nesting request.expression).resolveWith dispatch dispatch rfl
        (fun _ _ _ _ _ => trivial) (fun call hname hexposed hregistered => ?_) world
      exact hbuiltin.dispatch_nested tag hregistered hname hexposed.part
    obtain ⟨opened, hopened, hdescend⟩ := hnested.descend hmoment []
    rw [Event.openCalls, hopened, List.nil_append]
    exact ⟨hdescend, hdescend.length_le⟩

-- The input here is full of expressions, and the negation is dispatched once for each item.
theorem map_negation_descends :
    let expression := Value.object [("$map", .object [("$not", .object [("$get", .string "a")])])]
    let input := Value.array [.object [("$map", .int 1)], .object [("a", .bool true)]]
    (ofPacks []).BuiltIn ∧ (ofPacks []).middleware = [] ∧
      ((ofPacks []).apply expression input ⟨mkStdGen 0, default⟩).result ≠ .error .tooDeep ∧
      ∀ moment, moment <+: (((ofPacks []).recordedBy ["layer"]).apply expression input
          ⟨mkStdGen 0, default⟩).events →
        Call.Descend expression (Event.openCalls moment) ∧ (Event.openCalls moment).length ≤ 3 := by
  intro expression input
  have hnests := shipped_ofPacks_nil.builtIn.resolve_descends rfl (.apply expression input)
    ⟨mkStdGen 0, default⟩
  exact ⟨shipped_ofPacks_nil.builtIn, rfl, hnests.2.1, (hnests.2.2 "layer").2⟩

end Engine

end JsonExpr
