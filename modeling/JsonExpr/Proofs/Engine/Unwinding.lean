import JsonExpr.Proofs.Engine.Nesting
import JsonExpr.Proofs.Run.Steady

-- A failure ends all open calls. In an engine of built-in operations that do not draw on chance or
-- the clock, no operation recovers from the failure of a call that it has made, or changes it.
namespace JsonExpr

def Report.failure? {α : Type} (report : Report α) : Option Failure :=
  match report.result with
  | .ok _ => none
  | .error failure => some failure

namespace Event

-- Events of a run that ends with a failure, or with none. A call that has raised a failure is the
-- last thing to happen, and the run ends with this failure.
inductive Unwinds (tag : String) : Option Failure → List Event → Prop where
  | done : Unwinds tag none []
  | failed (failure : Failure) : Unwinds tag (some failure) []
  | other {ending : Option Failure} {event : Event} {rest : List Event}
      (h : event.observation? = none) (hrest : Unwinds tag ending rest) :
      Unwinds tag ending (event :: rest)
  | returned {ending : Option Failure} {inner rest : List Event} (call : Call) (result : Value)
      (hinner : Unwinds tag none inner) (hrest : Unwinds tag ending rest) :
      Unwinds tag ending (observed (.enter tag call) ::
        (inner ++ observed (.exit tag call.name result) :: rest))
  | raised {failure : Failure} {inner : List Event} (call : Call)
      (hinner : Unwinds tag (some failure) inner) :
      Unwinds tag (some failure) (observed (.enter tag call) ::
        (inner ++ [observed (.raise tag call.name failure)]))

variable {tag : String}

theorem Unwinds.append {ending : Option Failure} {events more : List Event}
    (h : Unwinds tag none events) (hmore : Unwinds tag ending more) :
    Unwinds tag ending (events ++ more) := by
  generalize hnone : (none : Option Failure) = start at h
  induction h with
  | done => exact hmore
  | failed | raised => cases hnone
  | other h _ ih => exact .other h (ih hnone)
  | returned call result hinner _ _ ih =>
    rw [List.cons_append, List.append_assoc, List.cons_append]
    exact .returned call result hinner (ih hnone)

-- In the end all calls that were entered are left.
theorem Unwinds.foldl_track {ending : Option Failure} {events : List Event}
    (h : Unwinds tag ending events) (calls : List Call) : events.foldl track calls = calls := by
  induction h generalizing calls with
  | done | failed => rfl
  | other h _ ih => rw [List.foldl_cons, track_of_unobserved h, ih]
  | returned call result _ _ ihinner ihrest =>
    rw [List.foldl_cons, List.foldl_append, List.foldl_cons, ihinner, ihrest]
    exact List.dropLast_concat
  | raised call _ ihinner =>
    rw [List.foldl_cons, List.foldl_append, ihinner]
    exact List.dropLast_concat

-- From the first raised failure on, the open calls raise it one after the other.
theorem Unwinds.raises {ending : Option Failure} {events before after : List Event}
    {tag' name : String} {failure : Failure} (h : Unwinds tag ending events)
    (hsplit : events = before ++ observed (.raise tag' name failure) :: after)
    (calls : List Call) :
    ending = some failure ∧ ∃ opened, before.foldl track calls = calls ++ opened ∧
      observed (.raise tag' name failure) :: after =
        opened.reverse.map fun call => observed (.raise tag call.name failure) := by
  induction h generalizing before after calls with
  | done | failed => simp at hsplit
  | other h _ ih =>
    rcases List.cons_eq_append_iff.mp hsplit with ⟨-, heq⟩ | ⟨before, rfl, hrest⟩
    · obtain ⟨rfl, -⟩ := List.cons.inj heq
      cases h
    · rw [List.foldl_cons, track_of_unobserved h]
      exact ih hrest calls
  | @returned ending inner rest call result hinner _ ihinner ihrest =>
    rcases List.cons_eq_append_iff.mp hsplit with ⟨-, heq⟩ | ⟨before, rfl, hlater⟩
    · cases heq
    · rcases List.append_eq_append_iff.mp hlater with ⟨left, rfl, hleft⟩ | ⟨left, hinside, hleft⟩
      · -- the call has returned before the failure is raised
        rcases List.cons_eq_append_iff.mp hleft with ⟨-, heq⟩ | ⟨last, rfl, hlast⟩
        · cases heq
        · rw [List.foldl_cons, List.foldl_append, List.foldl_cons, hinner.foldl_track]
          have hclosed : track (calls ++ [call]) (observed (.exit tag call.name result)) = calls :=
            List.dropLast_concat
          rw [track, hclosed]
          exact ihrest hlast calls
      · -- nothing is raised inside a call that returns
        rcases List.append_eq_cons_iff.mp hleft.symm with ⟨-, heq⟩ | ⟨last, rfl, -⟩
        · cases heq
        · obtain ⟨hending, -⟩ := ihinner hinside calls
          cases hending
  | @raised ending inner call hinner ihinner =>
    rcases List.cons_eq_append_iff.mp hsplit with ⟨-, heq⟩ | ⟨before, rfl, hlater⟩
    · cases heq
    · rw [List.foldl_cons]
      rcases List.eq_nil_or_concat after with rfl | ⟨more, last, rfl⟩
      · -- the call itself raises the failure first
        obtain ⟨rfl, hlast⟩ := List.append_inj' hlater rfl
        cases hlast
        rw [hinner.foldl_track]
        exact ⟨rfl, [call], rfl, rfl⟩
      · -- a call inside of it has raised the failure before
        rw [List.concat_eq_append, ← List.cons_append, ← List.append_assoc] at hlater
        obtain ⟨hinside, hlast⟩ := List.append_inj' hlater rfl
        cases hlast
        obtain ⟨hending, opened, hopened, hraises⟩ := ihinner hinside (calls ++ [call])
        cases hending
        refine ⟨rfl, call :: opened, ?_, ?_⟩
        · rw [track, hopened, List.append_assoc, List.singleton_append]
        · rw [List.concat_eq_append, ← List.cons_append, hraises, List.reverse_cons,
            List.map_append]
          rfl

end Event

namespace Run

variable {α β : Type} {tag : String}

def Unwinds (tag : String) (run : Run α) : Prop :=
  ∀ world, Event.Unwinds tag (run world).failure? (run world).events

theorem Unwinds.bind {run : Run α} {f : α → Run β} (h : run.Unwinds tag)
    (hf : ∀ a, run.Returns a → (f a).Unwinds tag) : (run.bind f).Unwinds tag := by
  intro world
  have hrun := h world
  rcases hreport : run world with ⟨failure | a, events, after⟩ <;> rw [hreport] at hrun
  · rw [bind_of_error hreport]
    exact hrun
  · rw [bind_of_ok hreport]
    exact hrun.append (hf a ⟨world, by rw [hreport]⟩ after)

-- A guard changes failures, and an attempt goes on after them.
def unwinding (tag : String) : Congruence where
  Related run _ := run.Unwinds tag
  Fails _ := True
  Notes event := event.observation? = none
  Guards := False
  Draws := True
  Recovers := False
  done _ _ := .done
  fail {_ failure} _ _ := .failed failure
  bind h hf := h.bind fun a _ => hf a
  debugged := Event.observation?_debugged
  note h _ := .other h .done
  guard := False.elim
  random _ _ _ := .done
  now _ _ := .done
  outcome := False.elim

theorem Unwinds.record {proceed : Call → Run Value} {call : Call}
    (h : (proceed call).Unwinds tag) :
    (Middleware.record tag call proceed : Run Value).Unwinds tag := by
  intro world
  have hinner := h world
  rw [Middleware.record_eq]
  rcases hreport : proceed call world with ⟨failure | result, events, after⟩ <;>
    rw [hreport] at hinner
  · exact .raised call hinner
  · exact .returned call result hinner .done

end Run

-- Limits on guards, chance, the clock and going on after a failure only.
def Limits.foreseeable (guards : Prop) (registered : String → Bool) : Limits where
  registered
  resolves _ := True
  recognizes _ := True
  fails _ := True
  guards
  draws := False
  recovers := False

theorem Limits.foreseeable_wider {guards : Prop} (limits : Limits)
    (hguards : limits.guards → guards) (hdraws : ¬limits.draws) (hrecovers : ¬limits.recovers) :
    (Limits.foreseeable guards limits.registered).Wider limits :=
  ⟨rfl, fun _ _ => trivial, fun _ _ => trivial, fun _ _ => trivial, hguards, hdraws, hrecovers⟩

namespace Builtin

open Script

theorem sort_foreseeable : sort.Within fun registered _ => .foreseeable True registered :=
  fun registered mode operand input => (sort_guarding registered mode operand input).widen
    (Limits.foreseeable_wider (.guarding registered operand) id id id)

-- Apart from sorting nothing is guarded.
theorem foreseeable_of_mem {entry : String × Operation} (hmem : entry ∈ operations)
    (hname : entry.1 ∉ drawingNames) :
    entry.2.Within (fun registered _ => .foreseeable False registered) ∨
      entry = ("$sort", sort) := by
  have hwiden : ∀ {limits : (String → Bool) → Value → Limits} {operation : Operation},
      operation.Within limits → (∀ registered operand,
        (Limits.foreseeable False registered).Wider (limits registered operand)) →
      operation.Within fun registered _ => .foreseeable False registered :=
    fun h hwider registered mode operand input =>
      (h registered mode operand input).widen (hwider registered operand)
  have htesting (registered : String → Bool) (operand : Value) :=
    Limits.foreseeable_wider (.testing registered operand) id id id
  cases kind_of_mem hmem with
  | ordinary h =>
    exact .inl (hwiden h fun registered operand =>
      Limits.foreseeable_wider (.ordinary registered operand) id id id)
  | matchesAll => exact .inl (hwiden matchesAll_within htesting)
  | filterBy => exact .inl (hwiden filterBy_within htesting)
  | sort => exact .inr rfl
  | drawing hdrawing _ => exact absurd hdrawing hname

section Sorting

-- Requests are answered steadily, and failures unwind on the way.
variable {tag : String} {resolve : Request → Run Value} {registered : String → Bool}
  (hsteady : ∀ request, (resolve request).Steady)
  (hunwinds : ∀ request, (resolve request).Unwinds tag)

include hsteady in
theorem selectKey_steady (selector item : Value) :
    ((selectKey selector item).run resolve registered).Steady := by
  unfold selectKey
  split
  · exact Run.steadying.done _
  · rw [run_apply]
    exact hsteady _

include hunwinds in
theorem run_unwinds {α : Type} {script : Script α}
    (h : script.Within (.foreseeable False registered) fun _ => True) :
    (script.run resolve registered).Unwinds tag :=
  (Run.unwinding tag).run_self h ⟨fun _ _ => trivial, id, False.elim, id⟩
    fun request _ => hunwinds request

theorem selectKey_foreseeable (selector item : Value) :
    (selectKey selector item).Within (.foreseeable False registered) fun _ => True := by
  unfold selectKey
  split
  · trivial
  · exact ⟨trivial, fun _ => trivial⟩

include hsteady hunwinds

-- The keys that are read for the order have been read before. So the guard has nothing to report.
theorem sortPass_unwinds (criterion : Criterion) (items : List Value) :
    ((sortPass criterion items).run resolve registered).Unwinds tag := by
  have htest (test : Value → Bool) (items : List Value) :
      ((keep (fun item => do return test (← selectKey criterion.selector item)) items).run
        resolve registered).Unwinds tag := by
    refine run_unwinds hunwinds (within_keep fun item _ => ?_)
    rw [within_bind]
    exact (selectKey_foreseeable criterion.selector item).mono fun _ _ => trivial
  simp only [sortPass, run_bind]
  refine (htest (fun key => !key.isNull) items).bind fun present hpresent => ?_
  refine (htest Value.isNull items).bind fun missing _ => ?_
  have hkeys : ((each (selectKey criterion.selector) present).run resolve registered).FailsOnly
      fun _ => False := by
    refine failsOnly_each fun item hmem => ?_
    have hpasses := returns_of_mem_keep hpresent item hmem
    rw [run_bind] at hpasses
    obtain ⟨key, hkey, -⟩ := hpasses.of_bind
    exact (selectKey_steady hsteady criterion.selector item).failsOnly_of_returns hkey
  rw [run_guard, Run.guard_of_failsOnly hkeys]
  refine (run_unwinds hunwinds (within_each fun item _ =>
    selectKey_foreseeable criterion.selector item)).bind fun keys _ => ?_
  split
  · exact fun _ => .done
  · exact fun _ => .failed _

theorem sortPasses_unwinds (criteria : List Criterion) (items : List Value) :
    ((fold (fun items criterion => sortPass criterion items) items criteria).run
      resolve registered).Unwinds tag := by
  induction criteria generalizing items with
  | nil => exact fun _ => .done
  | cons criterion rest ih =>
    simp only [fold, run_bind]
    exact (sortPass_unwinds hsteady hunwinds criterion items).bind fun sorted _ => ih sorted

theorem sortItems_unwinds (items operand : Value) :
    ((sortItems items operand).run resolve registered).Unwinds tag := by
  rw [sortItems, run_bind]
  refine (run_unwinds hunwinds (computes_requireList "$sort" items _
    fun _ _ => trivial)).bind fun items _ => ?_
  split
  · exact fun _ => .failed _
  · next criteria hcriteria =>
    rw [run_bind]
    exact (sortPasses_unwinds hsteady hunwinds criteria.reverse items).bind fun _ _ _ => .done

theorem sort_unwinds (mode : Mode) (operand input : Value) :
    ((sort.call mode operand input).run resolve registered).Unwinds tag := by
  cases mode with
  | apply => exact sortItems_unwinds hsteady hunwinds input operand
  | evaluate =>
    change ((requireKeys "$sort" ["array", "sortCriteria"] operand >>= fun fields =>
      Script.evaluate (field "array" fields) >>= fun items =>
        sortItems items (field "sortCriteria" fields)).run resolve registered).Unwinds tag
    have hown : (Limits.foreseeable False registered).AllowsOwn := fun _ _ => trivial
    simp only [run_bind, run_evaluate]
    refine (run_unwinds hunwinds ((within_requireKeys hown _ _ _ _).mpr
      fun _ _ _ => trivial)).bind fun fields _ => ?_
    exact (hunwinds _).bind fun items _ => sortItems_unwinds hsteady hunwinds items _

end Sorting

end Builtin

theorem Run.Steady.record {tag : String} {proceed : Call → Run Value} {call : Call}
    (h : (proceed call).Steady) : (Middleware.record tag call proceed : Run Value).Steady := by
  obtain ⟨result, events, hrun⟩ := h
  refine ⟨result, .observed (.enter tag call) :: (events ++
    [.observed (.closing tag call.name result)]), fun world => ?_⟩
  rw [Middleware.record_eq, hrun]

namespace Engine

-- Every definition is one of the built-in operations, and none draws on chance or the clock.
def Predictable (engine : Engine) : Prop :=
  ∀ name definition, engine.definitions.find? name = some definition →
    ∃ entry ∈ Builtin.operations, entry.1 ∉ Builtin.drawingNames ∧
      definition = .operation { entry.2 with name }

variable {engine : Engine}

theorem Shipped.predictable (h : engine.Shipped)
    (hnames : ∀ name ∈ Builtin.drawingNames, engine.registers name = false) :
    engine.Predictable := by
  intro name definition hfind
  obtain ⟨operation, hoperation, rfl⟩ := h.defines hfind
  refine ⟨(name, operation), Fields.mem_of_find? hoperation, fun hmem => ?_, rfl⟩
  have hregisters : engine.registers name = true := by simp [registers, Fields.contains, hfind]
  rw [hnames name hmem] at hregisters
  cases hregisters

theorem Predictable.invoke_eq (h : engine.Predictable) {call : Call}
    (hregisters : engine.registers call.name = true) :
    ∃ entry ∈ Builtin.operations, entry.1 ∉ Builtin.drawingNames ∧
      ∀ resolve, engine.invoke resolve call =
        (Run.note (.dispatching call.name call.mode)).bind fun _ =>
          (entry.2.call call.mode call.operand call.input).run resolve engine.registers := by
  obtain ⟨definition, hfind⟩ := Option.isSome_iff_exists.mp hregisters
  obtain ⟨entry, hmem, hname, rfl⟩ := h call.name definition hfind
  exact ⟨entry, hmem, hname, invoke_of_find? hfind (Builtin.supports_of_mem hmem call.mode)⟩

theorem dispatch_recordedBy_singleton (tag : String) (levels : Nat) (call : Call) :
    (engine.recordedBy [tag]).dispatch (levels + 1) call =
      Middleware.record tag call ((engine.recordedBy [tag]).invoke
        ((engine.recordedBy [tag]).resolveWith ((engine.recordedBy [tag]).dispatch levels))) := rfl

theorem Predictable.dispatch_steady (h : engine.Predictable) (tag : String) (levels : Nat)
    {call : Call} (hregisters : engine.registers call.name = true) :
    ((engine.recordedBy [tag]).dispatch levels call).Steady := by
  induction levels generalizing call with
  | zero => exact ⟨.error .tooDeep, [], fun _ => rfl⟩
  | succ levels ih =>
    have hrecorded : (engine.recordedBy [tag]).Predictable := h
    obtain ⟨entry, hmem, hname, hinvoke⟩ := hrecorded.invoke_eq hregisters
    have hresolve := Run.steadying.resolveWith_self (engine.recordedBy [tag])
      (fun _ => trivial) fun call hregisters => ih hregisters
    rw [dispatch_recordedBy_singleton]
    refine Run.Steady.record ?_
    rw [hinvoke]
    refine (Run.steady_note _).bind fun _ => ?_
    rcases Builtin.foreseeable_of_mem hmem hname with hwithin | rfl
    · exact Run.steadying.run_self (hwithin _ _ _ _)
        ⟨fun _ _ => trivial, False.elim, id, False.elim⟩ fun request _ => hresolve request
    · exact Run.steadying.run_self (Builtin.sort_foreseeable _ _ _ _)
        ⟨fun _ _ => trivial, fun _ => trivial, id, False.elim⟩ fun request _ => hresolve request

theorem Predictable.dispatch_unwinds (h : engine.Predictable) (tag : String) (levels : Nat)
    {call : Call} (hregisters : engine.registers call.name = true) :
    ((engine.recordedBy [tag]).dispatch levels call).Unwinds tag := by
  induction levels generalizing call with
  | zero => exact fun _ => .failed .tooDeep
  | succ levels ih =>
    have hrecorded : (engine.recordedBy [tag]).Predictable := h
    obtain ⟨entry, hmem, hname, hinvoke⟩ := hrecorded.invoke_eq hregisters
    have hresolve := (Run.unwinding tag).resolveWith_self (engine.recordedBy [tag])
      (fun _ => trivial) fun call hregisters => ih hregisters
    have hsteady := Run.steadying.resolveWith_self (engine.recordedBy [tag])
      (fun _ => trivial) fun call hregisters => h.dispatch_steady tag levels hregisters
    rw [dispatch_recordedBy_singleton]
    refine Run.Unwinds.record ?_
    rw [hinvoke]
    have hnote : (Run.note (.dispatching call.name call.mode)).Unwinds tag :=
      fun _ => .other rfl .done
    refine hnote.bind fun _ _ => ?_
    rcases Builtin.foreseeable_of_mem hmem hname with hwithin | rfl
    · exact Builtin.run_unwinds hresolve (hwithin _ _ _ _)
    · exact Builtin.sort_unwinds hsteady hresolve _ _ _

-- When a call raises a failure, nothing happens any more but that the open calls raise it, from the
-- innermost to the outermost, and the request ends with this very failure.
theorem Predictable.failure_unwinds (h : engine.Predictable) {tag : String} {request : Request}
    {world : Surroundings} {before after : List Event} {tag' name : String} {failure : Failure}
    (hraise : ((engine.recordedBy [tag]).resolve request world).events =
      before ++ .observed (.raise tag' name failure) :: after) :
    ((engine.recordedBy [tag]).resolve request world).result = .error failure ∧
      .observed (.raise tag' name failure) :: after =
        (Event.openCalls before).reverse.map fun call =>
          .observed (.raise tag call.name failure) := by
  have hunwinds : Event.Unwinds tag ((engine.recordedBy [tag]).resolve request world).failure?
      ((engine.recordedBy [tag]).resolve request world).events :=
    (Run.unwinding tag).resolveWith_self (engine.recordedBy [tag]) (fun _ => trivial)
      (fun call hregisters => h.dispatch_unwinds tag _ hregisters) request world
  obtain ⟨hending, opened, hopened, hraises⟩ := hunwinds.raises hraise []
  refine ⟨?_, ?_⟩
  · rcases hreport : (engine.recordedBy [tag]).resolve request world with
      ⟨other | a, events, last⟩ <;> rw [hreport] at hending <;> cases hending
    rfl
  · rw [hraises, Event.openCalls, hopened, List.nil_append]

-- A text is split with too many parameters, to find a key for sorting the items of a list of lists.
theorem split_in_sort_unwinds :
    let engine := ofPacks [Builtin.stringPack]
    let separators := Value.array [.string ",", .string ";"]
    let criterion := Value.object [("by", .object [("$split", separators)])]
    let items := Value.array [.string "a"]
    let report := (engine.recordedBy ["layer"]).apply (.object [("$map", .object
      [("$sort", criterion)])]) (.array [items]) ⟨mkStdGen 0, default⟩
    let failure := Failure.fault .wrongArity
    let before : List Event :=
      [ .observed (.enter "layer" ⟨"$map", .apply, .object [("$sort", criterion)], .array [items]⟩),
        .dispatching "$map" .apply,
        .observed (.enter "layer" ⟨"$sort", .apply, criterion, items⟩), .dispatching "$sort" .apply,
        .observed (.enter "layer" ⟨"$split", .apply, separators, .string "a"⟩),
        .dispatching "$split" .apply ]
    let after : List Event :=
      [ .observed (.raise "layer" "$sort" failure), .observed (.raise "layer" "$map" failure) ]
    engine.Predictable ∧
      report.events = before ++ .observed (.raise "layer" "$split" failure) :: after ∧
      report.result = .error failure ∧
      .observed (.raise "layer" "$split" failure) :: after =
        (Event.openCalls before).reverse.map fun call =>
          .observed (.raise "layer" call.name failure) := by
  intro engine separators criterion items report failure before after
  have hshipped : engine.Shipped :=
    ⟨[Builtin.stringPack], true, [], by simp [Builtin.packs, Fields.values], rfl⟩
  have hpredictable : engine.Predictable := hshipped.predictable (by decide)
  have hraise : report.events = before ++ .observed (.raise "layer" "$split" failure) :: after :=
    rfl
  exact ⟨hpredictable, hraise, hpredictable.failure_unwinds hraise⟩

end Engine

end JsonExpr
