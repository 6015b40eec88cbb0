import JsonExpr.Proofs.Engine.Recording
import JsonExpr.Proofs.Engine.Validity
import JsonExpr.Proofs.Text.Suggestion

-- Unknown operations are reported by the engine, with its own names to choose a suggestion from, as
-- long as its operations and layers report none themselves.
namespace JsonExpr

-- The operation fails in the ways in which its requests do, and in others that are about no unknown
-- operation.
def Operation.NeverReports (operation : Operation) : Prop :=
  ∀ allowed : Failure → Prop, (∀ failure : Failure, failure.IsKnown → allowed failure) →
    ∀ resolve registered, (∀ request, (resolve request).FailsOnly allowed) →
      ∀ mode operand input,
        ((operation.call mode operand input).run resolve registered).FailsOnly allowed

-- The layer fails in the ways in which what it proceeds to does, and in such others.
def Middleware.NeverReports (layer : Middleware) : Prop :=
  ∀ allowed : Failure → Prop, (∀ failure : Failure, failure.IsKnown → allowed failure) →
    ∀ proceed, (∀ call, (proceed call).FailsOnly allowed) →
      ∀ call, (layer call proceed).FailsOnly allowed

theorem Failure.isKnown_of_isOwn {failure : Failure} (hown : failure.IsOwn) : failure.IsKnown := by
  rintro unknown rfl
  exact hown

namespace Middleware

theorem record_neverReports (tag : String) : (record tag).NeverReports := by
  intro allowed _ proceed hproceed call world failure hfailure
  rw [record_eq] at hfailure
  exact hproceed call world failure hfailure

theorem wrap_failsOnly {allowed : Failure → Prop}
    (hknown : ∀ failure : Failure, failure.IsKnown → allowed failure) {layers : List Middleware}
    (hlayers : ∀ layer ∈ layers, layer.NeverReports) {proceed : Call → Run Value}
    (hproceed : ∀ call, (proceed call).FailsOnly allowed) (call : Call) :
    (wrap layers proceed call).FailsOnly allowed := by
  induction layers generalizing call with
  | nil => exact hproceed call
  | cons layer rest ih =>
    obtain ⟨hlayer, hrest⟩ := List.forall_mem_cons.mp hlayers
    exact hlayer allowed hknown _ (ih hrest) call

end Middleware

-- A built-in operation, under any name.
theorem Builtin.neverReports_of_mem {entry : String × Operation} (hmem : entry ∈ operations)
    (name : String) : { entry.2 with name }.NeverReports := by
  intro allowed hknown resolve registered hresolve mode operand input
  rw [Operation.call_rename (supports_of_mem hmem mode)]
  exact (Run.failingOnly allowed).run_self (inside_of_mem hmem registered mode operand input)
    ⟨fun _ hown => hknown _ (Failure.isKnown_of_isOwn hown), fun _ => trivial, fun _ => trivial,
      False.elim⟩ fun request _ => hresolve request

namespace Engine

-- None but the engine reports unknown operations.
structure ReportsAlone (engine : Engine) : Prop where
  operations : ∀ name operation, engine.definitions.find? name = some (.operation operation) →
    operation.NeverReports
  layers : ∀ layer ∈ engine.middleware, layer.NeverReports

variable {engine : Engine}

theorem BuiltIn.reportsAlone (h : engine.BuiltIn)
    (hlayers : ∀ layer ∈ engine.middleware, layer.NeverReports) : engine.ReportsAlone where
  operations name operation hfind := by
    obtain ⟨entry, hmem, heq⟩ := h name _ hfind
    cases heq
    exact Builtin.neverReports_of_mem hmem name
  layers := hlayers

-- If the failure is about an unknown operation, it is not registered, and the names of the engine
-- are listed.
def Reports (engine : Engine) (failure : Failure) : Prop :=
  ∀ unknown, failure = .unknownOperation unknown →
    engine.registers unknown.name = false ∧ unknown.available = engine.names

theorem reports_of_isKnown (failure : Failure) (h : failure.IsKnown) : engine.Reports failure :=
  fun unknown heq => absurd heq (h unknown)

theorem resolveWith_reports {dispatch : Call → Run Value}
    (hdispatch : ∀ call, (dispatch call).FailsOnly engine.Reports) (request : Request) :
    (engine.resolveWith dispatch request).FailsOnly engine.Reports := by
  refine (Run.failingOnly engine.Reports).resolveWith dispatch dispatch rfl ?_
    fun call _ _ _ => hdispatch call
  intro name operand _ _ hregisters unknown heq
  cases heq
  exact ⟨hregisters, rfl⟩

theorem ReportsAlone.invoke_reports (h : engine.ReportsAlone) {resolve : Request → Run Value}
    (hresolve : ∀ request, (resolve request).FailsOnly engine.Reports) (call : Call) :
    (engine.invoke resolve call).FailsOnly engine.Reports := by
  have hfault (fault : Fault) : (Run.fail (.fault fault) : Run Value).FailsOnly engine.Reports :=
    (Run.failingOnly engine.Reports).fail (reports_of_isKnown _ nofun)
  unfold invoke
  cases hfind : engine.definitions.find? call.name with
  | none => exact hfault _
  | some definition =>
    refine Run.FailsOnly.bind ((Run.failingOnly engine.Reports).note rfl) fun _ => ?_
    cases definition with
    | inert => exact hfault _
    | operation operation =>
      exact h.operations _ _ hfind _ reports_of_isKnown _ _ hresolve _ _ _

theorem ReportsAlone.dispatch_reports (h : engine.ReportsAlone) (levels : Nat) (call : Call) :
    (engine.dispatch levels call).FailsOnly engine.Reports := by
  induction levels generalizing call with
  | zero => exact (Run.failingOnly engine.Reports).fail (reports_of_isKnown _ nofun)
  | succ levels ih =>
    exact Middleware.wrap_failsOnly reports_of_isKnown h.layers
      (h.invoke_reports (resolveWith_reports ih)) call

theorem ReportsAlone.resolve_reports (h : engine.ReportsAlone) (request : Request) :
    (engine.resolve request).FailsOnly engine.Reports :=
  resolveWith_reports (h.dispatch_reports _) request

theorem registers_iff {name : String} : engine.registers name = true ↔ name ∈ engine.names :=
  Fields.find?_isSome_iff name _

-- No candidate is suggested if none is within two fifths of the length of the name, or twenty edits;
-- otherwise the first of the closest ones is. So what an unknown operation is reported with is a
-- registered name, and no registered name is closer.
theorem suggestion_first_closest :
    (∀ name candidate,
      IsLeast {n | Edits n (lowerChars name.toList) (lowerChars candidate.toList)}
        (nameDistance name candidate)) ∧
    (∀ name candidates, suggestName name candidates = none ↔
      ∀ other ∈ candidates, min (2 * name.length / 5) 20 < nameDistance name other) ∧
    (∀ name candidates best, suggestName name candidates = some best ↔
      nameDistance name best ≤ min (2 * name.length / 5) 20 ∧
        FirstClosest name candidates best) ∧
    ∀ engine : Engine, engine.ReportsAlone → ∀ request world unknown,
      (engine.resolve request world).result = .error (.unknownOperation unknown) →
        engine.registers unknown.name = false ∧
        unknown.suggestion = suggestName unknown.name engine.names ∧
        ∀ best, unknown.suggestion = some best → engine.registers best = true ∧
          ∀ other, engine.registers other = true →
            nameDistance unknown.name best ≤ nameDistance unknown.name other := by
  refine ⟨fun name candidate => EditDistance.distance_isLeast _ _,
    fun name candidates => suggestName_eq_none_iff, fun name candidates best =>
    suggestName_eq_some_iff, fun engine hreports request world unknown hfailure => ?_⟩
  obtain ⟨hname, hnames⟩ := hreports.resolve_reports request world _ hfailure unknown rfl
  have hsuggestion : unknown.suggestion = suggestName unknown.name engine.names := by
    rw [UnknownOperation.suggestion, hnames]
  refine ⟨hname, hsuggestion, fun best hbest => ?_⟩
  obtain ⟨-, hfirst⟩ := suggestName_eq_some_iff.mp (hsuggestion.symm.trans hbest)
  exact ⟨registers_iff.mpr hfirst.mem, fun other hother =>
    hfirst.le other (registers_iff.mp hother)⟩

-- The unknown operation is met inside another one, which a layer observes.
theorem mapp_suggests_map :
    let engine := complete.recordedBy ["outer"]
    let request := Request.apply (.object [("$not", .object [("$MAPP", .null)])]) .null
    engine.ReportsAlone ∧ ∀ world, ∃ unknown,
      (engine.resolve request world).result = .error (.unknownOperation unknown) ∧
        unknown.suggestion = some "$map" ∧ engine.registers "$map" = true ∧
        ∀ other, engine.registers other = true →
          nameDistance unknown.name "$map" ≤ nameDistance unknown.name other := by
  intro engine request
  have hreports : engine.ReportsAlone := by
    refine BuiltIn.reportsAlone complete_builtIn ?_
    simpa [engine, recordedBy] using Middleware.record_neverReports "outer"
  refine ⟨hreports, fun world => ?_⟩
  have hresult : (engine.resolve request world).result =
      .error (.unknownOperation ⟨"$MAPP", .null, engine.names⟩) := rfl
  obtain ⟨-, -, -, hengine⟩ := suggestion_first_closest
  obtain ⟨-, -, hclosest⟩ := hengine engine hreports request world _ hresult
  have hsuggestion : suggestName "$MAPP" engine.names = some "$map" := by decide +kernel
  exact ⟨_, hresult, hsuggestion, hclosest "$map" hsuggestion⟩

end Engine

end JsonExpr
