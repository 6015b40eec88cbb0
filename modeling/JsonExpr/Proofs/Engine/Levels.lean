import JsonExpr.Proofs.Run.Congruence
import JsonExpr.Proofs.Run.Yields

-- More levels of dispatches than enough make no difference.
namespace JsonExpr

-- A run with more levels: it comes to the same, unless the levels of the first one run out.
def Run.Deepens {α : Type} (run deeper : Run α) : Prop :=
  ∀ world, (run world).result = .error .tooDeep ∨ deeper world = run world

def Run.deepening : Run.Congruence where
  Related := Run.Deepens
  Fails _ := True
  Notes _ := True
  Guards := True
  Draws := True
  Recovers := True
  done _ _ := .inr rfl
  fail _ _ := .inr rfl
  bind {_ _ run deeper f f'} h hf world := by
    rcases h world with hdeep | heq
    · exact .inl (Run.result_bind_of_error hdeep)
    · rcases hreport : run world with ⟨failure | a, events, after⟩
      · right
        rw [Run.bind_of_error hreport, Run.bind_of_error (heq.trans hreport)]
      · rw [Run.bind_of_ok hreport, Run.bind_of_ok (heq.trans hreport)]
        rcases hf a after with hdeep | heq
        · exact .inl hdeep
        · right
          rw [heq]
  debugged _ := trivial
  note _ _ := .inr rfl
  guard {_ run deeper _} _ _ h world := by
    rcases h world with hdeep | heq
    · left
      simp only [Run.guard, hdeep]
      rfl
    · right
      simp only [Run.guard, heq]
  random _ _ _ := .inr rfl
  now _ _ := .inr rfl
  outcome {_ run deeper} _ h world := by
    rcases hreport : run world with ⟨result, events, after⟩
    rcases h world with hdeep | heq
    · rw [hreport] at hdeep
      subst hdeep
      exact .inl (by rw [Run.outcome_of_tooDeep hreport])
    · right
      by_cases hdeep : result = .error .tooDeep
      · subst hdeep
        rw [Run.outcome_of_tooDeep hreport, Run.outcome_of_tooDeep (heq.trans hreport)]
      · rw [Run.outcome_of_ne hdeep hreport, Run.outcome_of_ne hdeep (heq.trans hreport)]

namespace Engine

variable {engine : Engine} {levels more : Nat}

theorem resolveWith_deepens {dispatch deeper : Call → Run Value}
    (h : ∀ call, (dispatch call).Deepens (deeper call)) (request : Request) :
    (engine.resolveWith dispatch request).Deepens (engine.resolveWith deeper request) :=
  Run.deepening.resolveWith _ _ rfl (fun _ _ _ _ _ => trivial) fun call _ _ _ => h call

theorem dispatch_deepens (hplain : engine.middleware = []) (hmore : levels ≤ more) (call : Call) :
    (engine.dispatch levels call).Deepens (engine.dispatch more call) := by
  induction levels generalizing more call with
  | zero => exact fun _ => .inl rfl
  | succ levels ih =>
    obtain ⟨more, rfl⟩ := Nat.exists_eq_add_one_of_ne_zero (by omega : more ≠ 0)
    simp only [dispatch, hplain]
    exact Run.deepening.invoke call rfl
      ⟨fun _ _ => trivial, fun _ => trivial, fun _ => trivial, fun _ => trivial⟩ trivial
      (resolveWith_deepens fun call => ih (by omega) call)

-- A request that has levels enough comes to the same with more of them.
theorem resolveWith_eq_of_le (hplain : engine.middleware = []) (hmore : levels ≤ more)
    {request : Request} {world : Surroundings}
    (henough : (engine.resolveWith (engine.dispatch levels) request world).result ≠
      .error .tooDeep) :
    engine.resolveWith (engine.dispatch more) request world =
      engine.resolveWith (engine.dispatch levels) request world :=
  (resolveWith_deepens (dispatch_deepens hplain hmore) request world).resolve_left henough

-- What a request returns from the outside it also returns inside a call that has levels enough left.
theorem resolveWith_eq_resolve (hplain : engine.middleware = []) {request : Request}
    {world : Surroundings} {value : Value} (h : (engine.resolve request world).result = .ok value)
    {levels : Nat} (hlevels : request.expression.depth + allowance ≤ levels) :
    engine.resolveWith (engine.dispatch levels) request world = engine.resolve request world := by
  rw [resolve] at h ⊢
  exact resolveWith_eq_of_le hplain hlevels (by rw [h]; nofun)

theorem yields_resolveWith (hplain : engine.middleware = []) {request : Request} {value : Value}
    (h : (engine.resolve request).Yields value) {levels : Nat}
    (hlevels : request.expression.depth + allowance ≤ levels) :
    (engine.resolveWith (engine.dispatch levels) request).Yields value := by
  intro world
  rw [resolveWith_eq_resolve hplain (h world) hlevels]
  exact h world

end Engine

end JsonExpr
