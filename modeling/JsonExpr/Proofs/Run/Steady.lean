import JsonExpr.Proofs.Run.Alike

-- Runs that do not depend on their surroundings, and guards on runs that have nothing to guard.
namespace JsonExpr

namespace Run

variable {α β : Type}

-- The run comes to the same in all surroundings and leaves them as they are.
def Steady (run : Run α) : Prop := ∃ result events, ∀ world, run world = ⟨result, events, world⟩

theorem Steady.bind {run : Run α} {f : α → Run β} (h : run.Steady) (hf : ∀ a, (f a).Steady) :
    (run.bind f).Steady := by
  obtain ⟨result, events, hrun⟩ := h
  cases result with
  | error failure => exact ⟨.error failure, events, fun world => bind_of_error (hrun world)⟩
  | ok a =>
    obtain ⟨last, more, hlast⟩ := hf a
    refine ⟨last, events ++ more, fun world => ?_⟩
    rw [bind_of_ok (hrun world), hlast]

theorem steady_note (event : Event) : (note event).Steady := ⟨.ok (), [event], fun _ => rfl⟩

-- Steady runs make up steady runs, as long as nothing draws on chance or the clock.
def steadying : Congruence where
  Related run _ := run.Steady
  Fails _ := True
  Notes _ := True
  Guards := True
  Draws := False
  Recovers := True
  done a := ⟨.ok a, [], fun _ => rfl⟩
  fail {_ failure} _ := ⟨.error failure, [], fun _ => rfl⟩
  bind h hf := h.bind hf
  debugged _ := trivial
  note {event} _ := steady_note event
  guard {_ run _ problem} _ _ h := by
    obtain ⟨result, events, hrun⟩ := h
    refine ⟨result.mapError (·.reportedAs problem), events, fun world => ?_⟩
    simp only [Run.guard, hrun]
  random := False.elim
  now := False.elim
  outcome {_ run _} _ h := by
    obtain ⟨result, events, hrun⟩ := h
    by_cases hdeep : result = .error .tooDeep
    · subst hdeep
      exact ⟨.error .tooDeep, events, fun world => outcome_of_tooDeep (hrun world)⟩
    · exact ⟨.ok result, events, fun world => outcome_of_ne hdeep (hrun world)⟩

-- What a steady run may return it always returns.
theorem Steady.failsOnly_of_returns {run : Run α} {a : α} (h : run.Steady) (ha : run.Returns a) :
    run.FailsOnly fun _ => False := by
  obtain ⟨result, events, hrun⟩ := h
  obtain ⟨world, hworld⟩ := ha
  rw [hrun] at hworld
  subst hworld
  intro other failure hfailure
  rw [hrun] at hfailure
  cases hfailure

section Guards

variable {problem : DomainProblem}

theorem guard_of_failsOnly {run : Run α} (h : run.FailsOnly fun _ => False) :
    run.guard problem = run := by
  funext world
  rcases hreport : run world with ⟨failure | a, events, after⟩
  · exact (h world failure (by rw [hreport])).elim
  · exact guard_of_ok hreport

theorem guard_bind (run : Run α) (f : α → Run β) :
    (run.bind f).guard problem = (run.guard problem).bind fun a => (f a).guard problem := by
  funext world
  rcases hreport : run world with ⟨failure | a, events, after⟩
  · rw [guard_of_error (bind_of_error hreport), bind_of_error (guard_of_error hreport)]
  · rw [bind_of_ok (guard_of_ok hreport), guard, bind_of_ok hreport]
    rfl

theorem guard_guard (run : Run α) (inner : DomainProblem) :
    (run.guard inner).guard problem = run.guard inner := by
  have hreported (failure : Failure) :
      (failure.reportedAs inner).reportedAs problem = failure.reportedAs inner := by
    cases failure with
    | fault cause => cases h : cause.isMisfit <;> simp [Failure.reportedAs, h]
    | _ => rfl
  funext world
  rcases hreport : run world with ⟨failure | a, events, after⟩
  · rw [guard_of_error (guard_of_error hreport), guard_of_error hreport, hreported]
  · rw [guard_of_ok (guard_of_ok hreport), guard_of_ok hreport]

-- Only running out of levels is left to be guarded, and that is no misfit.
theorem guard_outcome (run : Run α) : run.outcome.guard problem = run.outcome := by
  funext world
  rcases hreport : run world with ⟨result, events, after⟩
  by_cases hdeep : result = .error .tooDeep
  · subst hdeep
    rw [guard_of_error (outcome_of_tooDeep hreport), outcome_of_tooDeep hreport]
    rfl
  · rw [guard_of_ok (outcome_of_ne hdeep hreport), outcome_of_ne hdeep hreport]

end Guards

end Run

namespace Script

variable {α β : Type} {resolve : Request → Run Value} {registered : String → Bool}

theorem run_guard (script : Script α) (problem : DomainProblem) :
    (script.guard problem).run resolve registered =
      (script.run resolve registered).guard problem := by
  induction script with
  | done | fail => rfl
  | resolve _ _ ih => simp only [guard, run, Run.guard_bind, ih]
  | guarded _ _ _ ih => simp only [guard, run, Run.guard_bind, Run.guard_guard, ih]
  | attempt _ _ ih => simp only [guard, run, Run.guard_bind, Run.guard_outcome, ih]
  | recognize _ _ ih => exact ih _
  | log _ _ ih | random _ _ ih | now _ ih =>
    simp only [guard, run, Run.guard_bind, ih]
    rfl

theorem returns_of_mem_keep {test : α → Script Bool} {items kept : List α}
    (h : ((keep test items).run resolve registered).Returns kept) :
    ∀ item ∈ kept, ((test item).run resolve registered).Returns true := by
  induction items generalizing kept with
  | nil =>
    obtain rfl := h.eq_of_done
    simp
  | cons item rest ih =>
    simp only [keep, run_bind] at h
    obtain ⟨passes, hpasses, h⟩ := h.of_bind
    obtain ⟨others, hothers, h⟩ := h.of_bind
    obtain rfl := h.eq_of_done
    cases passes
    · exact ih hothers
    · exact List.forall_mem_cons.mpr ⟨hpasses, ih hothers⟩

theorem failsOnly_each {allowed : Failure → Prop} {step : α → Script β} {items : List α}
    (h : ∀ item ∈ items, ((step item).run resolve registered).FailsOnly allowed) :
    ((each step items).run resolve registered).FailsOnly allowed := by
  induction items with
  | nil =>
    intro _ _ hfailure
    cases hfailure
  | cons item rest ih =>
    obtain ⟨hitem, hrest⟩ := List.forall_mem_cons.mp h
    simp only [each, run_bind]
    refine hitem.bind fun result => (ih hrest).bind fun results => ?_
    intro _ _ hfailure
    cases hfailure

end Script

end JsonExpr
