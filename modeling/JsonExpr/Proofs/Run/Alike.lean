import JsonExpr.Proofs.Run.Congruence

-- Runs that a caller cannot tell apart, up to how failures are compared: they have the same result,
-- leave the surroundings in the same state, and write the same log, lines for debugging left out.
namespace JsonExpr

variable {α β : Type} {similar : Failure → Failure → Prop}

instance : Std.Refl (Eq : Failure → Failure → Prop) := ⟨fun _ => rfl⟩

inductive SimilarResults (similar : Failure → Failure → Prop) :
    Except Failure α → Except Failure α → Prop where
  | ok (a : α) : SimilarResults similar (.ok a) (.ok a)
  | error {failure failure' : Failure} (h : similar failure failure') :
      SimilarResults similar (.error failure) (.error failure')

@[simp] theorem similarResults_eq_iff {result result' : Except Failure α} :
    SimilarResults Eq result result' ↔ result = result' := by
  constructor
  · rintro (_ | ⟨rfl⟩) <;> rfl
  · rintro rfl
    cases result
    · exact .error rfl
    · exact .ok _

structure Report.Alike (similar : Failure → Failure → Prop) (report report' : Report α) :
    Prop where
  result : SimilarResults similar report.result report'.result
  after : report.after = report'.after
  log : Event.log false report.events = Event.log false report'.events

theorem Event.log_append (debugging : Bool) (events more : List Event) :
    log debugging (events ++ more) = log debugging events ++ log debugging more :=
  List.filterMap_append

namespace Run

def Alike (similar : Failure → Failure → Prop) (run run' : Run α) : Prop :=
  ∀ world, (run world).Alike similar (run' world)

-- A value that a run may return.
def Returns (run : Run α) (a : α) : Prop := ∃ world, (run world).result = .ok a

theorem Returns.eq_of_done {a b : α} (h : (done a : Run α).Returns b) : b = a := by
  obtain ⟨world, hworld⟩ := h
  exact (Except.ok.inj hworld).symm

theorem Returns.of_bind {run : Run α} {f : α → Run β} {b : β} (h : (run.bind f).Returns b) :
    ∃ a, run.Returns a ∧ (f a).Returns b := by
  obtain ⟨world, hworld⟩ := h
  rcases hreport : run world with ⟨failure | a, events, after⟩
  · rw [bind_of_error hreport] at hworld
    cases hworld
  · rw [bind_of_ok hreport] at hworld
    exact ⟨a, ⟨world, by rw [hreport]⟩, after, hworld⟩

theorem Alike.bind {run run' : Run α} {f f' : α → Run β} (h : Alike similar run run')
    (hf : ∀ a, run.Returns a → Alike similar (f a) (f' a)) :
    Alike similar (run.bind f) (run'.bind f') := by
  intro world
  obtain ⟨hresult, hafter, hlog⟩ := h world
  rcases hreport : run world with ⟨failure | a, events, after⟩ <;>
    rcases hreport' : run' world with ⟨failure' | a', events', after'⟩ <;>
    rw [hreport, hreport'] at hresult hafter hlog <;> cases hresult <;> cases hafter
  · next hsimilar =>
    rw [bind_of_error hreport, bind_of_error hreport']
    exact ⟨.error hsimilar, rfl, hlog⟩
  · obtain ⟨hresult, hafter, hrest⟩ := hf a ⟨world, by rw [hreport]⟩ after
    rw [bind_of_ok hreport, bind_of_ok hreport']
    refine ⟨hresult, hafter, ?_⟩
    simp only [Event.log_append, hlog, hrest]

-- A run that only returns a value can be left out.
theorem Alike.bind_left {run : Run α} {run' : Run β} {a : α} {f : α → Run β}
    (h : Alike similar run (done a)) (hf : Alike similar (f a) run') :
    Alike similar (run.bind f) run' := by
  intro world
  obtain ⟨hresult, hafter, hlog⟩ := h world
  rcases hreport : run world with ⟨result, events, after⟩
  rw [hreport] at hresult hafter hlog
  cases hresult
  cases hafter
  obtain ⟨hresult, hafter, hrest⟩ := hf world
  rw [bind_of_ok hreport]
  refine ⟨hresult, hafter, ?_⟩
  rw [Event.log_append, hlog, ← hrest]
  rfl

theorem Alike.bind_right {run : Run α} {run' : Run β} {a : α} {f : α → Run β}
    (h : Alike similar run (done a)) (hf : Alike similar run' (f a)) :
    Alike similar run' (run.bind f) := by
  intro world
  obtain ⟨hresult, hafter, hlog⟩ := h world
  rcases hreport : run world with ⟨result, events, after⟩
  rw [hreport] at hresult hafter hlog
  cases hresult
  cases hafter
  obtain ⟨hresult, hafter, hrest⟩ := hf world
  rw [bind_of_ok hreport]
  refine ⟨hresult, hafter, ?_⟩
  rw [Event.log_append, hlog, hrest]
  rfl

-- A dispatch leaves no trace but lines for debugging.
theorem note_dispatching_alike (name : String) (mode : Mode) :
    Alike similar (note (.dispatching name mode)) (done ()) := fun _ => ⟨.ok _, rfl, rfl⟩

theorem Alike.result_of_done {run : Run α} {a : α} (h : Alike similar run (done a))
    (world : Surroundings) : (run world).result = .ok a := by
  have hresult := (h world).result
  generalize (run world).result = result at hresult
  cases hresult
  rfl

section Laws

variable [Std.Refl similar]

theorem Alike.refl (run : Run α) : Alike similar run run := by
  intro world
  refine ⟨?_, rfl, rfl⟩
  cases (run world).result
  · exact .error (Std.Refl.refl _)
  · exact .ok _

theorem Alike.of_done {run run' : Run α} {a : α} (h : Alike similar run (done a))
    (h' : Alike similar run' (done a)) : Alike similar run run' := by
  rw [← bind_pure run, ← bind_pure run']
  exact h.bind_left (h'.bind_right (.refl _))

-- Runs that only return a value are alike if it is the same.
theorem Alike.iff_of_done {run run' : Run α} {a a' : α} (h : Alike similar run (done a))
    (h' : Alike similar run' (done a')) (world : Surroundings) :
    (run world).Alike similar (run' world) ↔ a = a' := by
  constructor
  · rintro ⟨hresult, -, -⟩
    rw [h.result_of_done, h'.result_of_done] at hresult
    cases hresult
    rfl
  · rintro rfl
    exact h.of_done h' world

-- The relation as a congruence, for scripts and templates that are the same on both sides.
def alikeness (similar : Failure → Failure → Prop) [Std.Refl similar] : Run.Congruence where
  Related := Alike similar
  Fails _ := True
  Notes _ := True
  Guards := ∀ {failure failure'} problem, similar failure failure' →
    similar (failure.reportedAs problem) (failure'.reportedAs problem)
  Draws := True
  Recovers := ∀ {failure failure'}, similar failure failure' → failure = failure'
  done _ := Alike.refl _
  fail _ := Alike.refl _
  bind h hf := h.bind fun a _ => hf a
  debugged _ := trivial
  note _ := Alike.refl _
  guard {_ run run' problem} hguards _ h world := by
    obtain ⟨hresult, hafter, hlog⟩ := h world
    refine ⟨?_, hafter, hlog⟩
    change SimilarResults similar ((run world).result.mapError _) ((run' world).result.mapError _)
    generalize (run world).result = result at hresult ⊢
    generalize (run' world).result = result' at hresult ⊢
    cases hresult with
    | ok a => exact .ok a
    | error hsimilar => exact .error (hguards problem hsimilar)
  random _ _ := Alike.refl _
  now _ := Alike.refl _
  outcome {_ run run'} hrecovers h world := by
    obtain ⟨hresult, hafter, hlog⟩ := h world
    rcases hreport : run world with ⟨result, events, after⟩
    rcases hreport' : run' world with ⟨result', events', after'⟩
    rw [hreport, hreport'] at hresult hafter hlog
    have heq : result = result' := by
      cases hresult with
      | ok => rfl
      | error hsimilar => rw [hrecovers hsimilar]
    subst heq
    by_cases hdeep : result = .error .tooDeep
    · subst hdeep
      rw [outcome_of_tooDeep hreport, outcome_of_tooDeep hreport']
      cases hresult with
      | error hsimilar => exact ⟨.error hsimilar, hafter, hlog⟩
    · rw [outcome_of_ne hdeep hreport, outcome_of_ne hdeep hreport']
      exact ⟨.ok _, hafter, hlog⟩

end Laws

end Run

section Loops

variable [Std.Refl similar] {resolve resolve' : Request → Run Value} {registered : String → Bool}
  {test test' : α → Script Bool} {items : List α}
  (h : ∀ item ∈ items, Run.Alike similar ((test item).run resolve registered)
    ((test' item).run resolve' registered))

include h

theorem Script.every_alike : Run.Alike similar ((every test items).run resolve registered)
    ((every test' items).run resolve' registered) := by
  induction items with
  | nil => exact Run.Alike.refl _
  | cons item rest ih =>
    obtain ⟨hitem, hrest⟩ := List.forall_mem_cons.mp h
    simp only [every, Script.run_bind]
    refine hitem.bind fun passes _ => ?_
    cases passes
    · exact Run.Alike.refl _
    · exact ih hrest

theorem Script.any_alike : Run.Alike similar ((any test items).run resolve registered)
    ((any test' items).run resolve' registered) := by
  induction items with
  | nil => exact Run.Alike.refl _
  | cons item rest ih =>
    obtain ⟨hitem, hrest⟩ := List.forall_mem_cons.mp h
    simp only [any, Script.run_bind]
    refine hitem.bind fun passes _ => ?_
    cases passes
    · exact ih hrest
    · exact Run.Alike.refl _

theorem Script.keep_alike_keep : Run.Alike similar ((keep test items).run resolve registered)
    ((keep test' items).run resolve' registered) := by
  induction items with
  | nil => exact Run.Alike.refl _
  | cons item rest ih =>
    obtain ⟨hitem, hrest⟩ := List.forall_mem_cons.mp h
    simp only [keep, Script.run_bind]
    exact hitem.bind fun _ _ => (ih hrest).bind fun _ _ => Run.Alike.refl _

end Loops

theorem Script.each_alike [Std.Refl similar] {resolve resolve' : Request → Run Value}
    {registered : String → Bool} {step step' : α → Script β} {items : List α}
    (h : ∀ item ∈ items, Run.Alike similar ((step item).run resolve registered)
      ((step' item).run resolve' registered)) :
    Run.Alike similar ((each step items).run resolve registered)
      ((each step' items).run resolve' registered) := by
  induction items with
  | nil => exact Run.Alike.refl _
  | cons item rest ih =>
    obtain ⟨hitem, hrest⟩ := List.forall_mem_cons.mp h
    simp only [each, Script.run_bind]
    exact hitem.bind fun _ _ => (ih hrest).bind fun _ _ => Run.Alike.refl _

section Answers

variable {resolve : Request → Run Value} {registered : String → Bool} {test : α → Script Bool}
  {passes : α → Bool} {items : List α}

-- The items that pass a test which only answers.
theorem Script.keep_alike [Std.Refl similar]
    (h : ∀ item ∈ items,
      Run.Alike similar ((test item).run resolve registered) (.done (passes item))) :
    Run.Alike similar ((keep test items).run resolve registered) (.done (items.filter passes)) := by
  induction items with
  | nil => exact .refl _
  | cons item rest ih =>
    obtain ⟨hitem, hrest⟩ := List.forall_mem_cons.mp h
    rw [keep, run_bind, List.filter_cons]
    refine hitem.bind_left ?_
    rw [run_bind]
    refine (ih hrest).bind_left ?_
    cases passes item <;> exact .refl _

-- The first of them.
theorem Script.run_first? (passes : α → Bool)
    (h : ∀ item ∈ items, (test item).run resolve registered = .done (passes item)) :
    (first? test items).run resolve registered = .done (items.find? passes) := by
  induction items with
  | nil => rfl
  | cons item rest ih =>
    obtain ⟨hitem, hrest⟩ := List.forall_mem_cons.mp h
    rw [first?, run_bind, hitem, Run.bind_done, List.find?_cons]
    cases passes item
    · exact ih hrest
    · rfl

-- Whether all of them pass.
theorem Script.run_every (passes : α → Bool)
    (h : ∀ item ∈ items, (test item).run resolve registered = .done (passes item)) :
    (every test items).run resolve registered = .done (items.all passes) := by
  induction items with
  | nil => rfl
  | cons item rest ih =>
    obtain ⟨hitem, hrest⟩ := List.forall_mem_cons.mp h
    rw [every, run_bind, hitem, Run.bind_done, List.all_cons]
    cases passes item
    · rfl
    · exact ih hrest

theorem Script.run_every_singleton (test : α → Script Bool) (item : α) :
    (every test [item]).run resolve registered = (test item).run resolve registered := by
  rw [every, run_bind, ← Run.bind_pure ((test item).run resolve registered), Run.bind_assoc]
  congr
  funext passes
  cases passes <;> rfl

end Answers

end JsonExpr
