import JsonExpr.Proofs.Run.Steady
import Mathlib.Data.List.Forall2

-- Runs that come to the same whatever their surroundings are, and loops over steps that do.
namespace JsonExpr

namespace Run

variable {α β : Type} {run : Run α} {a : α}

-- Chance and the clock may be asked, and events may be left, but the result is always the value.
def Yields (run : Run α) (a : α) : Prop := ∀ world, (run world).result = .ok a

theorem yields_done (a : α) : (done a).Yields a := fun _ => rfl

theorem yields_note (event : Event) : (note event).Yields () := fun _ => rfl

-- What happens after a run that has returned in some surroundings does not depend on what it has
-- left there, if the rest always comes to the same.
theorem forall_result_bind {motive : Except Failure β → Prop} {f : α → Run β}
    {world : Surroundings} (h : (run world).result = .ok a)
    (hf : ∀ after, motive (f a after).result) : motive (run.bind f world).result := by
  rcases hreport : run world with ⟨result, events, after⟩
  rw [hreport] at h
  subst h
  rw [bind_of_ok hreport]
  exact hf after

theorem result_bind_of_result_ok {f : α → Run β} {world : Surroundings}
    {outcome : Except Failure β} (h : (run world).result = .ok a)
    (hf : ∀ after, (f a after).result = outcome) : (run.bind f world).result = outcome :=
  forall_result_bind (motive := (· = outcome)) h hf

theorem result_note_bind (event : Event) (f : Unit → Run β) (world : Surroundings) :
    ((note event).bind f world).result = (f () world).result := rfl

theorem result_ofExcept (outcome : Except Failure α) (world : Surroundings) :
    (ofExcept outcome world).result = outcome := by cases outcome <;> rfl

theorem Yields.bind {f : α → Run β} {b : β} (h : run.Yields a) (hf : (f a).Yields b) :
    (run.bind f).Yields b := fun world => result_bind_of_result_ok (h world) hf

theorem Yields.guard (h : run.Yields a) (problem : DomainProblem) :
    (run.guard problem).Yields a := by
  intro world
  rw [Run.guard, h world]
  rfl

theorem yields_done_iff {b : α} : (done a).Yields b ↔ a = b := by
  refine ⟨fun h => Except.ok.inj (h ⟨mkStdGen 0, default⟩), ?_⟩
  rintro rfl
  exact yields_done a

theorem not_yields_fail (failure : Failure) : ¬(fail failure : Run α).Yields a :=
  fun h => nomatch h ⟨mkStdGen 0, default⟩

-- Whatever the run comes to, a value or a failure, it is the same in all surroundings.
def Settled (run : Run α) : Prop := ∀ world world', (run world).result = (run world').result

theorem Steady.settled (h : run.Steady) : run.Settled := by
  obtain ⟨result, events, hrun⟩ := h
  intro world world'
  rw [hrun, hrun]

theorem settled_done (a : α) : (done a).Settled := fun _ _ => rfl

theorem settled_fail (failure : Failure) : (fail failure : Run α).Settled := fun _ _ => rfl

-- What it returns once it always returns.
theorem Settled.yields_iff (h : run.Settled) (world : Surroundings) :
    run.Yields a ↔ (run world).result = .ok a :=
  ⟨fun hyields => hyields world, fun hresult world' => (h world' world).trans hresult⟩

theorem Settled.bind {f : α → Run β} (h : run.Settled) (hf : ∀ a, (f a).Settled) :
    (run.bind f).Settled := by
  intro world world'
  cases hresult : (run world).result with
  | error failure =>
    rw [result_bind_of_error hresult, result_bind_of_error ((h world' world).trans hresult)]
  | ok a =>
    refine result_bind_of_result_ok hresult fun after => ?_
    exact (result_bind_of_result_ok ((h world' world).trans hresult) fun _ => hf a _ after).symm

theorem Settled.yields_bind_iff {f : α → Run β} {b : β} (h : run.Settled)
    (hf : ∀ a, (f a).Settled) : (run.bind f).Yields b ↔ ∃ a, run.Yields a ∧ (f a).Yields b := by
  constructor
  · intro hyields
    have hresult := hyields ⟨mkStdGen 0, default⟩
    cases hfirst : (run ⟨mkStdGen 0, default⟩).result with
    | error failure =>
      rw [result_bind_of_error hfirst] at hresult
      cases hresult
    | ok a =>
      have ha : run.Yields a := (h.yields_iff _).mpr hfirst
      refine ⟨a, ha, fun world => ?_⟩
      rw [← hresult]
      exact (result_bind_of_result_ok hfirst fun after => hf a after world).symm
  · rintro ⟨a, ha, hb⟩
    exact ha.bind hb

-- A run that settles, and the values that it may settle on.
structure ComesTo (run : Run α) (values : α → Prop) : Prop where
  settled : run.Settled
  yields_iff : ∀ a, run.Yields a ↔ values a

section ComesTo

variable {values : α → Prop}

theorem Settled.comesTo (h : run.Settled) : run.ComesTo run.Yields := ⟨h, fun _ => .rfl⟩

theorem comesTo_done (a : α) : (done a).ComesTo (a = ·) :=
  ⟨settled_done a, fun _ => yields_done_iff⟩

theorem comesTo_fail (failure : Failure) : (fail failure : Run α).ComesTo fun _ => False :=
  ⟨settled_fail failure, fun _ => iff_of_false (not_yields_fail failure) id⟩

theorem ComesTo.congr {values' : α → Prop} (h : run.ComesTo values)
    (hvalues : ∀ a, values a ↔ values' a) : run.ComesTo values' :=
  ⟨h.settled, fun a => (h.yields_iff a).trans (hvalues a)⟩

theorem ComesTo.bind {f : α → Run β} {results : α → β → Prop} (h : run.ComesTo values)
    (hf : ∀ a, (f a).ComesTo (results a)) :
    (run.bind f).ComesTo fun b => ∃ a, values a ∧ results a b := by
  refine ⟨h.settled.bind fun a => (hf a).settled, fun b => ?_⟩
  rw [h.settled.yields_bind_iff fun a => (hf a).settled]
  simp only [h.yields_iff, (hf _).yields_iff]

theorem ComesTo.note_bind {f : Unit → Run β} {results : β → Prop} (event : Event)
    (h : (f ()).ComesTo results) : ((note event).bind f).ComesTo results :=
  ⟨fun world world' => h.settled world world', fun b => h.yields_iff b⟩

-- Two runs that may settle on the same values return the same in any surroundings.
theorem ComesTo.result_iff {run' : Run α} (h : run.ComesTo values) (h' : run'.ComesTo values)
    (world world' : Surroundings) (a : α) :
    (run world).result = .ok a ↔ (run' world').result = .ok a := by
  rw [← h.settled.yields_iff, ← h'.settled.yields_iff, h.yields_iff, h'.yields_iff]

end ComesTo

end Run

namespace Script

variable {α β : Type} {resolve : Request → Run Value} {registered : String → Bool} {items : List α}

theorem yields_keep {test : α → Script Bool} {passes : α → Bool}
    (h : ∀ item ∈ items, ((test item).run resolve registered).Yields (passes item)) :
    ((keep test items).run resolve registered).Yields (items.filter passes) := by
  induction items with
  | nil => exact Run.yields_done []
  | cons item rest ih =>
    obtain ⟨hitem, hrest⟩ := List.forall_mem_cons.mp h
    rw [keep, run_bind, List.filter_cons]
    refine hitem.bind ?_
    rw [run_bind]
    exact (ih hrest).bind (Run.yields_done _)

theorem yields_each {step : α → Script β} {result : α → β}
    (h : ∀ item ∈ items, ((step item).run resolve registered).Yields (result item)) :
    ((each step items).run resolve registered).Yields (items.map result) := by
  induction items with
  | nil => exact Run.yields_done []
  | cons item rest ih =>
    obtain ⟨hitem, hrest⟩ := List.forall_mem_cons.mp h
    rw [each, run_bind]
    refine hitem.bind ?_
    rw [run_bind]
    exact (ih hrest).bind (Run.yields_done _)

-- An invariant of the accumulator makes every step of a fold yield.
theorem yields_fold {step : β → α → Script β} {result : β → α → β} (invariant : β → Prop)
    {start : β} (hstart : invariant start)
    (h : ∀ acc, invariant acc → ∀ item ∈ items, invariant (result acc item) ∧
      ((step acc item).run resolve registered).Yields (result acc item)) :
    ((fold step start items).run resolve registered).Yields (items.foldl result start) := by
  induction items generalizing start with
  | nil => exact Run.yields_done start
  | cons item rest ih =>
    obtain ⟨hinvariant, hitem⟩ := h start hstart item List.mem_cons_self
    rw [fold, run_bind, List.foldl_cons]
    exact hitem.bind (ih hinvariant fun acc hacc other hmem =>
      h acc hacc other (List.mem_cons_of_mem item hmem))

section ComesTo

theorem comesTo_each {step : α → Script β} {relation : α → β → Prop}
    (h : ∀ item ∈ items, ((step item).run resolve registered).ComesTo (relation item)) :
    ((each step items).run resolve registered).ComesTo (List.Forall₂ relation items) := by
  induction items with
  | nil => exact (Run.comesTo_done []).congr fun results => by simp [eq_comm]
  | cons item rest ih =>
    obtain ⟨hitem, hrest⟩ := List.forall_mem_cons.mp h
    simp only [each, run_bind]
    refine (hitem.bind fun _ => (ih hrest).bind fun _ => Run.comesTo_done _).congr fun results => ?_
    rw [List.forall₂_cons_left_iff]
    constructor
    · rintro ⟨result, hresult, others, hothers, rfl⟩
      exact ⟨result, others, hresult, hothers, rfl⟩
    · rintro ⟨result, others, hresult, hothers, rfl⟩
      exact ⟨result, hresult, others, hothers, rfl⟩

-- Which items are kept, if a relation tells which of them pass.
inductive Keeps (passes : α → Bool → Prop) : List α → List α → Prop where
  | nil : Keeps passes [] []
  | cons {item : α} {pass : Bool} {rest kept : List α} (h : passes item pass)
    (hrest : Keeps passes rest kept) :
    Keeps passes (item :: rest) (if pass then item :: kept else kept)

theorem comesTo_keep {test : α → Script Bool} {passes : α → Bool → Prop}
    (h : ∀ item ∈ items, ((test item).run resolve registered).ComesTo (passes item)) :
    ((keep test items).run resolve registered).ComesTo (Keeps passes items) := by
  induction items with
  | nil =>
    refine (Run.comesTo_done []).congr fun kept => ⟨?_, ?_⟩
    · rintro rfl
      exact .nil
    · rintro ⟨⟩
      rfl
  | cons item rest ih =>
    obtain ⟨hitem, hrest⟩ := List.forall_mem_cons.mp h
    simp only [keep, run_bind]
    refine (hitem.bind fun _ => (ih hrest).bind fun _ => Run.comesTo_done _).congr fun kept => ?_
    constructor
    · rintro ⟨pass, hpass, others, hothers, rfl⟩
      exact .cons hpass hothers
    · rintro (_ | ⟨hpass, hothers⟩)
      exact ⟨_, hpass, _, hothers, rfl⟩

end ComesTo

end Script

end JsonExpr
