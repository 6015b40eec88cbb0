import JsonExpr.Script

-- What scripts may ask. A script stays within limits if it does so whatever is answered; what it
-- ends with can then be described by a condition on its results.
namespace JsonExpr

-- The values that a script may have resolved, those that it may ask about, and the failures it may
-- end with on its own. The registered names settle what is answered about expressions.
structure Limits where
  registered : String → Bool
  resolves : Value → Prop
  recognizes : Value → Prop
  fails : Failure → Prop
  -- whether it may report misfits on the way as problems of its own
  guards : Prop
  -- whether it may use chance and the clock
  draws : Prop
  -- whether it may go on after a failure
  recovers : Prop

-- No limits but the answers about expressions.
def Limits.none (registered : String → Bool) : Limits where
  registered
  resolves _ := True
  recognizes _ := True
  fails _ := True
  guards := True
  draws := True
  recovers := True

-- Limits that allow whatever others allow.
structure Limits.Wider (wider limits : Limits) : Prop where
  registered : wider.registered = limits.registered
  resolves : ∀ value, limits.resolves value → wider.resolves value
  recognizes : ∀ value, limits.recognizes value → wider.recognizes value
  fails : ∀ failure, limits.fails failure → wider.fails failure
  guards : limits.guards → wider.guards
  draws : limits.draws → wider.draws
  recovers : limits.recovers → wider.recovers

@[simp] theorem Request.expression_apply (expression input : Value) :
    (Request.apply expression input).expression = expression := rfl

@[simp] theorem Request.expression_evaluate (expression : Value) :
    (Request.evaluate expression).expression = expression := rfl

namespace Script

variable {α β : Type} {limits : Limits}

def Within (limits : Limits) (post : α → Prop) : Script α → Prop
  | .done result => post result
  | .fail failure => limits.fails failure
  | .resolve request next =>
    limits.resolves request.expression ∧ ∀ value, (next value).Within limits post
  | .guarded problem request next =>
    (limits.guards ∧ limits.fails (.domain problem)) ∧
      limits.resolves request.expression ∧ ∀ value, (next value).Within limits post
  | .attempt request next =>
    limits.recovers ∧
      limits.resolves request.expression ∧ ∀ outcome, (next outcome).Within limits post
  | .recognize value next =>
    limits.recognizes value ∧ (next (value.namesOne limits.registered)).Within limits post
  | .log _ next => next.Within limits post
  | .random _ next => limits.draws ∧ ∀ n, (next n).Within limits post
  | .now next => limits.draws ∧ ∀ moment, (next moment).Within limits post

@[simp] theorem within_done (post : α → Prop) (a : α) :
    (done a).Within limits post ↔ post a := Iff.rfl

@[simp] theorem within_pure (post : α → Prop) (a : α) :
    (pure a : Script α).Within limits post ↔ post a := Iff.rfl

@[simp] theorem within_invalidOperand (post : α → Prop) (problem : OperandProblem) :
    (invalidOperand problem).Within limits post ↔ limits.fails (.operand problem) := Iff.rfl

@[simp] theorem within_outsideDomain (post : α → Prop) (problem : DomainProblem) :
    (outsideDomain problem).Within limits post ↔ limits.fails (.domain problem) := Iff.rfl

@[simp] theorem within_isExpression (post : Bool → Prop) (value : Value) :
    (isExpression value).Within limits post ↔
      limits.recognizes value ∧ post (value.namesOne limits.registered) := Iff.rfl

-- What comes after a script starts from the results of the script only.
@[simp] theorem within_bind (post : β → Prop) (script : Script α) (f : α → Script β) :
    (script >>= f).Within limits post ↔
      script.Within limits fun a => (f a).Within limits post := by
  change (script.bind f).Within limits post ↔ _
  induction script with
  | done | fail => rfl
  | resolve _ _ ih => exact and_congr_right' (forall_congr' ih)
  | guarded _ _ _ ih | attempt _ _ ih =>
    exact and_congr_right' (and_congr_right' (forall_congr' ih))
  | recognize _ _ ih => exact and_congr_right' (ih _)
  | log _ _ ih => exact ih
  | random _ _ ih | now _ ih => exact and_congr_right' (forall_congr' ih)

@[simp] theorem within_map (post : β → Prop) (script : Script α) (f : α → β) :
    (f <$> script).Within limits post ↔ script.Within limits fun a => post (f a) := by
  rw [map_eq_pure_bind, within_bind]
  rfl

theorem within_apply_bind {post : β → Prop} {next : Value → Script β} {expression input : Value}
    (hresolves : limits.resolves expression)
    (h : ∀ value, (next value).Within limits post) :
    (apply expression input >>= next).Within limits post := ⟨hresolves, h⟩

theorem within_evaluate_bind {post : β → Prop} {next : Value → Script β} {expression : Value}
    (hresolves : limits.resolves expression)
    (h : ∀ value, (next value).Within limits post) :
    (evaluate expression >>= next).Within limits post := ⟨hresolves, h⟩

theorem Within.mono {post weaker : α → Prop} {script : Script α}
    (h : script.Within limits post) (himp : ∀ a, post a → weaker a) :
    script.Within limits weaker := by
  induction script with
  | done a => exact himp a h
  | fail => exact h
  | guarded _ _ _ ih | attempt _ _ ih => exact ⟨h.1, h.2.1, fun x => ih x (h.2.2 x)⟩
  | recognize _ _ ih => exact ⟨h.1, ih _ h.2⟩
  | log _ _ ih => exact ih h
  | resolve _ _ ih | random _ _ ih | now _ ih => exact ⟨h.1, fun x => ih x (h.2 x)⟩

theorem Within.widen {wider : Limits} {post : α → Prop} {script : Script α}
    (h : script.Within limits post) (hwider : wider.Wider limits) : script.Within wider post := by
  induction script with
  | done => exact h
  | fail => exact hwider.fails _ h
  | resolve _ _ ih => exact ⟨hwider.resolves _ h.1, fun value => ih value (h.2 value)⟩
  | guarded _ _ _ ih =>
    exact ⟨⟨hwider.guards h.1.1, hwider.fails _ h.1.2⟩, hwider.resolves _ h.2.1,
      fun value => ih value (h.2.2 value)⟩
  | attempt _ _ ih =>
    exact ⟨hwider.recovers h.1, hwider.resolves _ h.2.1, fun outcome => ih outcome (h.2.2 outcome)⟩
  | recognize _ _ ih => exact ⟨hwider.recognizes _ h.1, ih _ (hwider.registered ▸ h.2)⟩
  | log _ _ ih => exact ih h
  | random _ _ ih | now _ ih => exact ⟨hwider.draws h.1, fun x => ih x (h.2 x)⟩

-- A guard needs leave to report the problem.
theorem within_guard {post : α → Prop} {script : Script α} {problem : DomainProblem}
    (h : script.Within limits post) (hguards : limits.guards)
    (hproblem : limits.fails (.domain problem)) : (script.guard problem).Within limits post := by
  induction script with
  | done => exact h
  | fail failure =>
    cases failure with
    | fault cause =>
      simp only [guard, Failure.reportedAs]
      split
      · exact hproblem
      · exact h
    | _ => exact h
  | resolve _ _ ih => exact ⟨⟨hguards, hproblem⟩, h.1, fun value => ih value (h.2 value)⟩
  | guarded _ _ _ ih | attempt _ _ ih => exact ⟨h.1, h.2.1, fun x => ih x (h.2.2 x)⟩
  | recognize _ _ ih => exact ⟨h.1, ih _ h.2⟩
  | log _ _ ih => exact ih h
  | random _ _ ih | now _ ih => exact ⟨h.1, fun x => ih x (h.2 x)⟩

theorem within_none (registered : String → Bool) (script : Script α) :
    script.Within (.none registered) fun _ => True := by
  induction script with
  | done | fail => trivial
  | resolve _ _ ih | random _ _ ih | now _ ih => exact ⟨trivial, ih⟩
  | guarded _ _ _ ih => exact ⟨⟨trivial, trivial⟩, trivial, ih⟩
  | attempt _ _ ih => exact ⟨trivial, trivial, ih⟩
  | recognize _ _ ih => exact ⟨trivial, ih _⟩
  | log _ _ ih => exact ih

section Loops

variable {items : List α}

theorem within_each {step : α → Script β}
    (h : ∀ item ∈ items, (step item).Within limits fun _ => True) :
    (each step items).Within limits fun _ => True := by
  induction items with
  | nil => trivial
  | cons item rest ih =>
    obtain ⟨hitem, hrest⟩ := List.forall_mem_cons.mp h
    simp only [each, within_bind, within_pure]
    exact hitem.mono fun _ _ => ih hrest

theorem within_keep {test : α → Script Bool}
    (h : ∀ item ∈ items, (test item).Within limits fun _ => True) :
    (keep test items).Within limits fun _ => True := by
  induction items with
  | nil => trivial
  | cons item rest ih =>
    obtain ⟨hitem, hrest⟩ := List.forall_mem_cons.mp h
    simp only [keep, within_bind, within_pure]
    exact hitem.mono fun _ _ => ih hrest

theorem within_first? {test : α → Script Bool}
    (h : ∀ item ∈ items, (test item).Within limits fun _ => True) :
    (first? test items).Within limits fun _ => True := by
  induction items with
  | nil => trivial
  | cons item rest ih =>
    obtain ⟨hitem, hrest⟩ := List.forall_mem_cons.mp h
    simp only [first?, within_bind]
    refine hitem.mono fun passes _ => ?_
    cases passes
    · exact ih hrest
    · trivial

theorem within_every {test : α → Script Bool}
    (h : ∀ item ∈ items, (test item).Within limits fun _ => True) :
    (every test items).Within limits fun _ => True := by
  induction items with
  | nil => trivial
  | cons item rest ih =>
    obtain ⟨hitem, hrest⟩ := List.forall_mem_cons.mp h
    simp only [every, within_bind]
    refine hitem.mono fun passes _ => ?_
    cases passes
    · trivial
    · exact ih hrest

theorem within_any {test : α → Script Bool}
    (h : ∀ item ∈ items, (test item).Within limits fun _ => True) :
    (any test items).Within limits fun _ => True := by
  induction items with
  | nil => trivial
  | cons item rest ih =>
    obtain ⟨hitem, hrest⟩ := List.forall_mem_cons.mp h
    simp only [any, within_bind]
    refine hitem.mono fun passes _ => ?_
    cases passes
    · exact ih hrest
    · trivial

theorem within_fold {step : β → α → Script β} {start : β}
    (h : ∀ item ∈ items, ∀ acc, (step acc item).Within limits fun _ => True) :
    (fold step start items).Within limits fun _ => True := by
  induction items generalizing start with
  | nil => trivial
  | cons item rest ih =>
    obtain ⟨hitem, hrest⟩ := List.forall_mem_cons.mp h
    simp only [fold, within_bind]
    exact (hitem start).mono fun _ _ => ih hrest

end Loops

end Script

end JsonExpr
