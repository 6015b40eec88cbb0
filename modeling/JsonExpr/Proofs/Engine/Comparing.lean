import JsonExpr.Proofs.Engine.Nesting
import JsonExpr.Proofs.Run.Alike

-- Comparing what an engine does from the outside. Every request starts with levels of dispatches of
-- its own, so that runs which are alike level by level can differ when levels run out. Built-in
-- operations never let them run out.
namespace JsonExpr

variable {α β : Type}

namespace Engine

variable {engine : Engine}

-- A run from the outside, and what it is with some number of levels for each of its requests. It is
-- the same from some number on, unless levels run out.
structure Leveled (engine : Engine) (enough : Nat) (run : Run α) (given : Nat → Run α) : Prop where
  deepens : ∀ levels, enough ≤ levels → run.Deepens (given levels)
  finishes : engine.BuiltIn → run.FailsOnly (· ≠ .tooDeep)

theorem resolve_leveled (hplain : engine.middleware = []) (request : Request) {enough : Nat}
    (henough : request.expression.depth + allowance ≤ enough) :
    engine.Leveled enough (engine.resolve request)
      fun levels => engine.resolveWith (engine.dispatch levels) request where
  deepens levels hlevels :=
    resolveWith_deepens (fun call => dispatch_deepens hplain (by omega) call) request
  finishes hbuiltin := hbuiltin.resolveWith_finishes hplain (Nat.le_add_right _ allowance)

theorem Leveled.bind {enough : Nat} {run : Run α} {given : Nat → Run α} {f : α → Run β}
    {given' : Nat → α → Run β} (h : engine.Leveled enough run given)
    (hf : ∀ a, engine.Leveled enough (f a) fun levels => given' levels a) :
    engine.Leveled enough (run.bind f) fun levels => (given levels).bind (given' levels) where
  deepens levels hlevels :=
    Run.deepening.bind (h.deepens levels hlevels) fun a => (hf a).deepens levels hlevels
  finishes hbuiltin := (h.finishes hbuiltin).bind fun a => (hf a).finishes hbuiltin

-- Runs that come to the same, unless levels run out in one of them, which takes operations of other
-- origin.
def AlikeUnlessDeep (engine : Engine) (run run' : Run α) : Prop :=
  ∀ world, (run world).Alike Eq (run' world) ∨
    ¬engine.BuiltIn ∧ ((run world).result = .error .tooDeep ∨ (run' world).result = .error .tooDeep)

-- The same up to how failures are compared.
def SimilarUnlessDeep (engine : Engine) (similar : Failure → Failure → Prop) (run run' : Run α) :
    Prop :=
  ∀ world, (run world).Alike similar (run' world) ∨
    ¬engine.BuiltIn ∧ ((run world).result = .error .tooDeep ∨ (run' world).result = .error .tooDeep)

-- With more levels for one of the two it can be compared with runs that need less.
theorem Leveled.more {enough : Nat} {run : Run α} {given : Nat → Run α}
    (h : engine.Leveled enough run given) (more : Nat) :
    engine.Leveled enough run fun levels => given (levels + more) where
  deepens levels hlevels := h.deepens (levels + more) (Nat.le_add_right_of_le hlevels)
  finishes := h.finishes

theorem Leveled.similarUnlessDeep {similar : Failure → Failure → Prop} {enough : Nat}
    {run run' : Run α} {given given' : Nat → Run α} (h : engine.Leveled enough run given)
    (h' : engine.Leveled enough run' given')
    (halike : Run.Alike similar (given enough) (given' enough)) :
    engine.SimilarUnlessDeep similar run run' := by
  intro world
  by_cases hdeep : (run world).result = .error .tooDeep ∨ (run' world).result = .error .tooDeep
  · refine .inr ⟨fun hbuiltin => ?_, hdeep⟩
    exact hdeep.elim (fun hfailure => h.finishes hbuiltin world _ hfailure rfl)
      fun hfailure => h'.finishes hbuiltin world _ hfailure rfl
  · obtain ⟨hdeep, hdeep'⟩ := not_or.mp hdeep
    left
    rw [← (h.deepens enough (Nat.le_refl _) world).resolve_left hdeep,
      ← (h'.deepens enough (Nat.le_refl _) world).resolve_left hdeep']
    exact halike world

theorem Leveled.alikeUnlessDeep {enough : Nat} {run run' : Run α} {given given' : Nat → Run α}
    (h : engine.Leveled enough run given) (h' : engine.Leveled enough run' given')
    (halike : Run.Alike Eq (given enough) (given' enough)) : engine.AlikeUnlessDeep run run' :=
  h.similarUnlessDeep h' halike

-- Requests that come to the same with any number of levels, but for a few that they need at least.
theorem resolve_similarUnlessDeep (hplain : engine.middleware = [])
    {similar : Failure → Failure → Prop} {request request' : Request} (least : Nat)
    (halike : ∀ levels, Run.Alike similar
      (engine.resolveWith (engine.dispatch (levels + least)) request)
      (engine.resolveWith (engine.dispatch (levels + least)) request')) :
    engine.SimilarUnlessDeep similar (engine.resolve request) (engine.resolve request') := by
  let levels := request.expression.depth + allowance + (request'.expression.depth + allowance)
  have h := resolve_leveled hplain request (by omega : _ ≤ levels + least)
  have h' := resolve_leveled hplain request' (by omega : _ ≤ levels + least)
  exact h.similarUnlessDeep h' (halike levels)

end Engine

end JsonExpr
