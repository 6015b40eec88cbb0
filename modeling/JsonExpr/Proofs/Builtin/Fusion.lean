import JsonExpr.Builtin.Packs
import JsonExpr.Proofs.Run.Yields

-- Operations over lists as relations between inputs and outputs. What two passes over a list
-- relate, one pass relates as well.
namespace JsonExpr

namespace Builtin

open Script (Keeps)

theorem find?_map : operations.find? "$map" = some map := by simp [operations, Fields.find?]

theorem find?_filter : operations.find? "$filter" = some filter := by
  simp [operations, Fields.find?]

theorem find?_and : operations.find? "$and" = some and := by simp [operations, Fields.find?]

-- A relation between lists, as one between inputs and outputs.
def OnLists (relation : List Value → List Value → Prop) (input output : Value) : Prop :=
  ∃ items results, input = .array items ∧ relation items results ∧ output = .array results

-- A relation between inputs and outputs, over the items of a list.
def Maps (relation : Value → Value → Prop) : Value → Value → Prop :=
  OnLists (List.Forall₂ relation)

-- A relation between inputs and outputs, with the outputs as answers of a test.
def Passes (relation : Value → Value → Prop) (input : Value) (pass : Bool) : Prop :=
  ∃ output, relation input output ∧ output.isTruthy = pass

def Filters (relation : Value → Value → Prop) : Value → Value → Prop :=
  OnLists (Keeps (Passes relation))

-- A test by one relation, and by another one if the first is passed.
def Conjoins (first second : Value → Value → Prop) (input output : Value) : Prop :=
  Passes first input false ∧ output = .bool false ∨
    Passes first input true ∧ ∃ pass, Passes second input pass ∧ output = .bool pass

-- One relation between lists after another.
theorem onLists_comp_iff {first second joint : List Value → List Value → Prop}
    (h : ∀ items results,
      (∃ middle, first items middle ∧ second middle results) ↔ joint items results)
    {input output : Value} :
    (∃ middle, OnLists first input middle ∧ OnLists second middle output) ↔
      OnLists joint input output := by
  constructor
  · rintro ⟨_, ⟨items, middle, rfl, hfirst, rfl⟩, _, results, heq, hsecond, rfl⟩
    obtain rfl := Value.array.inj heq
    exact ⟨items, results, rfl, (h items results).mp ⟨middle, hfirst, hsecond⟩, rfl⟩
  · rintro ⟨items, results, rfl, hjoint, rfl⟩
    obtain ⟨middle, hfirst, hsecond⟩ := (h items results).mpr hjoint
    exact ⟨.array middle, ⟨items, middle, rfl, hfirst, rfl⟩, middle, results, rfl, hsecond, rfl⟩

-- Mapping twice is mapping once by one relation after the other.
theorem forall₂_comp_iff {F G : Value → Value → Prop} {items results : List Value} :
    (∃ middle, List.Forall₂ F items middle ∧ List.Forall₂ G middle results) ↔
      List.Forall₂ (fun item result => ∃ value, F item value ∧ G value result) items results := by
  constructor
  · rintro ⟨middle, hfirst, hsecond⟩
    induction hfirst generalizing results with
    | nil =>
      cases hsecond
      exact .nil
    | cons hitem _ ih =>
      cases hsecond with
      | cons hvalue hrest => exact .cons ⟨_, hitem, hvalue⟩ (ih hrest)
  · intro h
    induction h with
    | nil => exact ⟨[], .nil, .nil⟩
    | cons h _ ih =>
      obtain ⟨value, hitem, hvalue⟩ := h
      obtain ⟨middle, hfirst, hsecond⟩ := ih
      exact ⟨value :: middle, .cons hitem hfirst, .cons hvalue hsecond⟩

theorem maps_comp_iff {F G : Value → Value → Prop} {input output : Value} :
    (∃ middle, Maps F input middle ∧ Maps G middle output) ↔
      Maps (fun item result => ∃ value, F item value ∧ G value result) input output :=
  onLists_comp_iff fun _ _ => forall₂_comp_iff

theorem passes_conjoins_iff {P Q : Value → Value → Prop} {item : Value} {pass : Bool} :
    Passes (Conjoins P Q) item pass ↔
      Passes P item false ∧ pass = false ∨ Passes P item true ∧ Passes Q item pass := by
  constructor
  · rintro ⟨_, ⟨hfirst, rfl⟩ | ⟨hfirst, answer, hsecond, rfl⟩, rfl⟩
    · exact .inl ⟨hfirst, rfl⟩
    · exact .inr ⟨hfirst, hsecond⟩
  · rintro (⟨hfirst, rfl⟩ | ⟨hfirst, hsecond⟩)
    · exact ⟨.bool false, .inl ⟨hfirst, rfl⟩, rfl⟩
    · exact ⟨.bool pass, .inr ⟨hfirst, pass, hsecond, rfl⟩, rfl⟩

-- Filtering twice is filtering once by both tests, the second of which is made of what passes the
-- first.
theorem keeps_comp_iff {P Q : Value → Value → Prop} {items kept : List Value} :
    (∃ middle, Keeps (Passes P) items middle ∧ Keeps (Passes Q) middle kept) ↔
      Keeps (Passes (Conjoins P Q)) items kept := by
  constructor
  · rintro ⟨middle, hfirst, hsecond⟩
    induction hfirst generalizing kept with
    | nil =>
      cases hsecond
      exact .nil
    | @cons item pass rest others hitem _ ih =>
      cases pass with
      | false => exact .cons (passes_conjoins_iff.mpr (.inl ⟨hitem, rfl⟩)) (ih hsecond)
      | true =>
        rcases hsecond with _ | ⟨hagain, hrest⟩
        exact .cons (passes_conjoins_iff.mpr (.inr ⟨hitem, hagain⟩)) (ih hrest)
  · intro h
    induction h with
    | nil => exact ⟨[], .nil, .nil⟩
    | @cons item pass rest kept hboth _ ih =>
      obtain ⟨middle, hfirst, hsecond⟩ := ih
      rcases passes_conjoins_iff.mp hboth with ⟨hitem, rfl⟩ | ⟨hitem, hagain⟩
      · exact ⟨middle, .cons hitem hfirst, hsecond⟩
      · exact ⟨item :: middle, .cons hitem hfirst, .cons hagain hsecond⟩

theorem filters_comp_iff {P Q : Value → Value → Prop} {input output : Value} :
    (∃ middle, Filters P input middle ∧ Filters Q middle output) ↔
      Filters (Conjoins P Q) input output :=
  onLists_comp_iff fun _ _ => keeps_comp_iff

section Runs

variable {resolve : Request → Run Value} {registered : String → Bool} {input : Value}

-- What an expression comes to, if every application of it settles.
def Relates (resolve : Request → Run Value) (expression : Value)
    (relation : Value → Value → Prop) : Prop :=
  ∀ input, (resolve (.apply expression input)).ComesTo (relation input)

variable {f g : Value} {F G : Value → Value → Prop}

theorem comesTo_requireList (name : String) (input : Value) :
    ((requireList name input).run resolve registered).ComesTo fun items =>
      input = .array items := by
  cases input with
  | array items => exact (Run.comesTo_done items).congr fun found => by simp
  | _ => exact (Run.comesTo_fail _).congr fun _ => by simp

-- An iteration that returns a list, by what its loop comes to.
theorem comesTo_iteration {name : String}
    {loop : (Value → Script Value) → List Value → Script (List Value)}
    {relation : List Value → List Value → Prop}
    (hloop : ∀ items, ((loop (fun item => .apply f item) items).run resolve registered).ComesTo
      (relation items)) :
    (((iteration name fun step items => do return .array (← loop step items)).call .apply f
      input).run resolve registered).ComesTo (OnLists relation input) := by
  simp only [iteration, both, Operation.call, Script.run_bind]
  refine ((comesTo_requireList _ _).bind fun items =>
    (hloop items).bind fun _ => Run.comesTo_done _).congr fun output => ?_
  simp only [OnLists, eq_comm, exists_and_left]

theorem comesTo_map (hf : Relates resolve f F) :
    ((map.call .apply f input).run resolve registered).ComesTo (Maps F input) := by
  refine comesTo_iteration fun items => Script.comesTo_each fun item _ => ?_
  rw [Script.run_apply]
  exact hf item

variable {p q : Value} {P Q : Value → Value → Prop}

theorem comesTo_asTest (hp : Relates resolve p P) (item : Value) :
    ((asTest (fun item => .apply p item) item).run resolve registered).ComesTo
      (Passes P item) := by
  simp only [asTest, Script.run_bind, Script.run_apply]
  exact (hp item).bind fun _ => Run.comesTo_done _

theorem comesTo_filter (hp : Relates resolve p P) :
    ((filter.call .apply p input).run resolve registered).ComesTo (Filters P input) :=
  comesTo_iteration fun _ => Script.comesTo_keep fun item _ => comesTo_asTest hp item

theorem comesTo_and (hp : Relates resolve p P) (hq : Relates resolve q Q) :
    ((and.call .apply (.array [p, q]) input).run resolve registered).ComesTo
      (Conjoins P Q input) := by
  have htest {expression : Value} {relation : Value → Value → Prop}
      (h : Relates resolve expression relation) :
      ((do return (← Script.apply expression input).isTruthy : Script Bool).run resolve
        registered).ComesTo (Passes relation input) :=
    comesTo_asTest h input
  have hrest (pass : Bool) :
      ((if pass = true then
          Script.every (fun item => do return (← Script.apply item input).isTruthy) [q]
        else return false).run resolve registered).ComesTo fun answer =>
          pass = false ∧ answer = false ∨ pass = true ∧ Passes Q input answer := by
    cases pass with
    | false => exact (Run.comesTo_done false).congr fun answer => by simp [eq_comm]
    | true =>
      simp only [ite_true]
      rw [Script.run_every_singleton]
      exact (htest hq).congr fun answer => by simp
  simp only [and, connective, both, Operation.call, requireExpressions, Script.run_bind,
    Script.run_done, Run.bind_done]
  rw [Script.every, Script.run_bind]
  refine (((htest hp).bind hrest).bind fun _ => Run.comesTo_done _).congr fun output => ?_
  unfold Conjoins
  constructor
  · rintro ⟨answer, ⟨pass, hfirst, ⟨rfl, rfl⟩ | ⟨rfl, hsecond⟩⟩, rfl⟩
    · exact .inl ⟨hfirst, rfl⟩
    · exact .inr ⟨hfirst, answer, hsecond, rfl⟩
  · rintro (⟨hfirst, rfl⟩ | ⟨hfirst, answer, hsecond, rfl⟩)
    · exact ⟨false, ⟨false, hfirst, .inl ⟨rfl, rfl⟩⟩, rfl⟩
    · exact ⟨answer, ⟨true, hfirst, .inr ⟨rfl, hsecond⟩⟩, rfl⟩

theorem comesTo_chain (hf : Relates resolve f F) (hg : Relates resolve g G) :
    ((chain [f, g] input).run resolve registered).ComesTo fun output =>
      ∃ value, F input value ∧ G value output := by
  simp only [chain, Script.fold, Script.run_bind, Script.run_apply]
  refine (hf input).bind fun value => ?_
  exact ((hg value).bind fun _ => Run.comesTo_done _).congr fun output => by simp

end Runs

end Builtin

end JsonExpr
