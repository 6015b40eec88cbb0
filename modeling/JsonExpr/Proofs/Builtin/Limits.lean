import JsonExpr.Builtin.Requirements
import JsonExpr.Proofs.Script.Within
import JsonExpr.Proofs.Value.Part

-- Limits of the built-in operations: what they have resolved lies in their operand, and what they
-- require of operand and input.
namespace JsonExpr

open Script

-- A failure that an operation reports about its own operand or input.
def Failure.IsOwn : Failure → Prop
  | .operand _ | .domain _ | .fault _ => True
  | _ => False

namespace Value

-- What an operation may have resolved: an exposed part of its operand, or null in place of a part
-- that is missing.
def Offers (operand value : Value) : Prop := value = null ∨ Exposed operand value

@[simp] theorem offers_self (operand : Value) : operand.Offers operand := .inr (.refl operand)

theorem offers_item {item : Value} {items : List Value} (hmem : item ∈ items) :
    (array items).Offers item := .inr (.item hmem (.refl item))

theorem offers_field {key : String} {fields : Fields Value}
    (hkey : isOperationName key = false) :
    (object fields).Offers (Builtin.field key fields) := by
  cases h : fields.find? key with
  | none => exact .inl (by simp [Builtin.field, h])
  | some value => exact .inr (by simpa [Builtin.field, h] using Exposed.of_find? hkey h)

theorem Offers.trans_exposed {whole part value : Value} (hpart : Exposed whole part)
    (h : part.Offers value) : whole.Offers value :=
  h.imp_right hpart.trans

theorem Offers.trans {whole part value : Value} (hpart : whole.Offers part)
    (h : part.Offers value) : whole.Offers value := by
  rcases hpart with rfl | hpart
  · rcases h with rfl | h
    · exact .inl rfl
    · cases h
      exact .inl rfl
  · exact h.trans_exposed hpart

end Value

-- Operations ask about parts of their operand, and most of them have nothing resolved that lies
-- inside an expression. A few report misfits on the way as problems of their own, or draw on chance
-- or the clock. None goes on after a failure.
def Limits.offering (guards draws : Prop) (registered : String → Bool) (operand : Value) :
    Limits where
  registered
  resolves := operand.Offers
  recognizes := Value.Part operand
  fails := Failure.IsOwn
  guards
  draws
  recovers := False

def Limits.ordinary (registered : String → Bool) (operand : Value) : Limits :=
  .offering False False registered operand

def Limits.guarding (registered : String → Bool) (operand : Value) : Limits :=
  .offering True False registered operand

def Limits.drawing (registered : String → Bool) (operand : Value) : Limits :=
  .offering False True registered operand

def Limits.AllowsOwn (limits : Limits) : Prop :=
  ∀ failure : Failure, failure.IsOwn → limits.fails failure

theorem Limits.AllowsOwn.operand {limits : Limits} (h : limits.AllowsOwn)
    (problem : OperandProblem) : limits.fails (.operand problem) := h _ trivial

theorem Limits.AllowsOwn.domain {limits : Limits} (h : limits.AllowsOwn)
    (problem : DomainProblem) : limits.fails (.domain problem) := h _ trivial

theorem Limits.AllowsOwn.fault {limits : Limits} (h : limits.AllowsOwn) (fault : Fault) :
    limits.fails (.fault fault) := h _ trivial

@[simp] theorem Limits.ordinary_allowsOwn (registered : String → Bool) (operand : Value) :
    (Limits.ordinary registered operand).AllowsOwn := fun _ h => h

theorem Limits.guarding_allowsOwn (registered : String → Bool) (operand : Value) :
    (Limits.guarding registered operand).AllowsOwn := fun _ h => h

theorem Limits.drawing_allowsOwn (registered : String → Bool) (operand : Value) :
    (Limits.drawing registered operand).AllowsOwn := fun _ h => h

theorem Limits.offering_wider {guards draws guards' draws' : Prop} (hguards : guards → guards')
    (hdraws : draws → draws') (registered : String → Bool) (operand : Value) :
    (Limits.offering guards' draws' registered operand).Wider
      (.offering guards draws registered operand) :=
  ⟨rfl, fun _ => id, fun _ => id, fun _ => id, hguards, hdraws, id⟩

-- A script that only computes: it asks nothing and fails on its own at most.
def Script.Computes {α : Type} (script : Script α) : Prop :=
  ∀ limits : Limits, limits.AllowsOwn → script.Within limits fun _ => True

section Computes

variable {α β : Type}

@[simp] theorem computes_done (a : α) : (Script.done a).Computes := fun _ _ => trivial

@[simp] theorem computes_pure (a : α) : (pure a : Script α).Computes := fun _ _ => trivial

@[simp] theorem computes_invalidOperand (problem : OperandProblem) :
    (Script.invalidOperand problem : Script α).Computes := fun _ hown => hown.operand problem

@[simp] theorem computes_outsideDomain (problem : DomainProblem) :
    (Script.outsideDomain problem : Script α).Computes := fun _ hown => hown.domain problem

@[simp] theorem computes_fault (cause : Fault) : (Script.fault cause : Script α).Computes :=
  fun _ hown => hown.fault cause

@[simp] theorem computes_ofExcept (outcome : Except Fault α) :
    (Script.ofExcept outcome).Computes := by
  cases outcome <;> simp [Script.ofExcept]

@[simp] theorem computes_ite (p : Prop) [Decidable p] (a b : Script α) :
    (if p then a else b).Computes ↔ (p → a.Computes) ∧ (¬p → b.Computes) := by
  split <;> simp_all

@[simp] theorem computes_bind {script : Script α} {f : α → Script β} (h : script.Computes)
    (hf : ∀ a, (f a).Computes) : (script >>= f).Computes := fun limits hown =>
  (Script.within_bind ..).mpr ((h limits hown).mono fun a _ => hf a limits hown)

@[simp] theorem computes_map {script : Script α} {f : α → β} (h : script.Computes) :
    (f <$> script).Computes := fun limits hown =>
  (Script.within_map ..).mpr ((h limits hown).mono fun _ _ => trivial)

end Computes

-- Whether both forms of an operation stay within limits that depend on the operand.
def Operation.Within (limits : (String → Bool) → Value → Limits) (operation : Operation) : Prop :=
  ∀ registered mode operand input,
    (operation.call mode operand input).Within (limits registered operand) fun _ => True

def Operation.Ordinary (operation : Operation) : Prop := operation.Within .ordinary

namespace Builtin

theorem within_both {limits : (String → Bool) → Value → Limits}
    {applied : Value → Value → Script Value} {evaluated : Value → Script Value}
    (happly : ∀ registered operand input,
      (applied operand input).Within (limits registered operand) fun _ => True)
    (hevaluate : ∀ registered operand,
      (evaluated operand).Within (limits registered operand) fun _ => True) :
    (both applied evaluated).Within limits := by
  intro registered mode operand input
  cases mode
  · exact happly registered operand input
  · exact hevaluate registered operand

-- A script that computes stays within the limits of an ordinary operation, also after a part of the
-- operand has been resolved for it.
section Computing

variable {registered : String → Bool} {operand expression : Value}

theorem within_of_computes {α : Type} {script : Script α} (h : script.Computes) :
    script.Within (.ordinary registered operand) fun _ => True :=
  h _ (Limits.ordinary_allowsOwn registered operand)

theorem within_apply_of_computes {f : Value → Script Value} (input : Value)
    (hoffers : operand.Offers expression) (hf : ∀ value, (f value).Computes) :
    (Script.apply expression input >>= f).Within (.ordinary registered operand) fun _ => True :=
  within_apply_bind hoffers fun value => within_of_computes (hf value)

theorem within_evaluate_of_computes {f : Value → Script Value}
    (hoffers : operand.Offers expression) (hf : ∀ value, (f value).Computes) :
    (Script.evaluate expression >>= f).Within (.ordinary registered operand) fun _ => True :=
  within_evaluate_bind hoffers fun value => within_of_computes (hf value)

end Computing

theorem find?_of_field {key : String} {fields : Object} {value : Value}
    (h : field key fields = value) (hvalue : value ≠ .null) :
    fields.find? key = some value := by
  unfold field at h
  cases hfound : fields.find? key with
  | none => exact absurd (by simpa [hfound] using h.symm) hvalue
  | some found => simpa [hfound] using h

section Requirements

variable {limits : Limits} (hown : limits.AllowsOwn)

include hown

@[simp] theorem within_requireList (post : List Value → Prop) (name : String) (value : Value) :
    (requireList name value).Within limits post ↔
      ∀ items, value = .array items → post items := by
  cases value <;> simp [requireList, hown.domain]

@[simp] theorem within_requireFields (post : Object → Prop) (name shape : String)
    (value : Value) :
    (requireFields name shape value).Within limits post ↔
      ∀ fields, value = .object fields → post fields := by
  cases value <;> simp [requireFields, hown.operand]

@[simp] theorem within_requireKeys (post : Object → Prop) (name : String) (keys : List String)
    (value : Value) :
    (requireKeys name keys value).Within limits post ↔
      ∀ fields, value = .object fields → (∀ key ∈ keys, Fields.contains key fields = true) →
        post fields := by
  cases value with
  | object fields =>
    simp only [requireKeys]
    split
    · next hmissing =>
      have hkeys : ∀ key ∈ keys, Fields.contains key fields = true := by
        simpa [List.filter_eq_nil_iff] using hmissing
      exact ⟨fun h _ heq _ => by cases heq; exact h, fun h => h fields rfl hkeys⟩
    · next hmissing =>
      have hkeys : ¬∀ key ∈ keys, Fields.contains key fields = true := by
        intro h
        exact hmissing (by simpa [List.filter_eq_nil_iff] using h)
      exact ⟨fun _ _ heq hall => by cases heq; exact absurd hall hkeys, fun _ => hown _ trivial⟩
  | _ => simp [requireKeys, hown.operand]

@[simp] theorem within_requirePair (post : Value × Value → Prop) (name shape : String)
    (value : Value) :
    (requirePair name shape value).Within limits post ↔
      ∀ first second, value = .array [first, second] → post (first, second) := by
  unfold requirePair
  split
  · exact ⟨fun h _ _ heq => by cases heq; exact h, fun h => h _ _ rfl⟩
  · next hpair => exact ⟨fun _ _ _ heq => (hpair _ _ heq).elim, fun _ => hown _ trivial⟩

@[simp] theorem within_requireString (post : String → Prop) (name : String) (value : Value) :
    (requireString name value).Within limits post ↔
      ∀ text, value = .string text → post text := by
  cases value <;> simp [requireString, hown.domain]

@[simp] theorem within_requireNumber (post : Number → Prop) (name : String) (value : Value) :
    (requireNumber name value).Within limits post ↔
      ∀ n, value = .number n → post n := by
  cases value <;> simp [requireNumber, hown.domain]

@[simp] theorem within_requireObject (post : Object → Prop) (name : String) (value : Value) :
    (requireObject name value).Within limits post ↔
      ∀ fields, value = .object fields → post fields := by
  cases value <;> simp [requireObject, hown.domain]

end Requirements

@[simp] theorem computes_requireList (name : String) (value : Value) :
    (requireList name value).Computes := fun _ hown => by simp [hown]

@[simp] theorem computes_requireString (name : String) (value : Value) :
    (requireString name value).Computes := fun _ hown => by simp [hown]

@[simp] theorem computes_requireNumber (name : String) (value : Value) :
    (requireNumber name value).Computes := fun _ hown => by simp [hown]

@[simp] theorem computes_requireObject (name : String) (value : Value) :
    (requireObject name value).Computes := fun _ hown => by simp [hown]

end Builtin

end JsonExpr
