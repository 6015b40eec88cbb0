import JsonExpr.Proofs.Run.Congruence

-- Templates that are constant: all their expressions are data behind the literal escape.
namespace JsonExpr

namespace Value

def escape (value : Value) : Value := object [(literalName, value)]

def IsConstant (template : Value) : Prop := ∀ hole ∈ template.holes, hole.isLiteralEscape = true

def unescaped (hole : Value) : Value :=
  match hole.expression? with
  | some (_, operand) => operand
  | none => hole

-- What a constant template stands for.
def constant (template : Value) : Value := Id.run (template.fill fun hole => pure hole.unescaped)

theorem isLiteralEscape_iff {hole : Value} :
    hole.isLiteralEscape = true ↔ ∃ value, hole = escape value := by
  constructor
  · intro h
    obtain ⟨name, value, rfl, -, hname⟩ := namesOne_iff.mp h
    rw [beq_iff_eq.mp hname]
    exact ⟨value, rfl⟩
  · rintro ⟨value, rfl⟩
    exact namesOne_iff.mpr ⟨literalName, value, rfl, by decide, by simp⟩

@[simp] theorem isConstant_escape (value : Value) : (escape value).IsConstant := by
  intro hole hmem
  obtain rfl : hole = escape value := by
    simpa [escape, holes, hasExpressionShape, expression?, isOperationName, literalName, sigil]
      using hmem
  exact isLiteralEscape_iff.mpr ⟨value, rfl⟩

@[simp] theorem isConstant_null : null.IsConstant := by simp [IsConstant, holes]

theorem fillItems_eq_map (f : Value → Value) (items : List Value) :
    Id.run (fillItems (fun hole => pure (f hole)) items) =
      items.map fun item => Id.run (item.fill fun hole => pure (f hole)) := by
  induction items with
  | nil => rfl
  | cons item rest ih => simpa [fillItems] using ih

theorem fillFields_eq_map (f : Value → Value) (fields : List (String × Value)) :
    Id.run (fillFields (fun hole => pure (f hole)) fields) =
      fields.map fun entry => (entry.1, Id.run (entry.2.fill fun hole => pure (f hole))) := by
  induction fields with
  | nil => rfl
  | cons entry rest ih => simpa [fillFields] using ih

@[simp] theorem constant_array (items : List Value) :
    (array items).constant = array (items.map constant) := by
  unfold constant
  rw [← fillItems_eq_map]
  rfl

theorem constant_object {fields : List (String × Value)}
    (hshape : (object fields).hasExpressionShape = false) :
    (object fields).constant = object (fields.map fun entry => (entry.1, entry.2.constant)) := by
  unfold constant
  rw [← fillFields_eq_map, fill, hshape]
  rfl

@[simp] theorem isConstant_array {items : List Value} :
    (array items).IsConstant ↔ ∀ item ∈ items, item.IsConstant := by
  simp only [IsConstant, holes, mem_holesOfItems]
  constructor
  · exact fun h item hmem hole hhole => h hole ⟨item, hmem, hhole⟩
  · rintro h hole ⟨item, hmem, hhole⟩
    exact h item hmem hole hhole

theorem isConstant_object {fields : List (String × Value)}
    (hshape : (object fields).hasExpressionShape = false)
    (h : ∀ entry ∈ fields, entry.2.IsConstant) : (object fields).IsConstant := by
  intro hole hmem
  obtain ⟨entry, hentry, hhole⟩ := mem_holesOfFields.mp (by simpa [holes, hshape] using hmem)
  exact h entry hentry hole hhole

-- Filling with runs that only return is returning the filled template.
theorem fill_done (f : Value → Value) (value : Value) :
    (value.fill fun hole => Run.done (f hole)) =
      Run.done (Id.run (value.fill fun hole => pure (f hole))) := by
  induction value using induct with
  | null | bool | number | string => rfl
  | array items ih =>
    suffices hitems : (fillItems (fun hole => Run.done (f hole)) items) =
        Run.done (Id.run (fillItems (fun hole => pure (f hole)) items)) by
      simp only [fill, hitems]
      rfl
    induction items with
    | nil => rfl
    | cons item rest ihrest =>
      obtain ⟨hitem, hrest⟩ := List.forall_mem_cons.mp ih
      simp only [fillItems, hitem, ihrest hrest]
      rfl
  | object fields ih =>
    cases hshape : (object fields).hasExpressionShape with
    | true =>
      simp only [fill, hshape]
      rfl
    | false =>
      suffices hfields : (fillFields (fun hole => Run.done (f hole)) fields) =
          Run.done (Id.run (fillFields (fun hole => pure (f hole)) fields)) by
        simp only [fill, hshape, hfields]
        rfl
      clear hshape
      induction fields with
      | nil => rfl
      | cons entry rest ihrest =>
        obtain ⟨hentry, hrest⟩ := List.forall_mem_cons.mp ih
        simp only [fillFields, hentry, ihrest hrest]
        rfl

end Value

end JsonExpr
