import JsonExpr.Engine.Validation
import JsonExpr.Proofs.Builtin.Ordinary

-- What validation overlooks. It takes the operand of the literal escape for data, but a test by
-- fields applies the conditions that are expressions, and where the escape stands in place of all
-- conditions, its operand is such a condition.
namespace JsonExpr

namespace Engine

def isFieldTest (name : String) : Bool := name == "$matches" || name == "$filterBy"

-- A value is resolved, or it is the operand of a test by fields, or holds the conditions of one.
inductive Role where
  | resolved
  | tested
  | conditions
deriving DecidableEq

def Role.ofField (role : Role) (key : String) : Role :=
  if role = tested ∧ key = "conditions" then conditions else resolved

def Role.ofOperand (name : String) : Role := if isFieldTest name then tested else resolved

mutual

-- The unknown operations that validation overlooks: those in registered expressions that are the
-- condition of a test because the escape around them stands in place of all conditions.
def overlooked (engine : Engine) (role : Role) : Value → List UnknownOperation
  | .array items => overlookedOfItems engine items
  | .object fields =>
    match (Value.object fields).expression? with
    | none => overlookedOfFields engine role.ofField fields
    | some (name, _) =>
      if name ≠ literalName then overlookedOfFields engine (fun _ => .ofOperand name) fields
      else if role = .resolved then []
      else escaped engine fields
  | _ => []

def overlookedOfItems (engine : Engine) : List Value → List UnknownOperation
  | [] => []
  | item :: rest => engine.overlooked .resolved item ++ overlookedOfItems engine rest

def overlookedOfFields (engine : Engine) (role : String → Role) :
    List (String × Value) → List UnknownOperation
  | [] => []
  | (key, value) :: rest =>
    engine.overlooked (role key) value ++ overlookedOfFields engine role rest

def escaped (engine : Engine) : List (String × Value) → List UnknownOperation
  | [] => []
  | (_, condition) :: rest =>
    (if condition.namesOne engine.registers then
      engine.unknowns condition ++ engine.overlooked .resolved condition
    else []) ++ escaped engine rest

end

variable {engine : Engine}

theorem unknownsOfItems_eq_nil_iff {items : List Value} :
    engine.unknownsOfItems items = [] ↔ ∀ item ∈ items, engine.unknowns item = [] := by
  induction items with
  | nil => simp [unknownsOfItems]
  | cons item rest ih => simp [unknownsOfItems, ih]

theorem unknownsOfFields_eq_nil_iff {fields : List (String × Value)} :
    engine.unknownsOfFields fields = [] ↔ ∀ entry ∈ fields, engine.unknowns entry.2 = [] := by
  induction fields with
  | nil => simp [unknownsOfFields]
  | cons entry rest ih => simp [unknownsOfFields, ih]

theorem overlookedOfItems_eq_nil_iff {items : List Value} :
    engine.overlookedOfItems items = [] ↔
      ∀ item ∈ items, engine.overlooked .resolved item = [] := by
  induction items with
  | nil => simp [overlookedOfItems]
  | cons item rest ih => simp [overlookedOfItems, ih]

theorem overlookedOfFields_eq_nil_iff {role : String → Role} {fields : List (String × Value)} :
    engine.overlookedOfFields role fields = [] ↔
      ∀ entry ∈ fields, engine.overlooked (role entry.1) entry.2 = [] := by
  induction fields with
  | nil => simp [overlookedOfFields]
  | cons entry rest ih => simp [overlookedOfFields, ih]

-- No unknown operation is reached where the value is put to its role.
structure Clean (engine : Engine) (role : Role) (value : Value) : Prop where
  unknowns_eq_nil : engine.unknowns value = []
  overlooked_eq_nil : engine.overlooked role value = []

theorem overlooked_resolved_eq_nil {role : Role} {value : Value}
    (h : engine.overlooked role value = []) : engine.overlooked .resolved value = [] := by
  induction value using Value.induct generalizing role with
  | null | bool | number | string => simp [overlooked]
  | array items ih => simpa [overlooked] using h
  | object fields ih =>
    unfold overlooked at h ⊢
    cases hexpression : (Value.object fields).expression? with
    | none =>
      simp only [hexpression] at h ⊢
      rw [overlookedOfFields_eq_nil_iff] at h ⊢
      exact fun entry hmem => ih entry hmem (h entry hmem)
    | some node =>
      simp only [hexpression] at h ⊢
      split
      · next hname => rwa [if_pos hname] at h
      · rfl

namespace Clean

variable {role : Role}

theorem resolved {value : Value} (h : engine.Clean role value) : engine.Clean .resolved value :=
  ⟨h.unknowns_eq_nil, overlooked_resolved_eq_nil h.overlooked_eq_nil⟩

theorem null : engine.Clean role .null := ⟨by simp [unknowns], by simp [overlooked]⟩

theorem item {items : List Value} (h : engine.Clean role (.array items)) {item : Value}
    (hmem : item ∈ items) : engine.Clean .resolved item := by
  obtain ⟨hunknowns, hoverlooked⟩ := h
  simp only [unknowns, unknownsOfItems_eq_nil_iff] at hunknowns
  simp only [overlooked, overlookedOfItems_eq_nil_iff] at hoverlooked
  exact ⟨hunknowns item hmem, hoverlooked item hmem⟩

theorem field {fields : List (String × Value)} (h : engine.Clean role (.object fields))
    (hshape : (Value.object fields).hasExpressionShape = false) {entry : String × Value}
    (hmem : entry ∈ fields) : engine.Clean (role.ofField entry.1) entry.2 := by
  have hnone : (Value.object fields).expression? = none := by
    simpa [Value.hasExpressionShape] using hshape
  obtain ⟨hunknowns, hoverlooked⟩ := h
  simp only [unknowns, hnone, unknownsOfFields_eq_nil_iff] at hunknowns
  simp only [overlooked, hnone, overlookedOfFields_eq_nil_iff] at hoverlooked
  exact ⟨hunknowns entry hmem, hoverlooked entry hmem⟩

theorem exposed {value part : Value} (h : engine.Clean .resolved value)
    (hexposed : value.Exposed part) : engine.Clean .resolved part := by
  induction hexposed with
  | refl => exact h
  | item hmem _ ih => exact ih (h.item hmem)
  | field hshape hmem _ ih => exact ih (h.field hshape hmem).resolved

section Node

variable {name : String} {inner : Value} (hname : isOperationName name = true)

include hname

theorem registers (h : engine.Clean role (.object [(name, inner)])) :
    engine.registers name = true := by
  have hunknowns := h.unknowns_eq_nil
  cases hregisters : engine.registers name with
  | true => rfl
  | false => simp [unknowns, Value.expression?, hname, hregisters] at hunknowns

theorem operand (h : engine.Clean role (.object [(name, inner)]))
    (hliteral : name ≠ literalName) : engine.Clean (.ofOperand name) inner := by
  have hregisters := h.registers hname
  obtain ⟨hunknowns, hoverlooked⟩ := h
  have hnode : (Value.object [(name, inner)]).expression? = some (name, inner) :=
    Value.expression?_eq_some_iff.mpr ⟨rfl, hname⟩
  simp [unknowns, hnode, hregisters, hliteral, unknownsOfFields] at hunknowns
  simp [overlooked, hnode, hliteral, overlookedOfFields] at hoverlooked
  exact ⟨hunknowns, hoverlooked⟩

end Node

-- An expression that stands as a condition has been validated or is not overlooked.
theorem condition_of_mem {conditions : List (String × Value)}
    (h : engine.Clean role (.object conditions)) (hrole : role ≠ .resolved)
    {entry : String × Value} (hmem : entry ∈ conditions)
    (hregistered : entry.2.namesOne engine.registers = true) :
    engine.Clean .resolved entry.2 := by
  cases hshape : (Value.object conditions).hasExpressionShape with
  | false => exact (h.field hshape hmem).resolved
  | true =>
    obtain ⟨name, condition, heq, hname⟩ := Value.hasExpressionShape_iff.mp hshape
    cases heq
    rw [List.mem_singleton.mp hmem] at hregistered ⊢
    by_cases hliteral : name = literalName
    · subst hliteral
      have hoverlooked := h.overlooked_eq_nil
      have hnode : (Value.object [(literalName, condition)]).expression? =
          some (literalName, condition) := Value.expression?_eq_some_iff.mpr ⟨rfl, hname⟩
      simp [overlooked, hnode, hrole, escaped, hregistered] at hoverlooked
      exact ⟨hoverlooked.1, hoverlooked.2⟩
    · exact (h.operand hname hliteral).resolved

theorem condition {operand condition : Value} (h : engine.Clean .tested operand)
    (hcondition : operand.Condition condition)
    (hregistered : condition.namesOne engine.registers = true) :
    engine.Clean .resolved condition := by
  cases hcondition with
  | applied hmem => exact h.condition_of_mem (by decide) hmem hregistered
  | evaluated hconditions hmem =>
    have hshape := Value.hasExpressionShape_of_find? (by decide) hconditions
    have hfield := h.field hshape (Fields.mem_of_find? hconditions)
    exact hfield.condition_of_mem (by simp [Role.ofField]) hmem hregistered

theorem subject {operand subject : Value} (h : engine.Clean .tested operand)
    (hsubject : operand.Subject subject) : engine.Clean .resolved subject := by
  cases hsubject with
  | @field fields key hkey =>
    cases hfind : fields.find? key with
    | none =>
      rw [Builtin.field, hfind]
      exact .null
    | some value =>
      rw [Builtin.field, hfind]
      have hshape := Value.hasExpressionShape_of_find? hkey hfind
      exact (h.field hshape (Fields.mem_of_find? hfind)).resolved

end Clean

end Engine

end JsonExpr
