import JsonExpr.Expression

-- Where values lie inside others: anywhere, or outside of the expressions.
namespace JsonExpr

namespace Value

-- A value that occurs in another one, at any depth or as the whole.
inductive Part : Value → Value → Prop where
  | refl (value : Value) : Part value value
  | item {items : List Value} {item part : Value} (hmem : item ∈ items) (h : Part item part) :
      Part (array items) part
  | field {fields : List (String × Value)} {entry : String × Value} {part : Value}
      (hmem : entry ∈ fields) (h : Part entry.2 part) : Part (object fields) part

-- A part that is reached without entering an expression.
inductive Exposed : Value → Value → Prop where
  | refl (value : Value) : Exposed value value
  | item {items : List Value} {item part : Value} (hmem : item ∈ items)
      (h : Exposed item part) : Exposed (array items) part
  | field {fields : List (String × Value)} {entry : String × Value} {part : Value}
      (hshape : (object fields).hasExpressionShape = false) (hmem : entry ∈ fields)
      (h : Exposed entry.2 part) : Exposed (object fields) part

theorem Part.trans {a b c : Value} (hab : Part a b) (hbc : Part b c) : Part a c := by
  induction hab with
  | refl => exact hbc
  | item hmem _ ih => exact .item hmem (ih hbc)
  | field hmem _ ih => exact .field hmem (ih hbc)

theorem Exposed.trans {a b c : Value} (hab : Exposed a b) (hbc : Exposed b c) :
    Exposed a c := by
  induction hab with
  | refl => exact hbc
  | item hmem _ ih => exact .item hmem (ih hbc)
  | field hshape hmem _ ih => exact .field hshape hmem (ih hbc)

theorem Exposed.part {whole part : Value} (h : Exposed whole part) : Part whole part := by
  induction h with
  | refl => exact .refl _
  | item hmem _ ih => exact .item hmem ih
  | field _ hmem _ ih => exact .field hmem ih

theorem Part.depth_le {whole part : Value} (h : Part whole part) : part.depth ≤ whole.depth := by
  induction h with
  | refl => exact Nat.le_refl _
  | item hmem _ ih =>
    have hitem := depth_le_depthOfItems hmem
    simp only [depth]
    omega
  | field hmem _ ih =>
    have hfield := depth_le_depthOfFields hmem
    simp only [depth]
    omega

theorem Part.operand_depth_lt {whole operand : Value} {name : String}
    (h : Part whole (object [(name, operand)])) : operand.depth < whole.depth := by
  have hnode := h.depth_le
  have hoperand := depth_le_depthOfFields (List.mem_singleton_self (name, operand))
  simp only [depth] at hnode hoperand
  omega

theorem expression?_eq_some_iff {value : Value} {name : String} {operand : Value} :
    value.expression? = some (name, operand) ↔
      value = object [(name, operand)] ∧ isOperationName name = true := by
  constructor
  · intro h
    unfold expression? at h
    split at h
    · split at h
      · next hname =>
        obtain ⟨rfl, rfl⟩ := Prod.mk.inj (Option.some.inj h)
        exact ⟨rfl, hname⟩
      · cases h
    · cases h
  · rintro ⟨rfl, hname⟩
    simp [expression?, hname]

theorem hasExpressionShape_iff {value : Value} :
    value.hasExpressionShape = true ↔
      ∃ name operand, value = object [(name, operand)] ∧ isOperationName name = true := by
  simp only [hasExpressionShape, Option.isSome_iff_exists, Prod.exists, expression?_eq_some_iff]

theorem namesOne_iff {registered : String → Bool} {value : Value} :
    value.namesOne registered = true ↔
      ∃ name operand, value = object [(name, operand)] ∧ isOperationName name = true ∧
        registered name = true := by
  unfold namesOne
  split
  · next name operand hnode =>
    obtain ⟨rfl, hname⟩ := expression?_eq_some_iff.mp hnode
    constructor
    · exact fun h => ⟨name, operand, rfl, hname, h⟩
    · rintro ⟨_, _, ⟨⟩, -, h⟩
      exact h
  · next hnone =>
    constructor
    · intro h
      cases h
    · rintro ⟨name, operand, rfl, hname, -⟩
      simp [expression?, hname] at hnone

theorem Part.of_find? {key : String} {value : Value} {fields : Fields Value}
    (h : fields.find? key = some value) : Part (object fields) value :=
  .field (Fields.mem_of_find? h) (.refl value)

-- An object with a field whose key names no operation is no expression.
theorem hasExpressionShape_of_find? {key : String} {value : Value} {fields : Fields Value}
    (hkey : isOperationName key = false) (h : fields.find? key = some value) :
    (object fields).hasExpressionShape = false := by
  rw [Bool.eq_false_iff]
  intro hshape
  obtain ⟨name, operand, heq, hname⟩ := hasExpressionShape_iff.mp hshape
  have hmem := Fields.mem_of_find? h
  rw [object.inj heq, List.mem_singleton] at hmem
  rw [← (Prod.mk.inj hmem).1, hkey] at hname
  cases hname

theorem Exposed.of_find? {key : String} {value : Value} {fields : Fields Value}
    (hkey : isOperationName key = false) (h : fields.find? key = some value) :
    Exposed (object fields) value :=
  .field (hasExpressionShape_of_find? hkey h) (Fields.mem_of_find? h) (.refl value)

theorem Exposed.of_expression?_eq_none {fields : Fields Value} {entry : String × Value}
    (hnone : (object fields).expression? = none) (hmem : entry ∈ fields) :
    Exposed (object fields) entry.2 :=
  .field (by simp [hasExpressionShape, hnone]) hmem (.refl entry.2)

theorem mem_holesOfItems {hole : Value} {items : List Value} :
    hole ∈ holesOfItems items ↔ ∃ item ∈ items, hole ∈ item.holes := by
  induction items with
  | nil => simp [holesOfItems]
  | cons item rest ih => simp [holesOfItems, ih]

theorem mem_holesOfFields {hole : Value} {fields : List (String × Value)} :
    hole ∈ holesOfFields fields ↔ ∃ entry ∈ fields, hole ∈ entry.2.holes := by
  induction fields with
  | nil => simp [holesOfFields]
  | cons entry rest ih =>
    obtain ⟨name, value⟩ := entry
    simp [holesOfFields, ih]

-- The holes of a template are the expressions exposed in it.
theorem mem_holes_iff {value hole : Value} :
    hole ∈ value.holes ↔ Exposed value hole ∧ hole.hasExpressionShape = true := by
  constructor
  · intro h
    induction value using induct with
    | null | bool | number | string => simp [holes] at h
    | array items ih =>
      obtain ⟨item, hmem, hhole⟩ := mem_holesOfItems.mp (by simpa only [holes] using h)
      obtain ⟨hexposed, hshape⟩ := ih item hmem hhole
      exact ⟨.item hmem hexposed, hshape⟩
    | object fields ih =>
      by_cases hs : (object fields).hasExpressionShape = true
      · have heq : hole = object fields := by simpa only [holes, hs, ite_true, List.mem_singleton]
          using h
        exact ⟨heq ▸ .refl _, heq ▸ hs⟩
      · rw [Bool.not_eq_true] at hs
        obtain ⟨entry, hmem, hhole⟩ := mem_holesOfFields.mp (by simpa [holes, hs] using h)
        obtain ⟨hexposed, hshape⟩ := ih entry hmem hhole
        exact ⟨.field hs hmem hexposed, hshape⟩
  · rintro ⟨hexposed, hshape⟩
    induction hexposed with
    | refl value =>
      obtain ⟨name, operand, rfl, -⟩ := hasExpressionShape_iff.mp hshape
      simp [holes, hshape]
    | item hmem _ ih =>
      simp only [holes]
      exact mem_holesOfItems.mpr ⟨_, hmem, ih hshape⟩
    | field hs hmem _ ih =>
      simp only [holes, hs]
      exact mem_holesOfFields.mpr ⟨_, hmem, ih hshape⟩

-- Data without any expression in it.
def IsData (value : Value) : Prop := ∀ part, value.Part part → part.hasExpressionShape = false

theorem IsData.holes_eq {value : Value} (hdata : value.IsData) : value.holes = [] := by
  refine List.eq_nil_iff_forall_not_mem.mpr fun hole hmem => ?_
  obtain ⟨hexposed, hshape⟩ := mem_holes_iff.mp hmem
  rw [hdata hole hexposed.part] at hshape
  cases hshape

theorem IsData.namesOne {value : Value} (hdata : value.IsData) (registered : String → Bool) :
    value.namesOne registered = false := by
  have hnone := hdata value (.refl value)
  rw [hasExpressionShape, Option.isSome_eq_false_iff, Option.isNone_iff_eq_none] at hnone
  rw [Value.namesOne, hnone]

end Value

end JsonExpr
