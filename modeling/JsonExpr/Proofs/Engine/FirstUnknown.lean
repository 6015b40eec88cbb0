import JsonExpr.Engine.Validation
import JsonExpr.Proofs.Engine.BuiltIn
import JsonExpr.Proofs.Run.Filling
import JsonExpr.Proofs.Value.Constant

-- Validation and dispatch look at the same expressions in the same order: where nothing is run but
-- the literal escape, a request fails with the first message of validation, or returns if there is
-- none.
namespace JsonExpr

namespace Engine

-- Whether there is more to look at inside a value: not in the literal escape, nor in expressions
-- that are not registered.
def opens (engine : Engine) (value : Value) : Bool :=
  !value.hasExpressionShape || !value.isLiteralEscape && value.namesOne engine.registers

-- A part that is reached in this way.
inductive Inspects (engine : Engine) : Value → Value → Prop where
  | refl (value : Value) : Inspects engine value value
  | item {items : List Value} {item part : Value} (hmem : item ∈ items)
      (h : Inspects engine item part) : Inspects engine (.array items) part
  | field {fields : List (String × Value)} {entry : String × Value} {part : Value}
      (hopens : engine.opens (.object fields) = true) (hmem : entry ∈ fields)
      (h : Inspects engine entry.2 part) : Inspects engine (.object fields) part

mutual

-- The expressions among these parts, in document order.
def inspected (engine : Engine) : Value → List Value
  | .array items => inspectedInItems engine items
  | .object fields =>
    let inside := if engine.opens (.object fields) then inspectedInFields engine fields else []
    if (Value.object fields).hasExpressionShape then .object fields :: inside else inside
  | _ => []

def inspectedInItems (engine : Engine) : List Value → List Value
  | [] => []
  | item :: rest => engine.inspected item ++ inspectedInItems engine rest

def inspectedInFields (engine : Engine) : List (String × Value) → List Value
  | [] => []
  | (_, value) :: rest => engine.inspected value ++ inspectedInFields engine rest

end

-- What is to be reported of an expression: that its name is unknown, or nothing.
def unknown? (engine : Engine) (node : Value) : Option UnknownOperation :=
  match node.expression? with
  | none => none
  | some (name, operand) =>
    if engine.registers name then none else some ⟨name, operand, engine.names⟩

variable {engine : Engine}

theorem mem_inspectedInItems {node : Value} {items : List Value} :
    node ∈ inspectedInItems engine items ↔ ∃ item ∈ items, node ∈ engine.inspected item := by
  induction items with
  | nil => simp [inspectedInItems]
  | cons item rest ih => simp [inspectedInItems, ih]

theorem mem_inspectedInFields {node : Value} {fields : List (String × Value)} :
    node ∈ inspectedInFields engine fields ↔
      ∃ entry ∈ fields, node ∈ engine.inspected entry.2 := by
  induction fields with
  | nil => simp [inspectedInFields]
  | cons entry rest ih =>
    obtain ⟨name, value⟩ := entry
    simp [inspectedInFields, ih]

theorem mem_inspected_object {node : Value} {fields : List (String × Value)} :
    node ∈ engine.inspected (.object fields) ↔
      (node = .object fields ∧ (Value.object fields).hasExpressionShape = true) ∨
        engine.opens (.object fields) = true ∧
          ∃ entry ∈ fields, node ∈ engine.inspected entry.2 := by
  simp only [inspected, ← mem_inspectedInFields]
  by_cases hopens : engine.opens (.object fields) = true <;>
    by_cases hshape : (Value.object fields).hasExpressionShape = true <;> simp [hopens, hshape]

theorem mem_inspected_iff {value node : Value} :
    node ∈ engine.inspected value ↔
      engine.Inspects value node ∧ node.hasExpressionShape = true := by
  constructor
  · intro h
    induction value using Value.induct with
    | null | bool | number | string => simp [inspected] at h
    | array items ih =>
      obtain ⟨item, hmem, hnode⟩ := mem_inspectedInItems.mp (by simpa only [inspected] using h)
      obtain ⟨hinspects, hshape⟩ := ih item hmem hnode
      exact ⟨.item hmem hinspects, hshape⟩
    | object fields ih =>
      rcases mem_inspected_object.mp h with ⟨rfl, hshape⟩ | ⟨hopens, entry, hmem, hnode⟩
      · exact ⟨.refl _, hshape⟩
      · obtain ⟨hinspects, hshape⟩ := ih entry hmem hnode
        exact ⟨.field hopens hmem hinspects, hshape⟩
  · rintro ⟨hinspects, hshape⟩
    induction hinspects with
    | refl value =>
      obtain ⟨name, operand, rfl, -⟩ := Value.hasExpressionShape_iff.mp hshape
      exact mem_inspected_object.mpr (.inl ⟨rfl, hshape⟩)
    | item hmem _ ih =>
      rw [inspected]
      exact mem_inspectedInItems.mpr ⟨_, hmem, ih hshape⟩
    | field hopens hmem _ ih =>
      exact mem_inspected_object.mpr (.inr ⟨hopens, _, hmem, ih hshape⟩)

theorem unknownsOfItems_eq {items : List Value}
    (h : ∀ item ∈ items, engine.unknowns item =
      (engine.inspected item).filterMap engine.unknown?) :
    unknownsOfItems engine items =
      (inspectedInItems engine items).filterMap engine.unknown? := by
  induction items with
  | nil => rfl
  | cons item rest ih =>
    obtain ⟨hitem, hrest⟩ := List.forall_mem_cons.mp h
    rw [unknownsOfItems, inspectedInItems, List.filterMap_append, hitem, ih hrest]

theorem unknownsOfFields_eq {fields : List (String × Value)}
    (h : ∀ entry ∈ fields, engine.unknowns entry.2 =
      (engine.inspected entry.2).filterMap engine.unknown?) :
    unknownsOfFields engine fields =
      (inspectedInFields engine fields).filterMap engine.unknown? := by
  induction fields with
  | nil => rfl
  | cons entry rest ih =>
    obtain ⟨name, value⟩ := entry
    obtain ⟨hentry, hrest⟩ := List.forall_mem_cons.mp h
    rw [unknownsOfFields, inspectedInFields, List.filterMap_append, ih hrest]
    exact congrArg (· ++ _) hentry

-- Validation reports the expressions that it inspects one by one.
theorem unknowns_eq (value : Value) :
    engine.unknowns value = (engine.inspected value).filterMap engine.unknown? := by
  induction value using Value.induct with
  | null | bool | number | string => rfl
  | array items ih =>
    rw [unknowns, inspected]
    exact unknownsOfItems_eq ih
  | object fields ih =>
    have hfields := unknownsOfFields_eq ih
    rw [unknowns, inspected]
    cases hnode : (Value.object fields).expression? with
    | none => simpa [opens, Value.hasExpressionShape, hnode] using hfields
    | some node =>
      obtain ⟨name, operand⟩ := node
      have hshape : (Value.object fields).hasExpressionShape = true := by
        simp [Value.hasExpressionShape, hnode]
      have hopens : engine.opens (.object fields) =
          (name != literalName && engine.registers name) := by
        simp [opens, hshape, Value.isLiteralEscape, Value.namesOne, hnode, bne]
      have hunknown : engine.unknown? (.object fields) =
          if engine.registers name then none else some ⟨name, operand, engine.names⟩ := by
        rw [unknown?, hnode]
      by_cases hregistered : engine.registers name = true
      · by_cases hliteral : name = literalName
        · subst hliteral
          simp [hshape, hopens, hunknown, hregistered]
        · simp [hshape, hopens, hunknown, hregistered, hliteral, hfields]
      · simp [hshape, hopens, hunknown, hregistered]

theorem unknown?_eq_none_iff {node : Value} (hshape : node.hasExpressionShape = true) :
    engine.unknown? node = none ↔ node.namesOne engine.registers = true := by
  obtain ⟨name, operand, rfl, hname⟩ := Value.hasExpressionShape_iff.mp hshape
  simp [unknown?, Value.namesOne, Value.expression?, hname]

-- One message for each unregistered expression, and none else.
theorem map_validate_eq (value : Value) :
    (engine.validate value).map some =
      ((engine.inspected value).filter fun node => !node.namesOne engine.registers).map
        fun node => (engine.unknown? node).map UnknownOperation.message := by
  have hshape : ∀ node ∈ engine.inspected value, node.hasExpressionShape = true :=
    fun node hmem => (mem_inspected_iff.mp hmem).2
  rw [validate, unknowns_eq]
  generalize engine.inspected value = nodes at hshape
  induction nodes with
  | nil => rfl
  | cons node rest ih =>
    obtain ⟨hnode, hrest⟩ := List.forall_mem_cons.mp hshape
    have hnone : engine.unknown? node = none ↔ node.namesOne engine.registers = true :=
      unknown?_eq_none_iff hnode
    cases hunknown : engine.unknown? node with
    | none => simpa [hunknown, hnone.mp hunknown] using ih hrest
    | some unknown =>
      have hregistered : node.namesOne engine.registers = false := by
        rw [Bool.eq_false_iff, ne_eq, ← hnone, hunknown]
        simp
      simpa [hunknown, hregistered] using ih hrest

-- All that validation comes across is the literal escape or unregistered.
def Inert (engine : Engine) (value : Value) : Prop :=
  ∀ node, engine.Inspects value node → node.hasExpressionShape = true →
    node.isLiteralEscape = true ∨ node.namesOne engine.registers = false

theorem opens_iff {value : Value} (hshape : value.hasExpressionShape = true) :
    engine.opens value = true ↔
      ¬(value.isLiteralEscape = true ∨ value.namesOne engine.registers = false) := by
  simp [opens, hshape]

-- Then it does not look into any expression.
theorem Inert.inspected_eq {value : Value} (hinert : engine.Inert value) :
    engine.inspected value = value.holes := by
  induction value using Value.induct with
  | null | bool | number | string => rfl
  | array items ih =>
    suffices hitems : ∀ part : List Value, (∀ item ∈ part, item ∈ items) →
        inspectedInItems engine part = Value.holesOfItems part from hitems items fun _ => id
    intro part hpart
    induction part with
    | nil => rfl
    | cons item rest ihrest =>
      obtain ⟨hitem, hrest⟩ := List.forall_mem_cons.mp hpart
      rw [inspectedInItems, Value.holesOfItems, ihrest hrest, ih item hitem fun node hnode =>
        hinert node (.item hitem hnode)]
  | object fields ih =>
    cases hshape : (Value.object fields).hasExpressionShape with
    | true =>
      have hopens : engine.opens (.object fields) = false := by
        rw [Bool.eq_false_iff, ne_eq, opens_iff hshape]
        exact not_not_intro (hinert _ (.refl _) hshape)
      simp [inspected, Value.holes, hshape, hopens]
    | false =>
      have hopens : engine.opens (.object fields) = true := by simp [opens, hshape]
      suffices hfields : ∀ part : List (String × Value), (∀ entry ∈ part, entry ∈ fields) →
          inspectedInFields engine part = Value.holesOfFields part by
        simpa [inspected, Value.holes, hshape, hopens] using hfields fields fun _ => id
      intro part hpart
      induction part with
      | nil => rfl
      | cons entry rest ihrest =>
        obtain ⟨hentry, hrest⟩ := List.forall_mem_cons.mp hpart
        rw [inspectedInFields, Value.holesOfFields, ihrest hrest, ih entry hentry fun node hnode =>
          hinert node (.field hopens hentry hnode)]

theorem resolveHole_of_unknown (dispatch : Call → Run Value) (request : Request) {hole : Value}
    {unknown : UnknownOperation} (h : engine.unknown? hole = some unknown) :
    engine.resolveHole dispatch request hole = .fail (.unknownOperation unknown) := by
  cases hnode : hole.expression? with
  | none =>
    rw [unknown?, hnode] at h
    cases h
  | some node =>
    obtain ⟨name, operand⟩ := node
    simp only [unknown?, hnode] at h
    simp only [resolveHole, hnode]
    split at h
    · cases h
    · cases h
      simp [*]

-- A value, or the failure for the first of some unknown operations if there are any.
def FailsFirst {α : Type} (unknowns : List UnknownOperation) (result : Except Failure α) : Prop :=
  match unknowns with
  | [] => ∃ a, result = .ok a
  | unknown :: _ => result = .error (.unknownOperation unknown)

theorem FailsFirst.map {α β : Type} {unknowns : List UnknownOperation}
    {result : Except Failure α} (h : FailsFirst unknowns result) (f : α → β) :
    FailsFirst unknowns (result.map f) := by
  cases unknowns with
  | nil =>
    obtain ⟨a, rfl⟩ := h
    exact ⟨f a, rfl⟩
  | cons unknown rest =>
    obtain rfl := h
    exact rfl

section Inert

variable (hplain : engine.middleware = [])
  (hliteral : engine.registers literalName = true → engine.Has [literalName])

include hplain hliteral

theorem resolveHole_of_escape (levels : Nat) (request : Request) {hole : Value}
    (hescape : hole.isLiteralEscape = true) (hregistered : hole.namesOne engine.registers = true)
    (world : Surroundings) :
    ∃ value, (engine.resolveHole (engine.dispatch (levels + 1)) request hole world).result =
      .ok value := by
  obtain ⟨value, rfl⟩ := Value.isLiteralEscape_iff.mp hescape
  have hname : engine.registers literalName = true := by
    obtain ⟨name, operand, heq, -, hname⟩ := Value.namesOne_iff.mp hregistered
    cases heq
    exact hname
  rw [Value.escape, (hliteral hname).resolveHole_eq hplain (List.mem_singleton_self _)
    Builtin.find?_literal]
  exact ⟨value, by cases request <;> rfl⟩

-- One hole after the other: the first unknown operation ends it, and nothing else does.
theorem inTurn_inert (levels : Nat) (request : Request) {holes : List Value}
    (hholes : ∀ hole ∈ holes, hole.hasExpressionShape = true ∧
      (hole.isLiteralEscape = true ∨ hole.namesOne engine.registers = false))
    (world : Surroundings) :
    FailsFirst (holes.filterMap engine.unknown?)
      (Run.inTurn (engine.resolveHole (engine.dispatch (levels + 1)) request) holes world).result := by
  induction holes generalizing world with
  | nil => exact ⟨[], rfl⟩
  | cons hole rest ih =>
    obtain ⟨⟨hshape, hinert⟩, hrest⟩ := List.forall_mem_cons.mp hholes
    rw [Run.inTurn, List.filterMap_cons]
    cases hunknown : engine.unknown? hole with
    | some unknown =>
      rw [resolveHole_of_unknown _ _ hunknown]
      exact rfl
    | none =>
      have hregistered := (unknown?_eq_none_iff hshape).mp hunknown
      have hescape := hinert.resolve_right (by simp [hregistered])
      obtain ⟨value, hvalue⟩ :=
        resolveHole_of_escape hplain hliteral levels request hescape hregistered world
      rcases hreport : engine.resolveHole (engine.dispatch (levels + 1)) request hole world with
        ⟨result, events, after⟩
      rw [hreport] at hvalue
      subst hvalue
      rw [Run.bind_of_ok hreport, Run.bind_done_comp]
      exact (ih hrest after).map (value :: ·)

-- If the literal escape is all that can be run, a request returns exactly if its expression is valid,
-- in any mode and on any input, and fails with the first message otherwise. The messages are those
-- for the unregistered expressions outside of one another and of what is escaped, in document order.
theorem Inert.resolve_iff_valid {request : Request} (hinert : engine.Inert request.expression) :
    (∀ world, (∃ value, (engine.resolve request world).result = .ok value) ↔
      engine.validate request.expression = []) ∧
    (∀ world message rest, engine.validate request.expression = message :: rest →
      ∃ unknown, (engine.resolve request world).result = .error (.unknownOperation unknown) ∧
        unknown.message = message) ∧
    (engine.validate request.expression).map some =
      ((engine.inspected request.expression).filter
        fun node => !node.namesOne engine.registers).map
          fun node => (engine.unknown? node).map UnknownOperation.message := by
  have hholes : ∀ hole ∈ request.expression.holes, hole.hasExpressionShape = true ∧
      (hole.isLiteralEscape = true ∨ hole.namesOne engine.registers = false) := by
    intro hole hmem
    obtain ⟨hinspects, hshape⟩ := mem_inspected_iff.mp (hinert.inspected_eq ▸ hmem)
    exact ⟨hshape, hinert hole hinspects hshape⟩
  have hfirst : ∀ world, FailsFirst (engine.unknowns request.expression)
      (engine.resolve request world).result := by
    intro world
    obtain ⟨levels, hlevels⟩ := engine.exists_levels request
    rw [hlevels, resolveWith, Value.fill_eq, Run.bind_done_comp, unknowns_eq, hinert.inspected_eq]
    exact (inTurn_inert hplain hliteral (levels + 1) request hholes world).map _
  refine ⟨fun world => ?_, fun world message rest hvalidate => ?_, map_validate_eq _⟩
  · have hworld := hfirst world
    rw [validate, List.map_eq_nil_iff]
    cases hunknowns : engine.unknowns request.expression with
    | nil =>
      rw [hunknowns] at hworld
      exact iff_of_true hworld rfl
    | cons unknown rest =>
      rw [hunknowns] at hworld
      simp [show (engine.resolve request world).result = _ from hworld]
  · obtain ⟨unknown, others, hunknowns, rfl, -⟩ := List.map_eq_cons_iff.mp hvalidate
    have hworld := hfirst world
    rw [hunknowns] at hworld
    exact ⟨unknown, hworld, rfl⟩

end Inert

-- Neither what is escaped nor what is inside an unknown operation counts.
theorem first_of_two_unknown :
    let engine := ofPacks []
    let first := Value.object [("$foo", .object [("$bar", .int 1)])]
    let second := Value.object [("$baz", .null)]
    let escaped := Value.escape (.object [("$bar", .int 2)])
    let expression := Value.array [escaped, .object [("$a", first), ("b", second)]]
    engine.middleware = [] ∧ engine.Has [literalName] ∧ engine.Inert expression ∧
      engine.inspected expression = [escaped, first, second] ∧
      ∀ input world, ∃ unknown,
        (engine.apply expression input world).result = .error (.unknownOperation unknown) ∧
          some unknown.message = (engine.unknown? first).map UnknownOperation.message := by
  intro engine first second escaped expression
  have hhas : engine.Has [literalName] := has_literal_of_build rfl
  have hinert : engine.Inert expression := by
    have hnodes : ∀ node ∈ engine.inspected expression,
        node.isLiteralEscape = true ∨ node.namesOne engine.registers = false := by decide
    exact fun node hinspects hshape => hnodes node (mem_inspected_iff.mpr ⟨hinspects, hshape⟩)
  refine ⟨rfl, hhas, hinert, rfl, fun input world => ?_⟩
  have hrequest : engine.Inert (Request.apply expression input).expression := hinert
  obtain ⟨-, hfails, -⟩ := Inert.resolve_iff_valid rfl (fun _ => hhas) hrequest
  obtain ⟨unknown, hresult, hmessage⟩ := hfails world _ _ rfl
  exact ⟨unknown, hresult, congrArg some hmessage⟩

end Engine

end JsonExpr
