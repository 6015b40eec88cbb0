import JsonExpr.Proofs.Builtin.Ordinary
import JsonExpr.Proofs.Run.Congruence

-- Engines that hold built-in operations only.
namespace JsonExpr

namespace Builtin

theorem find?_literal : operations.find? literalName = some literalOperation := by
  simp [operations, Fields.find?, literalName]

theorem find?_matches : operations.find? "$matches" = some matchesAll := by
  simp [operations, Fields.find?]

theorem find?_filterBy : operations.find? "$filterBy" = some filterBy := by
  simp [operations, Fields.find?]

theorem find?_case : operations.find? "$case" = some caseOf := by
  simp [operations, Fields.find?]

-- A definition that stands for the built-in operation of its own name.
def Defines (name : String) (definition : Definition) : Prop :=
  ∃ operation, operations.find? name = some operation ∧
    definition = .operation { operation with name }

-- An entry of a pack that is the built-in operation of its own name.
def Provides (entry : String × Entry) : Prop :=
  ∃ operation, operations.find? entry.1 = some operation ∧ entry.2 = .operation operation

theorem Provides.defines {entry : String × Entry} (h : Provides entry) :
    Defines entry.1 (entry.2.register entry.1) := by
  obtain ⟨operation, hfind, hentry⟩ := h
  exact ⟨operation, hfind, by rw [hentry]; rfl⟩

theorem packOf_provides (names : List String) : ∀ entry ∈ packOf names, Provides entry := by
  intro entry h
  obtain ⟨name, -, hname⟩ := List.mem_filterMap.mp h
  obtain ⟨operation, hfind, heq⟩ := Option.bind_eq_some_iff.mp hname
  cases heq
  exact ⟨operation, hfind, rfl⟩

theorem provides_of_mem_foldl_merge {packs : List Pack} {start : Pack}
    (hstart : ∀ entry ∈ start, Provides entry)
    (hpacks : ∀ pack ∈ packs, ∀ entry ∈ pack, Provides entry) :
    ∀ entry ∈ packs.foldl Fields.merge start, Provides entry := by
  induction packs generalizing start with
  | nil => exact hstart
  | cons pack rest ih =>
    obtain ⟨hpack, hrest⟩ := List.forall_mem_cons.mp hpacks
    refine ih (fun entry hmem => ?_) hrest
    exact (Fields.mem_merge hmem).elim (hstart entry) (hpack entry)

theorem allPack_provides : ∀ entry ∈ allPack, Provides entry := by
  refine provides_of_mem_foldl_merge (by simp) ?_
  simp only [List.forall_mem_cons, List.not_mem_nil, false_implies, implies_true, and_true]
  and_intros <;> exact packOf_provides _

-- The shipped packs provide every operation under its usual name.
theorem provides_of_mem_packs {pack : Pack} (hpack : pack ∈ Fields.values packs) :
    ∀ entry ∈ pack, Provides entry := by
  revert pack
  simp only [Fields.values, packs, List.map_cons, List.map_nil, List.forall_mem_cons,
    List.not_mem_nil, false_implies, implies_true, and_true]
  refine ⟨packOf_provides _, allPack_provides, ?_⟩
  and_intros <;> exact packOf_provides _

end Builtin

namespace Definitions

theorem forall_mem_define {motive : String → Definition → Prop} {definitions : Definitions}
    {entry : String × Entry} (hentry : motive entry.1 (entry.2.register entry.1))
    (h : ∀ defined ∈ definitions, motive defined.1 defined.2) :
    ∀ defined ∈ define definitions entry, motive defined.1 defined.2 := by
  intro defined hmem
  rcases Fields.mem_insert hmem with rfl | hmem
  · exact hentry
  · exact h defined hmem

theorem forall_mem_foldl_define {motive : String → Definition → Prop}
    {definitions : Definitions} {pack : Pack}
    (hpack : ∀ entry ∈ pack, motive entry.1 (entry.2.register entry.1))
    (h : ∀ defined ∈ definitions, motive defined.1 defined.2) :
    ∀ defined ∈ pack.foldl define definitions, motive defined.1 defined.2 := by
  induction pack generalizing definitions with
  | nil => exact h
  | cons entry rest ih =>
    obtain ⟨hentry, hrest⟩ := List.forall_mem_cons.mp hpack
    exact ih hrest (forall_mem_define hentry h)

-- What holds of every entry of the packs and of the literal escape holds of all definitions.
theorem forall_mem_build {motive : String → Definition → Prop} {base : Pack} {packs : List Pack}
    {custom : Option Pack} {includeBase : Bool} {exclude : List String}
    (hlayers : ∀ pack ∈ layers base packs custom includeBase, ∀ entry ∈ pack,
      motive entry.1 (entry.2.register entry.1))
    (hliteral : motive literalName (.operation literalOperation)) :
    ∀ defined ∈ build base packs custom includeBase exclude, motive defined.1 defined.2 := by
  have hfolded : ∀ (layers : List Pack) (definitions : Definitions),
      (∀ pack ∈ layers, ∀ entry ∈ pack, motive entry.1 (entry.2.register entry.1)) →
      (∀ defined ∈ definitions, motive defined.1 defined.2) →
      ∀ defined ∈ layers.foldl (fun definitions pack => pack.foldl define definitions) definitions,
        motive defined.1 defined.2 := by
    intro layers
    induction layers with
    | nil => exact fun _ _ h => h
    | cons pack rest ih =>
      intro definitions hpacks h
      obtain ⟨hpack, hrest⟩ := List.forall_mem_cons.mp hpacks
      exact ih _ hrest (forall_mem_foldl_define hpack h)
  have hkept : ∀ (names : List String) (definitions : Definitions),
      (∀ defined ∈ definitions, motive defined.1 defined.2) →
      ∀ defined ∈ names.foldl (fun definitions name => Fields.erase name definitions) definitions,
        motive defined.1 defined.2 := by
    intro names
    induction names with
    | nil => exact fun _ h => h
    | cons name rest ih =>
      exact fun definitions h => ih _ fun defined hmem => h defined (List.mem_filter.mp hmem).1
  intro defined hmem
  rcases Fields.mem_insert hmem with rfl | hmem
  · exact hliteral
  · exact hkept exclude _ (hfolded _ [] hlayers (by simp)) defined hmem

theorem find?_build_literal {base : Pack} {packs : List Pack} {custom : Option Pack}
    {includeBase : Bool} {exclude : List String} :
    Fields.find? literalName (build base packs custom includeBase exclude) =
      some (.operation literalOperation) := by
  rw [build, Fields.find?_insert, if_pos rfl]

end Definitions

-- The name of an operation only matters for a mode that it does not support.
theorem Operation.call_rename {operation : Operation} {mode : Mode}
    (hsupports : operation.supports mode = true) {name : String} (operand input : Value) :
    { operation with name }.call mode operand input = operation.call mode operand input := by
  cases mode <;> obtain ⟨form, hform⟩ := Option.isSome_iff_exists.mp hsupports <;>
    simp [call, hform]

namespace Engine

def Shipped (engine : Engine) : Prop :=
  ∃ packs includeBase exclude, (∀ pack ∈ packs, pack ∈ Fields.values Builtin.packs) ∧
    engine = .ofPacks packs none includeBase exclude

theorem shipped_ofPacks_nil : (ofPacks []).Shipped := ⟨[], true, [], by simp, rfl⟩

-- Every definition is one of the built-in operations, under whatever name.
def BuiltIn (engine : Engine) : Prop :=
  ∀ name definition, engine.definitions.find? name = some definition →
    ∃ entry ∈ Builtin.operations, definition = .operation { entry.2 with name }

variable {engine : Engine}

theorem invoke_of_find? {operation : Operation} {call : Call}
    (hfind : engine.definitions.find? call.name =
      some (.operation { operation with name := call.name }))
    (hsupports : operation.supports call.mode = true) (resolve : Request → Run Value) :
    engine.invoke resolve call = (Run.note (.dispatching call.name call.mode)).bind fun _ =>
      (operation.call call.mode call.operand call.input).run resolve engine.registers := by
  simp only [invoke, hfind, Operation.call_rename hsupports]

theorem BuiltIn.invoke_eq (h : engine.BuiltIn) (call : Call)
    (hregisters : engine.registers call.name = true) :
    ∃ entry ∈ Builtin.operations, ∀ resolve, engine.invoke resolve call =
      (Run.note (.dispatching call.name call.mode)).bind fun _ =>
        (entry.2.call call.mode call.operand call.input).run resolve engine.registers := by
  obtain ⟨definition, hfind⟩ := Option.isSome_iff_exists.mp hregisters
  obtain ⟨entry, hmem, rfl⟩ := h call.name definition hfind
  exact ⟨entry, hmem, invoke_of_find? hfind (Builtin.supports_of_mem hmem call.mode)⟩

-- A call in an engine of built-in operations only leads to calls for expressions of its operand.
theorem BuiltIn.invoke_related (h : engine.BuiltIn) (c : Run.Congruence)
    (dispatch dispatch' : Call → Run Value) {call : Call}
    (hregisters : engine.registers call.name = true)
    (hpermits : c.Permits (.inside engine.registers call.operand))
    (hnotes : c.Notes (.dispatching call.name call.mode))
    (hunknown : ∀ unknown, c.Fails (.unknownOperation unknown))
    (hdispatch : ∀ inner : Call, isOperationName inner.name = true →
      call.operand.Part inner.node → engine.registers inner.name = true →
      c.Related (dispatch inner) (dispatch' inner)) :
    c.Related (engine.invoke (engine.resolveWith dispatch) call)
      (engine.invoke (engine.resolveWith dispatch') call) := by
  obtain ⟨entry, hmem, hinvoke⟩ := h.invoke_eq call hregisters
  rw [hinvoke, hinvoke]
  refine c.bind (c.note hnotes) fun _ => ?_
  refine c.run (Builtin.inside_of_mem hmem engine.registers _ _ _) hpermits
    (fun request hresolves => ?_) fun _ _ => rfl
  refine c.resolveWith _ _ rfl (fun _ _ _ _ _ => hunknown _) ?_
  intro inner hname hexposed hregistered
  refine hdispatch inner hname ?_ hregistered
  rcases hresolves with hnull | hpart
  · rw [hnull] at hexposed
    cases hexposed
  · exact hpart.trans hexposed.part

theorem Shipped.defines (h : engine.Shipped) {name : String} {definition : Definition}
    (hfind : engine.definitions.find? name = some definition) :
    Builtin.Defines name definition := by
  obtain ⟨packs, includeBase, exclude, hpacks, rfl⟩ := h
  refine Definitions.forall_mem_build ?_ ?_ _ (Fields.mem_of_find? hfind)
  · intro pack hpack entry hmem
    refine Builtin.Provides.defines ?_
    simp only [Definitions.layers, Option.toList_none, List.append_nil, List.mem_append] at hpack
    rcases hpack with hbase | hpack
    · split at hbase
      · rw [List.mem_singleton.mp hbase] at hmem
        exact Builtin.packOf_provides _ entry hmem
      · simp at hbase
    · exact Builtin.provides_of_mem_packs (hpacks pack hpack) entry hmem
  · exact ⟨literalOperation, Builtin.find?_literal, rfl⟩

theorem Shipped.invoke_eq (h : engine.Shipped) (call : Call)
    (hregisters : engine.registers call.name = true) :
    ∃ operation, Builtin.operations.find? call.name = some operation ∧
      ∀ resolve, engine.invoke resolve call =
        (Run.note (.dispatching call.name call.mode)).bind fun _ =>
          (operation.call call.mode call.operand call.input).run resolve engine.registers := by
  obtain ⟨definition, hfind⟩ := Option.isSome_iff_exists.mp hregisters
  obtain ⟨operation, hoperation, rfl⟩ := h.defines hfind
  have hmem := Fields.mem_of_find? hoperation
  exact ⟨operation, hoperation, invoke_of_find? hfind (Builtin.supports_of_mem hmem call.mode)⟩

theorem Shipped.builtIn (h : engine.Shipped) : engine.BuiltIn := by
  intro name definition hfind
  obtain ⟨operation, hoperation, rfl⟩ := h.defines hfind
  exact ⟨(name, operation), Fields.mem_of_find? hoperation, rfl⟩

theorem Shipped.middleware_eq_nil (h : engine.Shipped) : engine.middleware = [] := by
  obtain ⟨packs, includeBase, exclude, -, rfl⟩ := h
  rfl

theorem Shipped.find?_literal (h : engine.Shipped) :
    engine.definitions.find? literalName = some (.operation literalOperation) := by
  obtain ⟨packs, includeBase, exclude, -, rfl⟩ := h
  exact Definitions.find?_build_literal

-- From the outside there are always levels enough for a dispatch and another one inside it.
theorem exists_levels (engine : Engine) (request : Request) :
    ∃ levels, engine.resolve request = engine.resolveWith (engine.dispatch (levels + 2)) request :=
  ⟨request.expression.depth + 998, rfl⟩

-- The engine has the built-in operations of the given names, and maybe others.
def Has (engine : Engine) (names : List String) : Prop :=
  ∀ name ∈ names, ∃ operation, Builtin.operations.find? name = some operation ∧
    engine.definitions.find? name = some (.operation { operation with name })

-- Packs put together have the literal escape, whatever they are.
theorem has_literal_of_build {base : Pack} {packs : List Pack} {custom : Option Pack}
    {includeBase : Bool} {exclude : List String}
    (hbuild : engine.definitions = .build base packs custom includeBase exclude) :
    engine.Has [literalName] := by
  intro name hmem
  obtain rfl := List.mem_singleton.mp hmem
  exact ⟨literalOperation, Builtin.find?_literal, hbuild ▸ Definitions.find?_build_literal⟩

theorem Shipped.has (h : engine.Shipped) {names : List String}
    (hregisters : ∀ name ∈ names, engine.registers name = true) : engine.Has names := by
  intro name hmem
  obtain ⟨definition, hfind⟩ := Option.isSome_iff_exists.mp (hregisters name hmem)
  obtain ⟨operation, hoperation, rfl⟩ := h.defines hfind
  exact ⟨operation, hoperation, hfind⟩

-- The innermost step of a call of such an operation runs it.
theorem Has.invoke_eq {names : List String} (hhas : engine.Has names) {name : String}
    (hname : name ∈ names) {operation : Operation}
    (hfind : Builtin.operations.find? name = some operation) (resolve : Request → Run Value)
    (mode : Mode) (operand input : Value) :
    engine.invoke resolve { name, mode, operand, input } =
      (Run.note (.dispatching name mode)).bind fun _ =>
        (operation.call mode operand input).run resolve engine.registers := by
  obtain ⟨found, hfound, hregistered⟩ := hhas name hname
  obtain rfl : operation = found := Option.some.inj (hfind.symm.trans hfound)
  have hsupports := Builtin.supports_of_mem (Fields.mem_of_find? hfind) mode
  exact invoke_of_find? hregistered hsupports resolve

theorem Has.dispatch_eq {names : List String} (hhas : engine.Has names)
    (hplain : engine.middleware = []) {name : String} (hname : name ∈ names) :
    ∃ operation, Builtin.operations.find? name = some operation ∧
      ∀ levels mode operand input, engine.dispatch (levels + 1) { name, mode, operand, input } =
        (Run.note (.dispatching name mode)).bind fun _ =>
          (operation.call mode operand input).run (engine.resolveWith (engine.dispatch levels))
            engine.registers := by
  obtain ⟨operation, hoperation, -⟩ := hhas name hname
  refine ⟨operation, hoperation, fun levels mode operand input => ?_⟩
  simp only [dispatch, hplain]
  exact hhas.invoke_eq hname hoperation _ mode operand input

theorem mem_keys_of_find? {name : String} {operation : Operation}
    (hfind : Builtin.operations.find? name = some operation) : name ∈ Builtin.operations.keys :=
  (Fields.find?_isSome_iff name _).mp (by simp [hfind])

theorem isOperationName_of_find? {name : String} {operation : Operation}
    (hfind : Builtin.operations.find? name = some operation) : isOperationName name = true := by
  have hall : ∀ name ∈ Builtin.operations.keys, isOperationName name = true := by
    simp [Builtin.operations, isOperationName, sigil]
  exact hall name (mem_keys_of_find? hfind)

theorem Has.registers {names : List String} (hhas : engine.Has names) {name : String}
    (hname : name ∈ names) : engine.registers name = true := by
  obtain ⟨_, -, hregistered⟩ := hhas name hname
  simp [Engine.registers, Fields.contains, hregistered]

theorem depth_node (name : String) (operand : Value) :
    (Value.object [(name, operand)]).depth + allowance = operand.depth + allowance + 1 := by
  simp only [Value.depth, Value.depthOfFields]
  omega

section Nodes

variable {names : List String} (hhas : engine.Has names) (hplain : engine.middleware = [])
  {name : String} (hname : name ∈ names) {operation : Operation}
  (hfind : Builtin.operations.find? name = some operation)

include hhas hplain hname hfind

-- An expression of a built-in operation among the holes runs the operation.
theorem Has.resolveHole_eq (levels : Nat) (request : Request) (operand : Value) :
    let call := callFor request name operand
    engine.resolveHole (engine.dispatch (levels + 1)) request (.object [(name, operand)]) =
      (Run.note (.dispatching name call.mode)).bind fun _ =>
        (operation.call call.mode operand call.input).run
          (engine.resolveWith (engine.dispatch levels)) engine.registers := by
  obtain ⟨found, hfound, hdispatch⟩ := hhas.dispatch_eq hplain hname
  obtain rfl : operation = found := Option.some.inj (hfind.symm.trans hfound)
  rw [resolveHole_node _ _ (isOperationName_of_find? hfind), if_pos (hhas.registers hname)]
  cases request with
  | apply _ input => exact hdispatch levels .apply operand input
  | evaluate => exact hdispatch levels .evaluate operand .null

-- So does a request for it.
theorem Has.resolveWith_eq (levels : Nat) {request : Request} {operand : Value}
    (hexpression : request.expression = .object [(name, operand)]) :
    let call := callFor request name operand
    engine.resolveWith (engine.dispatch (levels + 1)) request =
      (Run.note (.dispatching name call.mode)).bind fun _ =>
        (operation.call call.mode operand call.input).run
          (engine.resolveWith (engine.dispatch levels)) engine.registers := by
  have hoperation := isOperationName_of_find? hfind
  rw [resolveWith_node _ hexpression hoperation, ← resolveHole_node _ _ hoperation]
  exact hhas.resolveHole_eq hplain hname hfind levels request operand

-- From the outside it does so with levels left for what stands inside.
theorem Has.resolve_eq (request : Request) {operand : Value}
    (hexpression : request.expression = .object [(name, operand)]) :
    let call := callFor request name operand
    ∃ levels, engine.resolve request =
      (Run.note (.dispatching name call.mode)).bind fun _ =>
        (operation.call call.mode operand call.input).run
          (engine.resolveWith (engine.dispatch (levels + 1))) engine.registers := by
  obtain ⟨levels, hlevels⟩ := engine.exists_levels request
  exact ⟨levels, hlevels.trans
    (hhas.resolveWith_eq hplain hname hfind (levels + 1) hexpression)⟩

-- So much is left that the operand as a whole comes to what it comes to on its own.
theorem Has.resolve_operand (request : Request) {operand : Value}
    (hexpression : request.expression = .object [(name, operand)]) :
    let call := callFor request name operand
    engine.resolve request = (Run.note (.dispatching name call.mode)).bind fun _ =>
      (operation.call call.mode operand call.input).run
        (engine.resolveWith (engine.dispatch (operand.depth + allowance))) engine.registers := by
  rw [resolve, hexpression, depth_node]
  exact hhas.resolveWith_eq hplain hname hfind (operand.depth + allowance) hexpression

end Nodes

-- The literal escape returns what it wraps.
theorem Has.resolveWith_literal {names : List String} (hhas : engine.Has names)
    (hplain : engine.middleware = []) (hname : literalName ∈ names) (levels : Nat)
    {request : Request} {value : Value}
    (hexpression : request.expression = .object [(literalName, value)]) :
    engine.resolveWith (engine.dispatch (levels + 1)) request =
      (Run.note (.dispatching literalName (callFor request literalName value).mode)).bind fun _ =>
        .done value := by
  rw [hhas.resolveWith_eq hplain hname Builtin.find?_literal levels hexpression]
  cases request <;> rfl

-- The engine of all built-in operations and nothing else.
def complete : Engine where
  definitions := Builtin.operations.map fun entry =>
    (entry.1, .operation { entry.2 with name := entry.1 })

theorem complete_builtIn : complete.BuiltIn := by
  intro name definition hfind
  obtain ⟨entry, hmem, heq⟩ := List.mem_map.mp (Fields.mem_of_find? hfind)
  obtain ⟨rfl, rfl⟩ := Prod.mk.inj heq
  exact ⟨entry, hmem, rfl⟩

theorem complete_has {names : List String}
    (hnames : ∀ name ∈ names, (Builtin.operations.find? name).isSome = true) :
    complete.Has names := by
  intro name hmem
  obtain ⟨operation, hfind⟩ := Option.isSome_iff_exists.mp (hnames name hmem)
  let define (name : String) (operation : Operation) : Definition :=
    .operation { operation with name }
  have hmap := Fields.find?_map define name Builtin.operations
  rw [hfind] at hmap
  exact ⟨operation, hfind, hmap⟩

end Engine

end JsonExpr
