import JsonExpr.Proofs.Engine.BuiltIn
import JsonExpr.Proofs.Run.Alike

-- Operations that an expression does not mention do not matter to it: engines of built-in
-- operations that agree on the keys of an expression resolve it alike, whatever names the input
-- holds.
namespace JsonExpr

namespace Value

mutual

-- The keys of all objects of the data, at any depth.
def mentioned : Value → List String
  | array items => mentionedInItems items
  | object fields => mentionedInFields fields
  | _ => []

def mentionedInItems : List Value → List String
  | [] => []
  | item :: rest => item.mentioned ++ mentionedInItems rest

def mentionedInFields : List (String × Value) → List String
  | [] => []
  | (name, value) :: rest => name :: (value.mentioned ++ mentionedInFields rest)

end

theorem mentioned_subset_of_mem_items {item : Value} {items : List Value} (hmem : item ∈ items) :
    item.mentioned ⊆ mentionedInItems items := by
  induction items with
  | nil => simp at hmem
  | cons head rest ih =>
    simp only [mentionedInItems]
    rcases List.mem_cons.mp hmem with rfl | hmem
    · exact List.subset_append_left _ _
    · exact List.subset_append_of_subset_right _ (ih hmem)

theorem mentioned_subset_of_mem_fields {entry : String × Value} {fields : List (String × Value)}
    (hmem : entry ∈ fields) : entry.2.mentioned ⊆ mentionedInFields fields := by
  induction fields with
  | nil => simp at hmem
  | cons head rest ih =>
    obtain ⟨name, value⟩ := head
    simp only [mentionedInFields]
    refine List.subset_cons_of_subset _ ?_
    rcases List.mem_cons.mp hmem with rfl | hmem
    · exact List.subset_append_left _ _
    · exact List.subset_append_of_subset_right _ (ih hmem)

theorem Part.mentioned_subset {whole part : Value} (h : Part whole part) :
    part.mentioned ⊆ whole.mentioned := by
  induction h with
  | refl => exact List.Subset.refl _
  | item hmem _ ih => exact List.Subset.trans ih (mentioned_subset_of_mem_items hmem)
  | field hmem _ ih => exact List.Subset.trans ih (mentioned_subset_of_mem_fields hmem)

theorem Part.mem_mentioned {whole operand : Value} {name : String}
    (h : Part whole (object [(name, operand)])) : name ∈ whole.mentioned :=
  h.mentioned_subset (by simp [mentioned, mentionedInFields])

end Value

-- Failures that are the same, or that report the same unknown operation among other names.
inductive Failure.SameButListing : Failure → Failure → Prop where
  | same (failure : Failure) : SameButListing failure failure
  | unknown (name : String) (operand : Value) (available available' : List String) :
      SameButListing (.unknownOperation ⟨name, operand, available⟩)
        (.unknownOperation ⟨name, operand, available'⟩)

instance : Std.Refl Failure.SameButListing := ⟨.same⟩

theorem Failure.SameButListing.reportedAs {failure failure' : Failure} (problem : DomainProblem)
    (h : SameButListing failure failure') :
    SameButListing (failure.reportedAs problem) (failure'.reportedAs problem) := by
  cases h with
  | same => exact .same _
  | unknown name operand available available' => exact .unknown name operand available available'

namespace Engine

-- Two engines have the same definitions under some names, or both have none.
def Agree (engine engine' : Engine) (names : List String) : Prop :=
  ∀ name ∈ names, engine.definitions.find? name = engine'.definitions.find? name

variable {engine engine' : Engine}

theorem Agree.mono {names fewer : List String} (h : engine.Agree engine' names)
    (hfewer : fewer ⊆ names) : engine.Agree engine' fewer :=
  fun name hmem => h name (hfewer hmem)

theorem Agree.registers {names : List String} (h : engine.Agree engine' names) {name : String}
    (hmem : name ∈ names) : engine.registers name = engine'.registers name := by
  simp only [Engine.registers, Fields.contains, h name hmem]

theorem Agree.namesOne {value : Value} (h : engine.Agree engine' value.mentioned) :
    value.namesOne engine.registers = value.namesOne engine'.registers := by
  unfold Value.namesOne
  split
  · next hnode =>
    obtain ⟨rfl, -⟩ := Value.expression?_eq_some_iff.mp hnode
    exact h.registers (Value.Part.refl _).mem_mentioned
  · rfl

theorem Agree.resolveWith_alike {dispatch dispatch' : Call → Run Value} {request : Request}
    (h : engine.Agree engine' request.expression.mentioned)
    (hdispatch : ∀ call : Call, request.expression.Exposed call.node →
      engine.registers call.name = true →
      Run.Alike Failure.SameButListing (dispatch call) (dispatch' call)) :
    Run.Alike Failure.SameButListing (engine.resolveWith dispatch request)
      (engine'.resolveWith dispatch' request) := by
  refine (Run.alikeness Failure.SameButListing).fill request.expression fun hole hmem => ?_
  obtain ⟨hexposed, hshape⟩ := Value.mem_holes_iff.mp hmem
  obtain ⟨name, operand, rfl, hname⟩ := Value.hasExpressionShape_iff.mp hshape
  rw [resolveHole_node _ _ hname, resolveHole_node _ _ hname,
    ← h.registers hexposed.part.mem_mentioned]
  cases hregistered : engine.registers name
  · exact fun _ => ⟨.error (.unknown name operand _ _), rfl, rfl⟩
  · refine hdispatch (callFor request name operand) ?_ ?_
    · rwa [callFor_node]
    · rwa [callFor_name]

-- What a call has resolved, and what it asks about, lies in its operand. So the engines give the
-- same answers on the way.
theorem BuiltIn.dispatch_alike (hbuiltin : engine.BuiltIn) (hplain : engine.middleware = [])
    (hplain' : engine'.middleware = []) (levels : Nat) {call : Call}
    (hregisters : engine.registers call.name = true)
    (h : engine.Agree engine' call.node.mentioned) :
    Run.Alike Failure.SameButListing (engine.dispatch levels call)
      (engine'.dispatch levels call) := by
  induction levels generalizing call with
  | zero => exact .refl _
  | succ levels ih =>
    obtain ⟨definition, hfind⟩ := Option.isSome_iff_exists.mp hregisters
    obtain ⟨entry, hmem, rfl⟩ := hbuiltin call.name definition hfind
    have hsupports := Builtin.supports_of_mem hmem call.mode
    have hfind' := (h call.name (Value.Part.refl _).mem_mentioned).symm.trans hfind
    have hoperand : engine.Agree engine' call.operand.mentioned :=
      h.mono (Value.mentioned_subset_of_mem_fields (List.mem_singleton_self (call.name, _)))
    simp only [dispatch, hplain, hplain']
    change Run.Alike _ (engine.invoke _ call) (engine'.invoke _ call)
    rw [invoke_of_find? hfind hsupports, invoke_of_find? hfind' hsupports]
    refine (Run.Alike.refl _).bind fun _ _ => ?_
    refine (Run.alikeness Failure.SameButListing).run
      (Builtin.inside_of_mem hmem engine.registers _ _ _)
      ⟨fun _ _ => trivial, fun _ _ _ => Failure.SameButListing.reportedAs, fun _ => trivial,
        False.elim⟩
      (fun request hresolves => ?_) fun value hpart => ?_
    · have hsubset : request.expression.mentioned ⊆ call.operand.mentioned := by
        rcases hresolves with hnull | hpart
        · simp [hnull, Value.mentioned]
        · exact hpart.mentioned_subset
      refine (hoperand.mono hsubset).resolveWith_alike fun inner hexposed hregistered => ?_
      have hinner := List.Subset.trans hexposed.part.mentioned_subset hsubset
      exact ih hregistered (hoperand.mono hinner)
    · exact (hoperand.mono hpart.mentioned_subset).namesOne

-- Engines that agree on the names mentioned in a request resolve it to the same value or to the
-- same failure, up to the names listed in it, with the same log.
theorem BuiltIn.resolve_alike_of_agree (hbuiltin : engine.BuiltIn)
    (hplain : engine.middleware = []) (hplain' : engine'.middleware = []) {request : Request}
    (h : engine.Agree engine' request.expression.mentioned) (world : Surroundings) :
    (engine.resolve request world).Alike Failure.SameButListing (engine'.resolve request world) :=
  h.resolveWith_alike (fun _ hexposed hregistered =>
    hbuiltin.dispatch_alike hplain hplain' _ hregistered
      (h.mono hexposed.part.mentioned_subset)) world

-- Under a name an engine of shipped packs has the built-in operation of this name or nothing.
theorem Shipped.agree (hshipped : engine.Shipped) (hshipped' : engine'.Shipped)
    {names : List String} (h : ∀ name ∈ names, engine.registers name = engine'.registers name) :
    engine.Agree engine' names := by
  intro name hmem
  have hregisters := h name hmem
  simp only [registers, Fields.contains] at hregisters
  cases hfind : engine.definitions.find? name with
  | none =>
    rw [hfind] at hregisters
    exact (Option.isSome_eq_false_iff.mp hregisters.symm |> Option.isNone_iff_eq_none.mp).symm
  | some definition =>
    rw [hfind] at hregisters
    obtain ⟨definition', hfind'⟩ := Option.isSome_iff_exists.mp hregisters.symm
    obtain ⟨operation, hoperation, rfl⟩ := hshipped.defines hfind
    obtain ⟨operation', hoperation', rfl⟩ := hshipped'.defines hfind'
    rw [hfind', Option.some.inj (hoperation.symm.trans hoperation')]

-- A condition that names no operation of either engine is data for both, though the sum is built
-- in, and the input names operations that only one engine has.
theorem absent_condition_agrees :
    let engine := ofPacks []
    let engine' := ofPacks [Builtin.mathPack, Builtin.aggregationPack] none true ["$sum"]
    let request := Request.apply
      (.object [("$matches", .object
        [("total", .object [("$sum", .null)]), ("size", .object [("$gt", .int 1)])])])
      (.object [("total", .object [("$sum", .null)]), ("size", .int 3),
        ("more", .object [("$add", .array [.int 1, .int 2])])])
    engine.BuiltIn ∧ engine'.BuiltIn ∧ engine.middleware = [] ∧ engine'.middleware = [] ∧
      engine.Agree engine' request.expression.mentioned ∧
      ∀ world, (engine.resolve request world).Alike Failure.SameButListing
        (engine'.resolve request world) := by
  intro engine engine' request
  have hshipped : engine.Shipped := shipped_ofPacks_nil
  have hshipped' : engine'.Shipped :=
    ⟨[Builtin.mathPack, Builtin.aggregationPack], true, ["$sum"],
      by simp [Builtin.packs, Fields.values], rfl⟩
  have hagree : engine.Agree engine' request.expression.mentioned :=
    hshipped.agree hshipped' (by decide)
  exact ⟨hshipped.builtIn, hshipped'.builtIn, rfl, rfl, hagree,
    hshipped.builtIn.resolve_alike_of_agree rfl rfl hagree⟩

end Engine

end JsonExpr
